import WireTree.Declaration.Basic
import WireTree.Expression.Wire

/-!
# Declarations and compilations on the wire

Argument tuples, type items, and of specializations the signature, implementation, documentation
and comments are not read.
-/

namespace WireTree.Wire

/-- The kinds of local symbols. -/
inductive LocalSymbolTag where
  | validName
  | invalidName
deriving DecidableEq

instance : UnionTag LocalSymbolTag where
  all := [.validName, .invalidName]
  name
    | .validName => "ValidName"
    | .invalidName => "InvalidName"
  union := "LocalSymbol"

/-- A local symbol union. -/
structure LocalSymbol where
  kind : Discriminator LocalSymbolTag
  name : Option String
deriving DecidableEq

/-- An attribute of a declaration. -/
structure DeclarationAttribute where
  typeId : Option UserDefinedType
  typeIdRange : Option Range
  argument : TypedExpression
  offset : Position
  comments : Comments
deriving BEq

/-- The signature of a callable. -/
structure ResolvedSignature where
  typeParameters : List LocalSymbol
  argumentType : ResolvedType
  returnType : ResolvedType
  information : CallableInformation
deriving DecidableEq

/-- A specialization of a callable. -/
structure Specialization where
  kind : SpecializationKind
  parent : QualifiedName
  attributes : List DeclarationAttribute
  source : Source
  location : Option Location
  typeArguments : Option (List ResolvedType)
deriving BEq

/-- The declaration of a callable. -/
structure Callable where
  kind : CallableKind
  fullName : QualifiedName
  attributes : List DeclarationAttribute
  modifiers : Modifiers
  source : Source
  location : Option Location
  signature : ResolvedSignature
  specializations : List Specialization
  documentation : List String
  comments : Comments
deriving BEq

/-- The declaration of a user-defined type. -/
structure CustomType where
  fullName : QualifiedName
  attributes : List DeclarationAttribute
  modifiers : Modifiers
  source : Source
  location : Option Location
  type : ResolvedType
  documentation : List String
  comments : Comments
deriving BEq

/-- The kinds of declarations. -/
inductive NamespaceElementTag where
  | callable
  | customType
deriving DecidableEq

instance : UnionTag NamespaceElementTag where
  all := [.callable, .customType]
  name
    | .callable => "Callable"
    | .customType => "CustomType"
  union := "NamespaceElement"

/-- A declaration union. -/
structure NamespaceElement where
  kind : Discriminator NamespaceElementTag
  callable : Option Callable
  customType : Option CustomType
deriving BEq

/-- One block of documentation, as it was written in a source file. -/
structure SourceFileDocumentation where
  fileName : String
  documentationItems : List String
deriving DecidableEq

/-- A namespace with its declarations, in source order, and its documentation blocks. -/
structure Namespace where
  name : String
  elements : List NamespaceElement
  documentation : List SourceFileDocumentation
deriving BEq

/-- A compiled program, with the callables that are marked as entry points. -/
structure Compilation where
  namespaces : List Namespace
  entryPoints : List QualifiedName
deriving BEq

end WireTree.Wire
