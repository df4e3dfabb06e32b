import WireTree.Declaration.Tuple
import WireTree.Deferred
import WireTree.Expression.Basic
import WireTree.Table

/-!
# Declarations and compilations

Callables with their specializations, user-defined types, and the namespaces of a program that
hold them.
-/

namespace WireTree

/-- Comments around a declaration. -/
structure Comments where
  openingComments : List String
  closingComments : List String
deriving DecidableEq

/-- No comments. -/
def Comments.empty : Comments := ⟨[], []⟩

/-- Who may use a declaration. -/
inductive AccessModifier where
  | defaultAccess
  | internal
deriving DecidableEq

instance : Named AccessModifier where
  all := [.defaultAccess, .internal]
  name
    | .defaultAccess => "DefaultAccess"
    | .internal => "Internal"

/-- The modifiers of a declaration. -/
structure Modifiers where
  access : AccessModifier
deriving DecidableEq

/-- The modifiers of a declaration that is written without any. -/
def Modifiers.standard : Modifiers := ⟨.defaultAccess⟩

/-- The file that a declaration comes from, and the compiled assembly that it was loaded from,
if it was. -/
structure Source where
  codeFile : String
  assemblyFile : Option String
deriving DecidableEq

/-- No file. -/
def Source.empty : Source := ⟨"", none⟩

/-- What a callable is. -/
inductive CallableKind where
  | operation
  | function
  | typeConstructor
deriving DecidableEq

instance : Named CallableKind where
  all := [.operation, .function, .typeConstructor]
  name
    | .operation => "Operation"
    | .function => "Function"
    | .typeConstructor => "TypeConstructor"

/-- The functors that a specialization implements. -/
inductive SpecializationKind where
  | body
  | adjoint
  | controlled
  | controlledAdjoint
deriving DecidableEq

instance : Named SpecializationKind where
  all := [.body, .adjoint, .controlled, .controlledAdjoint]
  name
    | .body => "Body"
    | .adjoint => "Adjoint"
    | .controlled => "Controlled"
    | .controlledAdjoint => "ControlledAdjoint"

/-- How a specialization is generated from the body. -/
inductive GeneratorDirective where
  | selfInverse
  | distribute
  | invert
  | invalidGenerator
deriving DecidableEq

instance : Named GeneratorDirective where
  all := [.selfInverse, .distribute, .invert, .invalidGenerator]
  name
    | .selfInverse => "SelfInverse"
    | .distribute => "Distribute"
    | .invert => "Invert"
    | .invalidGenerator => "InvalidGenerator"

/-- A name declared in local scope. -/
inductive LocalSymbol where
  | validName (name : String)
  /-- a name that could not be made out -/
  | invalidName
deriving DecidableEq

/-- A variable declared in local scope, named by `N`. The range of the name is relative to the
position. -/
structure LocalVariableDeclaration (N : Type) where
  variableName : N
  type : ResolvedType
  inferredInformation : InferredExpressionInformation
  position : Option Position
  range : Range
deriving DecidableEq

/-- The parameters of a callable. -/
abbrev ArgumentTuple := Tuple (LocalVariableDeclaration LocalSymbol)

/-- An item of a user-defined type. -/
inductive TypeItem where
  /-- an item with a name -/
  | named (item : LocalVariableDeclaration String)
  /-- an item that only unwrapping reaches -/
  | anonymous (type : ResolvedType)
deriving DecidableEq

/-- An attribute of a declaration. -/
structure DeclarationAttribute where
  typeId : Option UserDefinedType
  typeIdRange : Option Range
  argument : TypedExpression
  offset : Position
  comments : Comments
deriving DecidableEq

/-- The signature of a callable. -/
structure ResolvedSignature where
  typeParameters : List LocalSymbol
  argumentType : ResolvedType
  returnType : ResolvedType
  information : CallableInformation
deriving DecidableEq

/-- The implementation of a specialization. -/
inductive SpecializationImplementation where
  /-- provided by the machine -/
  | intrinsic
  /-- provided by an external library -/
  | external
  /-- generated from another specialization -/
  | generated (directive : GeneratorDirective)
  /-- written out, with these arguments -/
  | provided (arguments : ArgumentTuple)
deriving DecidableEq

/-- A specialization of a callable. -/
structure Specialization where
  kind : SpecializationKind
  parent : QualifiedName
  attributes : List DeclarationAttribute
  source : Source
  location : Option Location
  typeArguments : Option (List ResolvedType)
  signature : Deferred ResolvedSignature
  implementation : Deferred SpecializationImplementation
  documentation : Deferred (List String)
  comments : Deferred Comments
deriving DecidableEq

/-- The declaration of a callable. -/
structure Callable where
  kind : CallableKind
  fullName : QualifiedName
  attributes : List DeclarationAttribute
  modifiers : Modifiers
  source : Source
  location : Option Location
  signature : ResolvedSignature
  argumentTuple : Deferred ArgumentTuple
  specializations : List Specialization
  documentation : List String
  comments : Comments
deriving DecidableEq

/-- The declaration of a user-defined type. -/
structure CustomType where
  fullName : QualifiedName
  attributes : List DeclarationAttribute
  modifiers : Modifiers
  source : Source
  location : Option Location
  type : ResolvedType
  typeItems : Deferred (Tuple TypeItem)
  documentation : List String
  comments : Comments
deriving DecidableEq

/-- A declaration in a namespace. -/
inductive NamespaceElement where
  | callable (callable : Callable)
  | customType (customType : CustomType)
deriving DecidableEq

/-- The name of a declaration. -/
def NamespaceElement.fullName : NamespaceElement → QualifiedName
  | .callable c => c.fullName
  | .customType t => t.fullName

/-- A namespace with its declarations, in source order. The documentation lists, for each
source file, the blocks that were written in it; a block is a list of lines. -/
structure Namespace where
  name : String
  elements : List NamespaceElement
  documentation : Table (List (List String))
deriving DecidableEq

/-- A compiled program, with the callables to run when it starts. -/
structure Compilation where
  namespaces : List Namespace
  entryPoints : List QualifiedName
deriving DecidableEq

end WireTree
