import WireTree.Declaration.Decode
import WireTree.Traced

/-!
# From compilations on the wire to compilations in trees

Decoding reports what it does as events; the first fault ends it. Entry points are not carried over.
The documentation of a namespace is grouped by its files, and it must not matter that this can be
done through a map that keeps its entries in no order. Such a map is the list of its entries, and
whenever a block has been put into it they may stand in any order.
-/

namespace WireTree

/-- What decoding reports. -/
inductive Event where
  | decodingCompilation (namespaces : Nat) (parallel : Bool)
  | droppingEntryPoints (entryPoints : Nat)
  | decodingNamespace (name : String) (elements : Nat)
  | decodedNamespaceElement (name : String)
deriving DecidableEq

/-- How much detail an event belongs to. -/
inductive Event.Level where
  | debug
  | trace
deriving DecidableEq

namespace Event

/-- The level of an event: single elements are traced only. -/
def level : Event → Level
  | decodedNamespaceElement _ => .trace
  | _ => .debug

/-- The wording of an event. -/
def message : Event → String
  | decodingCompilation _ _ => "decoding compilation"
  | droppingEntryPoints _ => "dropping entry points"
  | decodingNamespace _ _ => "decoding namespace"
  | decodedNamespaceElement _ => "decoded namespace element"

end Event

/-- How a compilation is decoded. Whether namespaces are decoded in parallel makes no
difference to the tree. -/
structure Options where
  parallel : Bool
deriving DecidableEq

/-- Namespaces are decoded one after the other, unless the options say something else. -/
instance : Inhabited Options := ⟨⟨false⟩⟩

namespace Wire

/-- The blocks grouped by their files, those of one file in their order. -/
def decodeDocumentation (blocks : List SourceFileDocumentation) : Table (List (List String)) :=
  blocks.foldl
    (fun table block =>
      table.alter block.fileName fun earlier => earlier.getD [] ++ [block.documentationItems])
    .empty

/-- The entries of a map from files to their blocks. -/
abbrev Groups := List (String × List (List String))

/-- A map before and after a block is put into it, in whichever order each of them gives its
entries. -/
inductive Groups.Put (block : SourceFileDocumentation) (groups groups' : Groups) : Prop where
  /-- the file has no group yet -/
  | first (absent : block.fileName ∉ groups.map (·.1))
      (made : groups'.Perm ((block.fileName, [block.documentationItems]) :: groups))
  /-- the block comes last in the group of its file -/
  | more {items : List (List String)} {others : Groups}
      (found : groups.Perm ((block.fileName, items) :: others))
      (made : groups'.Perm ((block.fileName, items ++ [block.documentationItems]) :: others))

/-- The entries of a map that blocks were put into, one after the other. -/
inductive Groups.Grouped : List SourceFileDocumentation → Groups → Prop where
  | none : Grouped [] []
  | put {blocks : List SourceFileDocumentation} {block : SourceFileDocumentation}
      {groups groups' : Groups} (before : Grouped blocks groups) (put : Put block groups groups') :
      Grouped (blocks ++ [block]) groups'

/-- The tree of a declaration, reported once it is there. -/
def NamespaceElement.trace (element : NamespaceElement) :
    Traced Event Fault WireTree.NamespaceElement := do
  let element ← Traced.lift element.decode
  Traced.emit (.decodedNamespaceElement element.fullName.display)
  return element

namespace Namespace

/-- The tree of a namespace, with the events on the way to it. -/
def trace (ns : Namespace) : Traced Event Fault WireTree.Namespace := do
  Traced.emit (.decodingNamespace ns.name ns.elements.length)
  let elements ← ns.elements.mapM NamespaceElement.trace
  return ⟨ns.name, elements, decodeDocumentation ns.documentation⟩

/-- The tree of a namespace. -/
def decode (ns : Namespace) : Decoded WireTree.Namespace :=
  ns.trace.result

end Namespace

namespace Compilation

/-- The tree of a compilation, with the events on the way to it, its namespaces being decoded
one after the other. -/
def trace (compilation : Compilation) (options : Options) :
    Traced Event Fault WireTree.Compilation := do
  Traced.emit (.decodingCompilation compilation.namespaces.length options.parallel)
  if !compilation.entryPoints.isEmpty then
    Traced.emit (.droppingEntryPoints compilation.entryPoints.length)
  let namespaces ← compilation.namespaces.mapM Namespace.trace
  return ⟨namespaces, []⟩

/-- The tree of a compilation. -/
def decodeWith (compilation : Compilation) (options : Options) : Decoded WireTree.Compilation :=
  (compilation.trace options).result

/-- The tree of a compilation, decoded with the default options. -/
def decode (compilation : Compilation) : Decoded WireTree.Compilation :=
  compilation.decodeWith default

end Compilation

end Wire

end WireTree
