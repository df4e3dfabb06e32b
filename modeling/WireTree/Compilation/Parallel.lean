import WireTree.Compilation.Decode
import Mathlib.Logic.Relation

/-!
# Decoding namespaces in parallel

Each namespace is a job of its own; in one step of the pool one of the jobs makes one step,
whichever it is. Successful outcomes are collected in the order of the namespaces. As soon as one
job has failed, its fault may be returned, whatever the other jobs have done by then.
-/

namespace WireTree.Wire

/-- How far the work on a namespace has come: the trees of its first elements, with the
elements that are left. -/
inductive Job where
  | waiting
  | running (trees : List WireTree.NamespaceElement) (left : List NamespaceElement)
  | finished (outcome : Decoded WireTree.Namespace)

/-- One step of the work on a namespace. -/
inductive Job.Step (ns : Namespace) : Job → Job → Prop where
  | start : Step ns .waiting (.running [] ns.elements)
  | advance {trees : List WireTree.NamespaceElement} {element : NamespaceElement}
      {left : List NamespaceElement} {tree : WireTree.NamespaceElement}
      (decoded : element.decode = .ok tree) :
      Step ns (.running trees (element :: left)) (.running (trees ++ [tree]) left)
  | fail {trees : List WireTree.NamespaceElement} {element : NamespaceElement}
      {left : List NamespaceElement} {fault : Fault} (faulty : element.decode = .error fault) :
      Step ns (.running trees (element :: left)) (.finished (.error fault))
  | finish {trees : List WireTree.NamespaceElement} :
      Step ns (.running trees [])
        (.finished (.ok ⟨ns.name, trees, decodeDocumentation ns.documentation⟩))

/-- The jobs of a compilation, each with its namespace, in the order of the namespaces. -/
abbrev Pool := List (Namespace × Job)

/-- One step of a pool: any one of its jobs makes a step. -/
inductive Pool.Step : Pool → Pool → Prop where
  | here {ns : Namespace} {job job' : Job} {rest : Pool} (step : Job.Step ns job job') :
      Step ((ns, job) :: rest) ((ns, job') :: rest)
  | there {first : Namespace × Job} {rest rest' : Pool} (step : Step rest rest') :
      Step (first :: rest) (first :: rest')

/-- What may be returned for a pool: the trees in their order once every job has finished
with one, and the fault of a job that has failed at any time. -/
inductive Pool.Collects (pool : Pool) : Decoded (List WireTree.Namespace) → Prop where
  | all {trees : List WireTree.Namespace}
      (finished : pool.map Prod.snd = trees.map fun tree => .finished (.ok tree)) :
      Collects pool (.ok trees)
  | failed {ns : Namespace} {fault : Fault} (member : (ns, Job.finished (.error fault)) ∈ pool) :
      Collects pool (.error fault)

namespace Compilation

/-- The pool in which no job has been started. -/
def pool (compilation : Compilation) : Pool :=
  compilation.namespaces.map fun ns => (ns, .waiting)

/-- The pools that some schedule of the jobs leads to. -/
def Reaches (compilation : Compilation) (pool : Pool) : Prop :=
  Relation.ReflTransGen Pool.Step compilation.pool pool

/-- Some schedule of the jobs ends with this outcome. -/
def DecodesInParallel (compilation : Compilation) (result : Decoded WireTree.Compilation) :
    Prop :=
  ∃ pool outcome, compilation.Reaches pool ∧ pool.Collects outcome ∧
    result = (⟨·, []⟩) <$> outcome

end Compilation

end WireTree.Wire
