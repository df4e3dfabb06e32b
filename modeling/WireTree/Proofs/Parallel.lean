import Mathlib.Data.List.Forall2
import WireTree.Compilation.Parallel
import WireTree.Proofs.Outcome
import WireTree.Proofs.Relation
import WireTree.Proofs.Trace

/-!
# What decoding in parallel can end with

This is so whatever the schedule. A job is sound if its trees are those of the elements it has taken
off, and its outcome, once it is there, is that of its namespace; every step keeps this, so no pool
that is reached holds an outcome that is not the one of its namespace.
Main statement: the tree of a parallel run is the one that decoding the namespaces one after the
other gives, its fault is that of a faulty namespace, and every run ends
(`parallel_refines_sequential`).
-/

namespace WireTree.Wire

open Relation

/-! ## Jobs -/

/-- The work on a namespace is right as far as it has come. -/
inductive Job.Sound (ns : Namespace) : Job → Prop where
  | waiting : Sound ns .waiting
  | running {trees : List WireTree.NamespaceElement} {done left : List NamespaceElement}
      (elements : ns.elements = done ++ left)
      (decoded : done.mapM NamespaceElement.decode = .ok trees) : Sound ns (.running trees left)
  | finished {outcome : Decoded WireTree.Namespace} (same : outcome = ns.decode) :
      Sound ns (.finished outcome)

/-- The number of steps that a job has before it at most. -/
def Job.stepsLeft (ns : Namespace) : Job → Nat
  | .waiting => ns.elements.length + 2
  | .running _ left => left.length + 1
  | .finished _ => 0

namespace Job

variable {ns : Namespace} {job job' : Job}

theorem Sound.outcome_eq {outcome : Decoded WireTree.Namespace}
    (sound : Job.Sound ns (.finished outcome)) : outcome = ns.decode := by
  cases sound with
  | finished same => exact same

/-- A namespace whose first elements have been decoded is decoded as what is left. -/
theorem decode_of_done {trees : List WireTree.NamespaceElement}
    {done left : List NamespaceElement} (elements : ns.elements = done ++ left)
    (decoded : done.mapM NamespaceElement.decode = .ok trees) :
    ns.decode =
      (fun more => ⟨ns.name, trees ++ more, decodeDocumentation ns.documentation⟩) <$>
        left.mapM NamespaceElement.decode := by
  rw [Namespace.decode_eq, elements, mapM_append_ok decoded]
  cases left.mapM NamespaceElement.decode <;> rfl

theorem Step.sound (step : Job.Step ns job job') (sound : job.Sound ns) : job'.Sound ns := by
  cases step with
  | start => exact .running (List.nil_append ns.elements).symm rfl
  | @advance trees element left tree decoded =>
    cases sound with
    | @running _ done _ elements earlier =>
      have moved : ns.elements = done ++ [element] ++ left := by
        rw [elements, List.append_cons]
      refine .running moved ?_
      rw [mapM_append_ok earlier, List.mapM_cons, decoded]
      rfl
  | fail faulty =>
    cases sound with
    | running elements earlier =>
      refine .finished ?_
      rw [decode_of_done elements earlier, List.mapM_cons, faulty]
      rfl
  | finish =>
    cases sound with
    | running elements earlier =>
      refine .finished ?_
      rw [decode_of_done elements earlier, List.mapM_nil, map_pure, List.append_nil]
      rfl

theorem Step.stepsLeft_lt (step : Job.Step ns job job') : job'.stepsLeft ns < job.stepsLeft ns := by
  cases step with
  | start => exact Nat.lt_succ_self _
  | advance _ => exact Nat.lt_succ_self _
  | fail _ => exact Nat.succ_pos _
  | finish => exact Nat.succ_pos _

/-- What is left of a job is done element by element, up to the first that is faulty. -/
theorem Sound.completes_running (left : List NamespaceElement) :
    ∀ trees, Job.Sound ns (.running trees left) →
      ReflTransGen (Job.Step ns) (.running trees left) (.finished ns.decode) := by
  induction left with
  | nil =>
    intro trees sound
    rw [← (Step.finish.sound sound).outcome_eq]
    exact .single .finish
  | cons element left ih =>
    intro trees sound
    cases outcome : element.decode with
    | error fault =>
      rw [← ((Step.fail outcome).sound sound).outcome_eq]
      exact .single (.fail outcome)
    | ok tree =>
      have step :
          Job.Step ns (.running trees (element :: left)) (.running (trees ++ [tree]) left) :=
        .advance outcome
      exact .head step (ih _ (step.sound sound))

theorem Sound.completes (sound : job.Sound ns) :
    ReflTransGen (Job.Step ns) job (.finished ns.decode) := by
  cases job with
  | waiting => exact .head .start (completes_running _ _ (Step.start.sound sound))
  | running trees left => exact completes_running left trees sound
  | finished outcome => rw [sound.outcome_eq]

end Job

/-! ## Pools -/

namespace Pool

/-- Every job of the pool is sound. -/
def Sound (pool : Pool) : Prop :=
  ∀ entry ∈ pool, entry.2.Sound entry.1

/-- The pool in which every job has finished. -/
def completed (pool : Pool) : Pool :=
  pool.map fun entry => (entry.1, .finished entry.1.decode)

/-- The number of steps that the jobs of a pool have before them at most. -/
def stepsLeft : Pool → Nat
  | [] => 0
  | (ns, job) :: rest => job.stepsLeft ns + stepsLeft rest

variable {pool pool' : Pool}

theorem sound_cons {entry : Namespace × Job} {rest : Pool} :
    Sound (entry :: rest) ↔ entry.2.Sound entry.1 ∧ Sound rest :=
  List.forall_mem_cons

theorem Step.sound (step : Pool.Step pool pool') (sound : pool.Sound) : pool'.Sound := by
  induction step with
  | here step =>
    obtain ⟨first, rest⟩ := sound_cons.mp sound
    exact sound_cons.mpr ⟨step.sound first, rest⟩
  | there _ ih =>
    obtain ⟨first, rest⟩ := sound_cons.mp sound
    exact sound_cons.mpr ⟨first, ih rest⟩

/-- The namespaces and their order stay. -/
theorem Step.namespaces (step : Pool.Step pool pool') :
    pool'.map Prod.fst = pool.map Prod.fst := by
  induction step with
  | here _ => rfl
  | there _ ih => rw [List.map_cons, List.map_cons, ih]

theorem Step.stepsLeft_lt (step : Pool.Step pool pool') : pool'.stepsLeft < pool.stepsLeft := by
  induction step with
  | here step => exact Nat.add_lt_add_right step.stepsLeft_lt _
  | there _ ih => exact Nat.add_lt_add_left ih _

/-- Whatever has been done, the jobs that are left can be finished one after the other. -/
theorem Sound.completes (sound : pool.Sound) : ReflTransGen Pool.Step pool pool.completed := by
  induction pool with
  | nil => exact .refl
  | cons entry rest ih =>
    obtain ⟨first, others⟩ := sound_cons.mp sound
    have one : ReflTransGen Pool.Step (entry :: rest)
        ((entry.1, .finished entry.1.decode) :: rest) :=
      first.completes.lift (fun job => (entry.1, job) :: rest) fun _ _ => .here
    have more : ReflTransGen Pool.Step ((entry.1, .finished entry.1.decode) :: rest)
        (completed (entry :: rest)) :=
      (ih others).lift (_ :: ·) fun _ _ => .there
    exact one.trans more

/-! ## What is collected -/

theorem Collects.mapM_eq_ok {trees : List WireTree.Namespace} (sound : pool.Sound)
    (collects : pool.Collects (.ok trees)) :
    (pool.map Prod.fst).mapM Namespace.decode = .ok trees := by
  cases collects with
  | all finished =>
    induction pool generalizing trees with
    | nil =>
      cases trees with
      | nil => rfl
      | cons tree trees => cases finished
    | cons entry rest ih =>
      obtain ⟨ns, job⟩ := entry
      cases trees with
      | nil => cases finished
      | cons tree trees =>
        obtain ⟨rfl, others⟩ := List.cons.inj finished
        obtain ⟨first, later⟩ := sound_cons.mp sound
        rw [List.map_cons, List.mapM_cons, ← first.outcome_eq, ih later others]
        rfl

theorem Collects.exists_of_error {fault : Fault} (sound : pool.Sound)
    (collects : pool.Collects (.error fault)) :
    ∃ ns ∈ pool.map Prod.fst, ns.decode = .error fault := by
  cases collects with
  | @failed ns _ member =>
    exact ⟨ns, List.mem_map_of_mem member, (sound _ member).outcome_eq.symm⟩

theorem completed_collects_ok {trees : List WireTree.Namespace}
    (decoded : (pool.map Prod.fst).mapM Namespace.decode = .ok trees) :
    pool.completed.Collects (.ok trees) := by
  refine .all ?_
  rw [mapM_eq_ok_iff, List.forall₂_map_left_iff] at decoded
  induction decoded with
  | nil => rfl
  | cons first _ ih => exact congrArg₂ List.cons (congrArg Job.finished first) ih

theorem completed_collects_error {ns : Namespace} {fault : Fault}
    (member : ns ∈ pool.map Prod.fst) (faulty : ns.decode = .error fault) :
    pool.completed.Collects (.error fault) := by
  obtain ⟨⟨ns, job⟩, inside, rfl⟩ := List.mem_map.mp member
  have failed : (ns, Job.finished (.error fault)) ∈ pool.completed :=
    faulty ▸ List.mem_map_of_mem inside
  exact .failed failed

/-- There is something to return for a pool in which every job has finished. -/
theorem exists_completed_collects (pool : Pool) : ∃ outcome, pool.completed.Collects outcome := by
  cases decoded : (pool.map Prod.fst).mapM Namespace.decode with
  | ok trees => exact ⟨_, completed_collects_ok decoded⟩
  | error fault =>
    obtain ⟨ns, member, faulty⟩ := exists_of_mapM_eq_error decoded
    exact ⟨_, completed_collects_error member faulty⟩

/-- No pool makes steps for ever. -/
theorem step_wellFounded : WellFounded fun pool' pool => Pool.Step pool pool' :=
  Subrelation.wf Step.stepsLeft_lt (measure stepsLeft).wf

end Pool

/-! ## Compilations -/

/-- Decoding the namespace ends with a fault. -/
def Namespace.Faulty (ns : Namespace) : Prop :=
  ∃ fault, ns.decode = .error fault

namespace Compilation

variable {compilation : Compilation} {pool : Pool}

theorem Reaches.sound (reached : compilation.Reaches pool) : pool.Sound := by
  induction reached with
  | refl =>
    intro entry member
    obtain ⟨ns, -, rfl⟩ := List.mem_map.mp member
    exact .waiting
  | tail _ step ih => exact step.sound ih

theorem Reaches.namespaces (reached : compilation.Reaches pool) :
    pool.map Prod.fst = compilation.namespaces := by
  induction reached with
  | refl => simp [Compilation.pool, Function.comp_def]
  | tail _ step ih => rw [step.namespaces, ih]

/-- Every pool that is reached can be brought to its end. -/
theorem Reaches.completed (reached : compilation.Reaches pool) :
    compilation.Reaches pool.completed :=
  reached.trans reached.sound.completes

theorem decodeWith_eq_ok_iff {options : Options} {tree : WireTree.Compilation} :
    compilation.decodeWith options = .ok tree ↔
      compilation.namespaces.mapM Namespace.decode = .ok tree.namespaces ∧
        tree.entryPoints = [] := by
  rw [decodeWith_eq, bind_eq_ok_iff]
  constructor
  · rintro ⟨namespaces, decoded, ⟨⟩⟩
    exact ⟨decoded, rfl⟩
  · rintro ⟨decoded, none⟩
    exact ⟨tree.namespaces, decoded, none ▸ rfl⟩

theorem decodesInParallel_ok_iff (compilation : Compilation) (options : Options)
    (tree : WireTree.Compilation) :
    compilation.DecodesInParallel (.ok tree) ↔ compilation.decodeWith options = .ok tree := by
  rw [decodeWith_eq_ok_iff]
  constructor
  · rintro ⟨pool, outcome, reached, collects, same⟩
    obtain ⟨trees, rfl, rfl⟩ := map_eq_ok_iff.mp same.symm
    exact ⟨reached.namespaces ▸ collects.mapM_eq_ok reached.sound, rfl⟩
  · rintro ⟨decoded, none⟩
    have initial : compilation.Reaches compilation.pool := .refl
    rw [← initial.namespaces] at decoded
    refine ⟨_, _, initial.completed, Pool.completed_collects_ok decoded, ?_⟩
    rw [← none]
    rfl

theorem decodesInParallel_error_iff (compilation : Compilation) (fault : Fault) :
    compilation.DecodesInParallel (.error fault) ↔
      ∃ ns ∈ compilation.namespaces, ns.decode = .error fault := by
  constructor
  · rintro ⟨pool, outcome, reached, collects, same⟩
    cases outcome with
    | ok trees => cases same
    | error other =>
      cases same
      exact reached.namespaces ▸ collects.exists_of_error reached.sound
  · rintro ⟨ns, member, faulty⟩
    have initial : compilation.Reaches compilation.pool := .refl
    rw [← initial.namespaces] at member
    exact ⟨_, _, initial.completed, Pool.completed_collects_error member faulty, rfl⟩

/-- Decoding the namespaces one after the other is one of the schedules. -/
theorem decodesInParallel_decodeWith (compilation : Compilation) (options : Options) :
    compilation.DecodesInParallel (compilation.decodeWith options) := by
  cases sequential : compilation.decodeWith options with
  | ok tree => exact (decodesInParallel_ok_iff compilation options tree).mpr sequential
  | error fault =>
    rw [decodesInParallel_error_iff]
    rw [decodeWith_eq] at sequential
    cases decoded : compilation.namespaces.mapM Namespace.decode with
    | ok trees =>
      rw [decoded] at sequential
      cases sequential
    | error other =>
      rw [decoded] at sequential
      cases sequential
      exact exists_of_mapM_eq_error decoded

theorem decode_ne_error_of_ok {tree : WireTree.Compilation} {ns : Namespace} {fault : Fault}
    (parallel : compilation.DecodesInParallel (.ok tree)) (member : ns ∈ compilation.namespaces) :
    ns.decode ≠ .error fault := by
  have sequential := (decodesInParallel_ok_iff compilation default tree).mp parallel
  have each := mapM_eq_ok_iff.mp (decodeWith_eq_ok_iff.mp sequential).1
  obtain ⟨tree, -, decoded⟩ := forall₂_exists_of_mem each member
  rw [decoded]
  rintro ⟨⟩

/-- If one namespace is the only faulty one, every schedule ends with its fault. -/
theorem eq_error_of_only_faulty {result : Decoded WireTree.Compilation} {ns : Namespace}
    {before after : List Namespace} {fault : Fault}
    (parallel : compilation.DecodesInParallel result)
    (namespaces : compilation.namespaces = before ++ ns :: after)
    (faulty : ns.decode = .error fault) (others : ∀ other ∈ before ++ after, ¬ other.Faulty) :
    result = .error fault := by
  cases result with
  | ok tree =>
    have member : ns ∈ compilation.namespaces := by simp [namespaces]
    exact absurd faulty (decode_ne_error_of_ok parallel member)
  | error found =>
    obtain ⟨other, member, failed⟩ := (decodesInParallel_error_iff compilation found).mp parallel
    have same : other = ns := by
      by_contra different
      refine others other ?_ ⟨found, failed⟩
      simpa [namespaces, different] using member
    rw [same, faulty] at failed
    cases failed
    rfl

/-- Decoding in parallel refines decoding the namespaces one after the other: under every
schedule it has a tree if and only if there is one, and then it is the same tree, of the
namespaces in their order; a fault that it ends with is one that decoding some faulty namespace
on its own ends with, any of them being possible and the same as one after the other if there
is only one; and no schedule goes on for ever, or stops without an outcome. -/
theorem parallel_refines_sequential (compilation : Compilation) (options : Options) :
    (∀ result, compilation.DecodesInParallel result →
      ((∃ tree, result = .ok tree) ↔ ∃ tree, compilation.decodeWith options = .ok tree) ∧
        (∀ tree, result = .ok tree →
          compilation.decodeWith options = .ok tree ∧
            List.Forall₂ (fun ns tree => ns.decode = .ok tree) compilation.namespaces
              tree.namespaces) ∧
        (∀ fault, result = .error fault →
          ∃ ns ∈ compilation.namespaces, ns.decode = .error fault) ∧
        (∀ before ns after, compilation.namespaces = before ++ ns :: after → ns.Faulty →
          (∀ other ∈ before ++ after, ¬ other.Faulty) →
            result = compilation.decodeWith options)) ∧
      (∀ ns ∈ compilation.namespaces, ∀ fault, ns.decode = .error fault →
        compilation.DecodesInParallel (.error fault)) ∧
      (WellFounded fun pool' pool => Pool.Step pool pool') ∧
      (∀ pool, compilation.Reaches pool → (∀ pool', ¬ pool.Step pool') →
        ∃ outcome, pool.Collects outcome) := by
  have ok_iff := decodesInParallel_ok_iff compilation options
  have error_iff := decodesInParallel_error_iff compilation
  refine ⟨fun result parallel => ⟨?_, ?_, ?_, ?_⟩, ?_, Pool.step_wellFounded, ?_⟩
  · constructor
    · rintro ⟨tree, rfl⟩
      exact ⟨tree, (ok_iff tree).mp parallel⟩
    · rintro ⟨tree, sequential⟩
      cases result with
      | ok tree => exact ⟨tree, rfl⟩
      | error fault =>
        obtain ⟨ns, member, faulty⟩ := (error_iff fault).mp parallel
        exact absurd faulty (decode_ne_error_of_ok ((ok_iff tree).mpr sequential) member)
  · rintro tree rfl
    have sequential := (ok_iff tree).mp parallel
    exact ⟨sequential, mapM_eq_ok_iff.mp (decodeWith_eq_ok_iff.mp sequential).1⟩
  · rintro fault rfl
    exact (error_iff fault).mp parallel
  · rintro before ns after namespaces ⟨fault, faulty⟩ others
    have sequential := decodesInParallel_decodeWith compilation options
    rw [eq_error_of_only_faulty parallel namespaces faulty others,
      eq_error_of_only_faulty sequential namespaces faulty others]
  · intro ns member fault faulty
    exact (error_iff fault).mpr ⟨ns, member, faulty⟩
  · intro pool reached stuck
    have last : pool.completed = pool := by
      rcases reached.sound.completes.cases_head with same | ⟨next, step, -⟩
      · exact same.symm
      · exact absurd step (stuck next)
    rw [← last]
    exact Pool.exists_completed_collects pool

/-- Of two namespaces that lack the payloads that their elements ask for, decoding one after the
other ends with the fault of the first, and some schedule with the fault of the second. -/
theorem parallel_refines_sequential_two_faults :
    let element (kind : String) : NamespaceElement :=
      { kind := .ofText kind, callable := none, customType := none }
    let first : Namespace :=
      { name := "First", elements := [element "Callable"], documentation := [] }
    let second : Namespace :=
      { name := "Second", elements := [element "CustomType"], documentation := [] }
    let compilation : Compilation := { namespaces := [first, second], entryPoints := [] }
    let missing (slot kind : String) : Fault := .inconsistent "NamespaceElement" slot kind
    compilation.decodeWith ⟨true⟩ = .error (missing "callable" "Callable") ∧
      compilation.DecodesInParallel (.error (missing "customType" "CustomType")) ∧
      ∃ ns ∈ compilation.namespaces, ns.decode = .error (missing "customType" "CustomType") := by
  intro element first second compilation missing
  obtain ⟨refines, possible, -⟩ := parallel_refines_sequential compilation ⟨true⟩
  have parallel : compilation.DecodesInParallel (.error (missing "customType" "CustomType")) :=
    possible second (by simp [compilation]) _ rfl
  exact ⟨rfl, parallel, (refines _ parallel).2.2.1 _ rfl⟩

end Compilation

end WireTree.Wire
