import Mathlib.Data.List.TakeWhile
import WireTree.Proofs.Decodes
import WireTree.Proofs.Trace

/-!
# The log of decoding a compilation

What would be reported if nothing went wrong can be told from what is on the wire; the log is that,
up to the first element with a fault.
Main statement: `Compilation.log_ends_at_first_fault`.
-/

namespace WireTree

namespace Traced

variable {ω ε α β : Type} {first : Traced ω ε α} {following : α → Traced ω ε β}

theorem log_bind_of_ok {a : α} (succeeded : first.result = .ok a) :
    (first >>= following).log = first.log ++ (following a).log := by
  obtain ⟨log, result⟩ := first
  cases succeeded
  rfl

theorem log_bind_of_error {e : ε} (failed : first.result = .error e) :
    (first >>= following).log = first.log := by
  obtain ⟨log, result⟩ := first
  cases failed
  rfl

theorem log_bind_pure (first : Traced ω ε α) (make : α → β) :
    (first >>= fun a => (pure (make a) : Traced ω ε β)).log = first.log := by
  cases outcome : first.result with
  | error e => exact log_bind_of_error outcome
  | ok a => exact (log_bind_of_ok outcome).trans (List.append_nil _)

theorem log_emit_bind (entry : ω) (following : Unit → Traced ω ε β) :
    (emit entry >>= following).log = entry :: (following ()).log := rfl

variable {f : α → Traced ω ε β}

/-- Steps that succeed log one after the other, and then come the others. -/
theorem log_mapM_append {before : List α} (each : ∀ a ∈ before, ∃ b, (f a).result = .ok b)
    (after : List α) :
    ((before ++ after).mapM f).log =
      before.flatMap (fun a => (f a).log) ++ (after.mapM f).log := by
  induction before with
  | nil => rfl
  | cons a before ih =>
    obtain ⟨⟨b, first⟩, others⟩ := List.forall_mem_cons.mp each
    rw [List.cons_append, List.mapM_cons, log_bind_of_ok first, List.flatMap_cons,
      List.append_assoc, ← ih others]
    rw [log_bind_pure]

theorem log_mapM_of_ok {items : List α} (each : ∀ a ∈ items, ∃ b, (f a).result = .ok b) :
    (items.mapM f).log = items.flatMap fun a => (f a).log := by
  have all := log_mapM_append each []
  rw [List.append_nil] at all
  exact all.trans (List.append_nil _)

/-- A step that fails is the last one to log. -/
theorem log_mapM_of_error {before after : List α} {a : α} {e : ε}
    (each : ∀ a ∈ before, ∃ b, (f a).result = .ok b) (failed : (f a).result = .error e) :
    ((before ++ a :: after).mapM f).log = before.flatMap (fun a => (f a).log) ++ (f a).log := by
  rw [log_mapM_append each, List.mapM_cons, log_bind_of_error failed]

end Traced

/-- Whether an event reports that an element has been decoded. -/
def Event.ofElement (event : Event) : Bool :=
  event.message = "decoded namespace element"

namespace Wire

/-- The name of a declaration. -/
def Declared.fullName : Declared → QualifiedName
  | .callable c => c.fullName
  | .customType t => t.fullName

namespace NamespaceElement

variable {element : NamespaceElement}

/-- The report that an element has been decoded: one for the declaration that its kind selects. -/
def events (element : NamespaceElement) : List Event :=
  element.children.map fun declared => .decodedNamespaceElement declared.fullName.display

theorem filter_events (element : NamespaceElement) :
    element.events.filter Event.ofElement = element.events := by
  refine List.filter_eq_self.mpr fun event member => ?_
  obtain ⟨declared, -, rfl⟩ := List.mem_map.mp member
  rfl

theorem events_of_decode_eq_ok {tree : WireTree.NamespaceElement}
    (decoded : element.decode = .ok tree) :
    element.events = [.decodedNamespaceElement tree.fullName.display] := by
  obtain ⟨kind, callable, customType⟩ := element
  cases kind with
  | unrecognized text => cases decoded
  | known tag =>
    cases tag with
    | callable =>
      cases callable with
      | none => cases decoded
      | some c =>
        obtain ⟨_, ⟨⟩, decoded⟩ := bind_eq_ok_iff.mp decoded
        obtain ⟨_, own, ⟨⟩⟩ := bind_eq_ok_iff.mp decoded
        have fullName := (Callable.decode_eq_ok_iff.mp own).fullName
        exact congrArg (fun n : QualifiedName => [Event.decodedNamespaceElement n.display]) fullName
    | customType =>
      cases customType with
      | none => cases decoded
      | some t =>
        obtain ⟨_, ⟨⟩, decoded⟩ := bind_eq_ok_iff.mp decoded
        obtain ⟨_, own, ⟨⟩⟩ := bind_eq_ok_iff.mp decoded
        have fullName := (CustomType.decode_eq_ok_iff.mp own).fullName
        exact congrArg (fun n : QualifiedName => [Event.decodedNamespaceElement n.display]) fullName

theorem log_of_ok {tree : WireTree.NamespaceElement} (decoded : element.decode = .ok tree) :
    element.trace.log = element.events := by
  rw [events_of_decode_eq_ok decoded, trace, decoded]
  rfl

theorem log_of_error {fault : Fault} (faulty : element.decode = .error fault) :
    element.trace.log = [] := by
  rw [trace, faulty]
  rfl

end NamespaceElement

namespace Namespace

variable {ns : Namespace}

/-- The report that a namespace is being decoded. -/
def start (ns : Namespace) : Event :=
  .decodingNamespace ns.name ns.elements.length

/-- What is reported of a namespace whose elements all decode. -/
def events (ns : Namespace) : List Event :=
  ns.start :: ns.elements.flatMap NamespaceElement.events

theorem log_eq (ns : Namespace) :
    ns.trace.log = ns.start :: (ns.elements.mapM NamespaceElement.trace).log := by
  unfold trace
  rw [Traced.log_emit_bind]
  exact congrArg (ns.start :: ·) (Traced.log_bind_pure _ _)

/-- Of elements that decode, each is reported. -/
theorem flatMap_log {elements : List NamespaceElement}
    (each : ∀ e ∈ elements, ∃ tree, e.decode = .ok tree) :
    (elements.flatMap fun e => e.trace.log) = elements.flatMap NamespaceElement.events := by
  refine List.flatMap_congr fun e member => ?_
  obtain ⟨tree, decoded⟩ := each e member
  exact NamespaceElement.log_of_ok decoded

theorem log_of_ok (each : ∀ e ∈ ns.elements, ∃ tree, e.decode = .ok tree) :
    ns.trace.log = ns.events := by
  rw [log_eq, Traced.log_mapM_of_ok, flatMap_log each, events]
  intro e member
  rw [NamespaceElement.trace_result]
  exact each e member

/-- The first element with a fault ends the log of its namespace. -/
theorem log_of_error {earlier later : List NamespaceElement} {element : NamespaceElement}
    {fault : Fault} (split : ns.elements = earlier ++ element :: later)
    (each : ∀ e ∈ earlier, ∃ tree, e.decode = .ok tree) (faulty : element.decode = .error fault) :
    ns.trace.log = ns.start :: earlier.flatMap NamespaceElement.events := by
  have failed : element.trace.result = .error fault := by
    rw [NamespaceElement.trace_result, faulty]
  rw [log_eq, split, Traced.log_mapM_of_error _ failed, flatMap_log each,
    NamespaceElement.log_of_error faulty, List.append_nil]
  intro e member
  rw [NamespaceElement.trace_result]
  exact each e member

theorem filter_flatMap_events (elements : List NamespaceElement) :
    (elements.flatMap NamespaceElement.events).filter Event.ofElement =
      elements.flatMap NamespaceElement.events := by
  rw [List.filter_flatMap]
  exact List.flatMap_congr fun element _ => element.filter_events

theorem filter_start_cons (ns : Namespace) (events : List Event) :
    (ns.start :: events).filter Event.ofElement = events.filter Event.ofElement := rfl

/-- Of the reports on namespaces, those on their elements. -/
theorem filter_flatMap_namespaces (namespaces : List Namespace) :
    (namespaces.flatMap events).filter Event.ofElement =
      (namespaces.flatMap fun ns => ns.elements).flatMap NamespaceElement.events := by
  rw [List.filter_flatMap, List.flatMap_assoc]
  refine List.flatMap_congr fun ns _ => ?_
  rw [events, filter_start_cons, filter_flatMap_events]

end Namespace

/-- A namespace with a tree has one for each element. -/
theorem Namespace.forall_decode_of_decode_eq_ok {ns : Namespace} {tree : WireTree.Namespace}
    (decoded : ns.decode = .ok tree) : ∀ e ∈ ns.elements, ∃ tree, e.decode = .ok tree := by
  intro e member
  have each := mapM_eq_ok_iff.mp (Namespace.decode_eq_ok_iff.mp decoded).elements
  obtain ⟨tree, -, decoded⟩ := forall₂_exists_of_mem each member
  exact ⟨tree, decoded⟩

theorem Namespace.forall_elements_of_ok {namespaces : List Namespace}
    (each : ∀ ns ∈ namespaces, ∃ tree, ns.decode = .ok tree) :
    ∀ e ∈ namespaces.flatMap (fun ns => ns.elements), ∃ tree, e.decode = .ok tree := by
  intro e member
  obtain ⟨ns, found, member⟩ := List.mem_flatMap.mp member
  obtain ⟨tree, decoded⟩ := each ns found
  exact forall_decode_of_decode_eq_ok decoded e member

theorem Namespace.flatMap_log_of_ok {namespaces : List Namespace}
    (each : ∀ ns ∈ namespaces, ∃ tree, ns.decode = .ok tree) :
    (namespaces.flatMap fun ns => ns.trace.log) = namespaces.flatMap Namespace.events := by
  refine List.flatMap_congr fun ns member => ?_
  obtain ⟨tree, decoded⟩ := each ns member
  exact log_of_ok (forall_decode_of_decode_eq_ok decoded)

namespace Compilation

/-- What is reported before the first namespace: how many namespaces there are, and how many entry
points are dropped, if any. -/
def opening (compilation : Compilation) : List Event :=
  .decodingCompilation compilation.namespaces.length false ::
    if compilation.entryPoints = [] then []
    else [.droppingEntryPoints compilation.entryPoints.length]

/-- What is reported of a compilation whose elements all decode. -/
def events (compilation : Compilation) : List Event :=
  compilation.opening ++ compilation.namespaces.flatMap Namespace.events

/-- The elements of all namespaces, in order. -/
def elements (compilation : Compilation) : List NamespaceElement :=
  compilation.namespaces.flatMap fun ns => ns.elements

theorem log_eq (compilation : Compilation) :
    (compilation.trace ⟨false⟩).log =
      compilation.opening ++ (compilation.namespaces.mapM Namespace.trace).log := by
  unfold trace opening
  cases compilation.entryPoints with
  | nil => exact congrArg (_ :: ·) (Traced.log_bind_pure _ _)
  | cons entry entries => exact congrArg (_ :: _ :: ·) (Traced.log_bind_pure _ _)

/-- A compilation fails at the first element that has no tree. -/
theorem exists_first_fault {compilation : Compilation} {options : Options} {fault : Fault}
    (failed : compilation.decodeWith options = .error fault) :
    ∃ before ns after earlier element later,
      compilation.namespaces = before ++ ns :: after ∧
        ns.elements = earlier ++ element :: later ∧
        ns.decode = .error fault ∧ element.decode = .error fault ∧
        (∀ ns ∈ before, ∃ tree, ns.decode = .ok tree) ∧
        ∀ e ∈ earlier, ∃ tree, e.decode = .ok tree := by
  rw [decodeWith_eq] at failed
  obtain ⟨before, ns, after, namespaces, decoded, failed⟩ :=
    exists_first_of_mapM_eq_error (error_of_bind_pure_eq_error failed)
  have elements := failed
  rw [Namespace.decode_eq] at elements
  obtain ⟨earlier, element, later, elements, each, faulty⟩ :=
    exists_first_of_mapM_eq_error (error_of_bind_pure_eq_error elements)
  exact ⟨before, ns, after, earlier, element, later, namespaces, elements, failed, faulty,
    decoded, each⟩

theorem filter_opening (compilation : Compilation) :
    compilation.opening.filter Event.ofElement = [] := by
  unfold opening
  split <;> rfl

/-- Without a fault, everything is reported. -/
theorem log_of_ok {compilation : Compilation} {tree : WireTree.Compilation}
    (decoded : compilation.decodeWith ⟨false⟩ = .ok tree) :
    (compilation.trace ⟨false⟩).log = compilation.events ∧
      ∀ e ∈ compilation.elements, ∃ tree, e.decode = .ok tree := by
  rw [decodeWith_eq] at decoded
  obtain ⟨trees, namespaces, -⟩ := bind_eq_ok_iff.mp decoded
  have each : ∀ ns ∈ compilation.namespaces, ∃ tree, ns.decode = .ok tree := by
    intro ns member
    obtain ⟨tree, -, decoded⟩ := forall₂_exists_of_mem (mapM_eq_ok_iff.mp namespaces) member
    exact ⟨tree, decoded⟩
  have reported := Namespace.flatMap_log_of_ok each
  refine ⟨?_, Namespace.forall_elements_of_ok each⟩
  rw [log_eq, Traced.log_mapM_of_ok each, reported, events]

/-- The first element with a fault ends the log. -/
theorem log_of_error {compilation : Compilation} {before after : List Namespace} {ns : Namespace}
    {earlier later : List NamespaceElement} {element : NamespaceElement} {fault : Fault}
    (namespaces : compilation.namespaces = before ++ ns :: after)
    (elements : ns.elements = earlier ++ element :: later)
    (decoded : ∀ ns ∈ before, ∃ tree, ns.decode = .ok tree)
    (each : ∀ e ∈ earlier, ∃ tree, e.decode = .ok tree) (failed : ns.decode = .error fault)
    (faulty : element.decode = .error fault) :
    (compilation.trace ⟨false⟩).log =
      compilation.opening ++ before.flatMap Namespace.events ++
        ns.start :: earlier.flatMap NamespaceElement.events := by
  rw [log_eq, namespaces, Traced.log_mapM_of_error decoded failed,
    Namespace.flatMap_log_of_ok decoded, Namespace.log_of_error elements each faulty,
    List.append_assoc]

/-- Nothing is logged that would not be reported of a compilation without a fault. -/
theorem log_prefix (compilation : Compilation) :
    (compilation.trace ⟨false⟩).log <+: compilation.events := by
  cases outcome : compilation.decodeWith ⟨false⟩ with
  | ok tree =>
    exact ⟨[], by rw [List.append_nil, (log_of_ok outcome).1]⟩
  | error fault =>
    obtain ⟨before, ns, after, earlier, element, later, namespaces, elements, failed, faulty,
      decoded, each⟩ := exists_first_fault outcome
    rw [log_of_error namespaces elements decoded each failed faulty, events, namespaces]
    refine ⟨(element :: later).flatMap NamespaceElement.events ++
      after.flatMap Namespace.events, ?_⟩
    simp [Namespace.events, elements]

/-- The elements that are reported are those before the first one with a fault. -/
theorem filter_log (compilation : Compilation) :
    (compilation.trace ⟨false⟩).log.filter Event.ofElement =
      (compilation.elements.takeWhile fun e => e.decode.isOk).flatMap NamespaceElement.events := by
  have isOk {elements : List NamespaceElement}
      (each : ∀ e ∈ elements, ∃ tree, e.decode = .ok tree) :
      ∀ e ∈ elements, e.decode.isOk = true := by
    intro e member
    obtain ⟨tree, decoded⟩ := each e member
    rw [decoded]
    rfl
  cases outcome : compilation.decodeWith ⟨false⟩ with
  | ok tree =>
    obtain ⟨reported, each⟩ := log_of_ok outcome
    rw [reported, events, List.filter_append, filter_opening, List.nil_append,
      Namespace.filter_flatMap_namespaces, List.takeWhile_eq_self_iff.mpr (isOk each)]
    rfl
  | error fault =>
    obtain ⟨before, ns, after, earlier, element, later, namespaces, elements, failed, faulty,
      decoded, each⟩ := exists_first_fault outcome
    have all : compilation.elements =
        (before.flatMap (fun ns => ns.elements) ++ earlier) ++
          element :: (later ++ after.flatMap fun ns => ns.elements) := by
      simp [Compilation.elements, namespaces, elements]
    have first := isOk (List.forall_mem_append.mpr ⟨Namespace.forall_elements_of_ok decoded, each⟩)
    have stops : element.decode.isOk = false := by
      rw [faulty]
      rfl
    rw [log_of_error namespaces elements decoded each failed faulty, List.filter_append,
      List.filter_append, filter_opening, List.nil_append, Namespace.filter_flatMap_namespaces,
      Namespace.filter_start_cons, Namespace.filter_flatMap_events, all,
      List.takeWhile_append_of_pos first, List.takeWhile_cons_of_neg (by simp [stops]),
      List.append_nil, List.flatMap_append]

/-- The log of decoding a compilation, its namespaces one after the other. If nothing is wrong,
everything is reported: the namespaces and the entry points by their number, and then each namespace
with each of its elements. If something is, the first element with a fault ends the log, after what
its own namespace and the elements before it report. So the elements that are reported are those up
to the first one with a fault, each by the name of its tree. -/
theorem log_ends_at_first_fault (compilation : Compilation) :
    let log := (compilation.trace ⟨false⟩).log
    (∀ tree, compilation.decodeWith ⟨false⟩ = .ok tree → log = compilation.events) ∧
    (∀ fault, compilation.decodeWith ⟨false⟩ = .error fault →
      ∃ before ns after earlier element later,
        compilation.namespaces = before ++ ns :: after ∧
          ns.elements = earlier ++ element :: later ∧ element.decode = .error fault ∧
          (∀ e ∈ before.flatMap (·.elements) ++ earlier, ∃ tree, e.decode = .ok tree) ∧
          log = compilation.opening ++ before.flatMap Namespace.events ++
            ns.start :: earlier.flatMap NamespaceElement.events) ∧
    log <+: compilation.events ∧
    log.filter Event.ofElement =
      (compilation.elements.takeWhile fun e => e.decode.isOk).flatMap NamespaceElement.events ∧
    ∀ (element : NamespaceElement) tree, element.decode = .ok tree →
      element.events = [.decodedNamespaceElement tree.fullName.display] := by
  intro log
  refine ⟨fun tree decoded => (log_of_ok decoded).1, ?_, compilation.log_prefix,
    compilation.filter_log, fun _ _ => NamespaceElement.events_of_decode_eq_ok⟩
  intro fault failed
  obtain ⟨before, ns, after, earlier, element, later, namespaces, elements, failed, faulty,
    decoded, each⟩ := exists_first_fault failed
  refine ⟨before, ns, after, earlier, element, later, namespaces, elements, faulty, ?_, ?_⟩
  · exact List.forall_mem_append.mpr ⟨Namespace.forall_elements_of_ok decoded, each⟩
  · exact log_of_error namespaces elements decoded each failed faulty

/-- Nothing is reported of what comes after a declaration that is not there. The namespace after it
is reported when it is decoded by itself. -/
theorem log_ends_at_first_fault_missing_payload :
    let missing : NamespaceElement := ⟨.known .callable, none, none⟩
    let next : Namespace := ⟨"B", [], []⟩
    let faulty : Compilation := ⟨[⟨"A", [missing], []⟩, next], [⟨"A", "Main"⟩]⟩
    let intact : Compilation := ⟨[next], []⟩
    let fault : Fault := .inconsistent "NamespaceElement" "callable" "Callable"
    faulty.decodeWith ⟨false⟩ = .error fault ∧
      (∃ before ns after earlier element later,
        faulty.namespaces = before ++ ns :: after ∧ ns.elements = earlier ++ element :: later ∧
          element.decode = .error fault ∧
          (∀ e ∈ before.flatMap (·.elements) ++ earlier, ∃ tree, e.decode = .ok tree) ∧
          (faulty.trace ⟨false⟩).log = faulty.opening ++ before.flatMap Namespace.events ++
            ns.start :: earlier.flatMap NamespaceElement.events) ∧
      (faulty.trace ⟨false⟩).log =
        [.decodingCompilation 2 false, .droppingEntryPoints 1, .decodingNamespace "A" 1] ∧
      intact.decodeWith ⟨false⟩ = .ok ⟨[⟨"B", [], .empty⟩], []⟩ ∧
      (intact.trace ⟨false⟩).log = [.decodingCompilation 1 false, .decodingNamespace "B" 0] := by
  intro missing next faulty intact fault
  have failed : faulty.decodeWith ⟨false⟩ = .error fault := rfl
  have decoded : intact.decodeWith ⟨false⟩ = .ok ⟨[⟨"B", [], .empty⟩], []⟩ := rfl
  refine ⟨failed, ?_, rfl, decoded, ?_⟩
  · exact (log_ends_at_first_fault faulty).2.1 fault failed
  · exact (log_ends_at_first_fault intact).1 _ decoded

end Compilation

end Wire

end WireTree
