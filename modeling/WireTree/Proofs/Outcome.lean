import Mathlib.Data.List.Forall2
import WireTree.Discriminator

/-!
# Outcomes of decoding, taken together

Decoding a record decodes its parts one after the other, so what is known of the parts is put
together along the sequence: which fault is reported (`Reports`), and which values are related to
each other (`Forall₂` over lists).
Main statements: a sequence of steps reports the faults of its steps in their order (`Reports.bind`,
`Reports.mapM`), and a list decodes to another list exactly if the members do, one by one
(`mapM_eq_ok_iff`).
-/

namespace WireTree

variable {α β γ : Type}

/-- The fault that an outcome reports. -/
def fault? : Decoded α → Option Fault
  | .ok _ => none
  | .error fault => some fault

/-- An outcome answers a list of faults: it reports the first of them, and is a value if there
is none. -/
def Reports (outcome : Decoded α) (faults : List Fault) : Prop :=
  fault? outcome = faults.head?

namespace Reports

theorem ok (a : α) : Reports (.ok a) [] := rfl

theorem error (fault : Fault) (more : List Fault) :
    Reports (.error fault : Decoded α) (fault :: more) := rfl

/-- A second step counts only if the first one has no fault, so its faults come after. -/
theorem bind {outcome : Decoded α} {following : α → Decoded β} {faults more : List Fault}
    (first : Reports outcome faults) (second : ∀ a, Reports (following a) more) :
    Reports (outcome >>= following) (faults ++ more) := by
  unfold Reports at *
  rw [List.head?_append, ← first]
  cases outcome with
  | error fault => rfl
  | ok a => exact second a

/-- A last step that cannot fail adds nothing. -/
theorem bind_ok {outcome : Decoded α} {make : α → β} {faults : List Fault}
    (first : Reports outcome faults) :
    Reports (outcome >>= fun a => .ok (make a)) faults := by
  have both := first.bind fun a => ok (make a)
  rwa [List.append_nil] at both

theorem mapM {decode : α → Decoded β} {faults : α → List Fault} {items : List α}
    (each : ∀ a ∈ items, Reports (decode a) (faults a)) :
    Reports (items.mapM decode) (items.flatMap faults) := by
  induction items with
  | nil => exact ok []
  | cons a items ih =>
    have tail := ih fun b member => each b (List.mem_cons_of_mem _ member)
    rw [List.mapM_cons, List.flatMap_cons]
    exact (each a List.mem_cons_self).bind fun _ => tail.bind_ok

/-- Answering a list of faults, spelled out. -/
theorem iff {outcome : Decoded α} {faults : List Fault} (reports : Reports outcome faults) :
    (∀ fault, outcome = .error fault ↔ faults.head? = some fault) ∧
      ((∃ a, outcome = .ok a) ↔ faults = []) := by
  unfold Reports at reports
  rw [← List.head?_eq_none_iff, ← reports]
  cases outcome with
  | error fault => simp [fault?]
  | ok a => simp [fault?]

end Reports

/-! ## Steps that succeed -/

theorem bind_eq_ok_iff {ε : Type} {outcome : Except ε α} {following : α → Except ε β} {b : β} :
    (outcome >>= following) = .ok b ↔ ∃ a, outcome = .ok a ∧ following a = .ok b := by
  cases outcome with
  | error e => simp [bind, Except.bind]
  | ok a => simp [bind, Except.bind]

theorem map_eq_ok_iff {ε : Type} {outcome : Except ε α} {make : α → β} {b : β} :
    make <$> outcome = .ok b ↔ ∃ a, outcome = .ok a ∧ make a = b := by
  cases outcome with
  | error e => exact iff_of_false (by rintro ⟨⟩) (by rintro ⟨_, ⟨⟩, -⟩)
  | ok a =>
    show Except.ok (make a) = .ok b ↔ _
    simp

theorem mapM_eq_ok_iff {ε : Type} {decode : α → Except ε β} {items : List α} {trees : List β} :
    items.mapM decode = .ok trees ↔ List.Forall₂ (fun a b => decode a = .ok b) items trees := by
  induction items generalizing trees with
  | nil => simp [pure, Except.pure, eq_comm]
  | cons a items ih =>
    rw [List.mapM_cons, bind_eq_ok_iff, List.forall₂_cons_left_iff]
    constructor
    · rintro ⟨b, first, rest⟩
      obtain ⟨bs, tail, same⟩ := bind_eq_ok_iff.mp rest
      cases same
      exact ⟨b, bs, first, ih.mp tail, rfl⟩
    · rintro ⟨b, bs, first, tail, rfl⟩
      exact ⟨b, first, bind_eq_ok_iff.mpr ⟨bs, ih.mpr tail, rfl⟩⟩

/-- Lists whose members decode alike, one by one, decode alike. -/
theorem mapM_congr_forall₂ {decode : α → Decoded γ} {decode' : β → Decoded γ} {items : List α}
    {items' : List β} (alike : List.Forall₂ (fun a b => decode a = decode' b) items items') :
    items.mapM decode = items'.mapM decode' := by
  induction alike with
  | nil => rfl
  | cons first _ ih => rw [List.mapM_cons, List.mapM_cons, first, ih]

theorem mapM_append_ok {decode : α → Decoded β} {items more : List α} {bs : List β}
    (decoded : items.mapM decode = .ok bs) :
    (items ++ more).mapM decode = (bs ++ ·) <$> more.mapM decode := by
  rw [List.mapM_append, decoded]
  rfl

/-- A last step that cannot fail is not the one that did. -/
theorem error_of_bind_pure_eq_error {outcome : Decoded α} {make : α → β} {fault : Fault}
    (failed : (outcome >>= fun a => (pure (make a) : Decoded β)) = .error fault) :
    outcome = .error fault := by
  cases outcome with
  | error other =>
    cases failed
    rfl
  | ok a => cases failed

/-- A sequence that fails does so at the first of its members that fails. -/
theorem exists_first_of_mapM_eq_error {decode : α → Decoded β} {items : List α} {fault : Fault}
    (failed : items.mapM decode = .error fault) :
    ∃ before a after, items = before ++ a :: after ∧ (∀ x ∈ before, ∃ b, decode x = .ok b) ∧
      decode a = .error fault := by
  induction items with
  | nil => cases failed
  | cons a items ih =>
    rw [List.mapM_cons] at failed
    cases first : decode a with
    | error other =>
      rw [first] at failed
      cases failed
      exact ⟨[], a, items, rfl, nofun, first⟩
    | ok b =>
      cases rest : items.mapM decode with
      | error other =>
        rw [first, rest] at failed
        cases failed
        obtain ⟨before, faulty, after, rfl, each, found⟩ := ih rest
        exact ⟨a :: before, faulty, after, rfl, List.forall_mem_cons.mpr ⟨⟨b, first⟩, each⟩, found⟩
      | ok bs =>
        rw [first, rest] at failed
        cases failed

theorem exists_of_mapM_eq_error {decode : α → Decoded β} {items : List α} {fault : Fault}
    (failed : items.mapM decode = .error fault) : ∃ a ∈ items, decode a = .error fault := by
  obtain ⟨before, a, after, rfl, -, faulty⟩ := exists_first_of_mapM_eq_error failed
  exact ⟨a, by simp, faulty⟩

end WireTree
