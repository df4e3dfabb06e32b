import Mathlib.Data.List.Forall2

/-!
# Relations lifted to lists and to values that may be absent

Members are related one by one, and an absent value is related to an absent one only.
Main statement: values that are related to common ones are related to each other (`forall₂_join`,
`rel_join`).
-/

namespace WireTree

variable {α β γ : Type} {R : α → β → Prop}

/-- Only the members of the first list matter for what a relation is asked of. -/
theorem forall₂_imp_of_mem {Q : α → β → Prop} {as : List α} {bs : List β}
    (weaker : ∀ a ∈ as, ∀ b, R a b → Q a b) (related : List.Forall₂ R as bs) :
    List.Forall₂ Q as bs := by
  induction related with
  | nil => exact .nil
  | cons first _ ih =>
    refine .cons (weaker _ List.mem_cons_self _ first) (ih ?_)
    intro a member
    exact weaker a (List.mem_cons_of_mem _ member)

theorem forall₂_exists_of_mem {as : List α} {bs : List β} (related : List.Forall₂ R as bs) {a : α}
    (member : a ∈ as) : ∃ b ∈ bs, R a b := by
  induction related with
  | nil => cases member
  | cons first _ ih =>
    rcases List.mem_cons.mp member with rfl | member
    · exact ⟨_, List.mem_cons_self, first⟩
    · obtain ⟨b, found, related⟩ := ih member
      exact ⟨b, List.mem_cons_of_mem _ found, related⟩

/-- A list is related to a copy of it if the copies of its members are. -/
theorem forall₂_map_self {f : β → α} {bs : List β} (each : ∀ b ∈ bs, R (f b) b) :
    List.Forall₂ R (bs.map f) bs := by
  rw [List.forall₂_map_left_iff, List.forall₂_same]
  exact each

theorem forall₂_join {P : α → γ → Prop} {Q : β → γ → Prop} {as : List α} {bs : List β}
    {cs : List γ} (first : List.Forall₂ P as cs) (second : List.Forall₂ Q bs cs) :
    List.Forall₂ (fun a b => ∃ c, P a c ∧ Q b c) as bs := by
  induction first generalizing bs with
  | nil => cases second; exact .nil
  | cons head _ ih =>
    cases second with
    | cons head' tail' => exact .cons ⟨_, head, head'⟩ (ih tail')

theorem rel_map_left_iff {f : γ → α} {a : Option γ} {b : Option β} :
    Option.Rel R (a.map f) b ↔ Option.Rel (fun c b => R (f c) b) a b := by
  cases a <;> cases b <;> simp

/-- Only the value that is there matters for what a relation is asked of. -/
theorem rel_imp_of_mem {Q : α → β → Prop} {a : Option α} {b : Option β}
    (weaker : ∀ x, a = some x → ∀ y, R x y → Q x y) (related : Option.Rel R a b) :
    Option.Rel Q a b := by
  cases related with
  | none => exact .none
  | some related => exact .some (weaker _ rfl _ related)

theorem rel_join {P : α → γ → Prop} {Q : β → γ → Prop} {a : Option α} {b : Option β}
    {c : Option γ} (first : Option.Rel P a c) (second : Option.Rel Q b c) :
    Option.Rel (fun a b => ∃ c, P a c ∧ Q b c) a b := by
  cases first with
  | none => cases second; exact .none
  | some first =>
    cases second with
    | some second => exact .some ⟨_, first, second⟩

theorem rel_refl {R : α → α → Prop} (each : ∀ a, R a a) (a : Option α) : Option.Rel R a a := by
  cases a with
  | none => exact .none
  | some a => exact .some (each a)

theorem rel_eq_iff {a b : Option α} : Option.Rel (· = ·) a b ↔ a = b := by
  cases a <;> cases b <;> simp

end WireTree
