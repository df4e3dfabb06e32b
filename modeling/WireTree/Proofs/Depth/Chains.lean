import WireTree.Proofs.Depth.Contains

/-!
# Chains of nodes

Each node of a chain is strictly nested in those before it. Every node is given an allowance: a
container counts once, and the outermost type of nodes has one more to spend. A step inwards costs
two, so that a chain is at most half as long as the greatest allowance.
Main statement: `Rations.shallow`.
-/

namespace WireTree

open Relation (TransGen ReflTransGen)

namespace Grammar

variable {ι : Type}

/-- A node contains another one, and no third one around that. -/
def Directly (g : Grammar ι) (outer inner : (i : ι) × g.Carrier i) : Prop :=
  (g.shape outer.1).Contains inner outer.2

/-- A node is strictly nested in another one, at any distance. -/
def Nested (g : Grammar ι) : ((i : ι) × g.Carrier i) → ((i : ι) × g.Carrier i) → Prop :=
  TransGen g.Directly

/-- A node is somewhere in a value. -/
def Holds (g : Grammar ι) {α : Type} (schema : Schema g.Carrier α) (a : α)
    (x : (i : ι) × g.Carrier i) : Prop :=
  ∃ y, schema.Contains y a ∧ ReflTransGen g.Directly y x

/-- Nodes somewhere in a value, each of them strictly nested in all those before it. -/
structure Chain (g : Grammar ι) {α : Type} (schema : Schema g.Carrier α) (a : α)
    (nodes : List ((i : ι) × g.Carrier i)) : Prop where
  held : ∀ x ∈ nodes, g.Holds schema a x
  nested : nodes.Pairwise g.Nested

variable {g : Grammar ι}

theorem Chain.single {i : ι} (a : g.Carrier i) : g.Chain (.node i) a [⟨i, a⟩] where
  held := by
    rintro x member
    rw [List.mem_singleton.mp member]
    exact ⟨_, rfl, .refl⟩
  nested := List.pairwise_singleton _ _

/-- A chain goes on outwards through a node around the one that it is in. -/
theorem Chain.cons {i j : ι} {a : g.Carrier i} {b : g.Carrier j}
    {nodes : List ((i : ι) × g.Carrier i)} (inside : g.Directly ⟨i, a⟩ ⟨j, b⟩)
    (chain : g.Chain (.node j) b nodes) : g.Chain (.node i) a (⟨i, a⟩ :: nodes) := by
  have deeper : ∀ x ∈ nodes, g.Nested ⟨i, a⟩ x := by
    intro x member
    obtain ⟨_, rfl, within⟩ := chain.held x member
    exact .head' inside within
  refine ⟨?_, List.pairwise_cons.mpr ⟨deeper, chain.nested⟩⟩
  intro x member
  refine ⟨⟨i, a⟩, rfl, ?_⟩
  rcases List.mem_cons.mp member with rfl | member
  · exact .refl
  · exact (deeper x member).to_reflTransGen

end Grammar

/-- No more than 64 nodes in all, and no more than 63 of any one type. -/
structure Shallow {κ : Type} [DecidableEq κ] (types : List κ) : Prop where
  all : types.length ≤ 64
  each : ∀ type, types.count type ≤ 63

variable {X Y κ : Type} {Inside : X → X → Prop} {has : Nat → X → Prop} {type : X → κ}
  {outermost : κ}

/-- What nodes may spend on what is inside them. A step inwards costs two. The innermost node needs
two, and three if it is of the outermost type. -/
structure Rations (Inside : X → X → Prop) (has : Nat → X → Prop) (type : X → κ)
    (outermost : κ) : Prop where
  step : ∀ {n x y}, has n x → Inside x y → ∃ m, has m y ∧ m + 2 ≤ n
  needs : ∀ {n x}, has n x → 2 ≤ n
  needs_outermost : ∀ {n x}, has n x → type x = outermost → 3 ≤ n

/-- A node has an allowance from the most that a text may open, and one more if it is of the
outermost type. -/
def Afforded (has : Nat → X → Prop) (type : X → κ) (outermost : κ) (x : X) : Prop :=
  ∃ n, has n x ∧ n ≤ Grammar.maxDepth + 1 ∧ (type x ≠ outermost → n ≤ Grammar.maxDepth)

namespace Rations

theorem nested (rations : Rations Inside has type outermost) {n : Nat} {x y : X} (first : has n x)
    (inside : TransGen Inside x y) : ∃ m, has m y ∧ m + 2 ≤ n := by
  induction inside with
  | single step => exact rations.step first step
  | tail _ step ih =>
    obtain ⟨m, between, less⟩ := ih
    obtain ⟨k, last, lesser⟩ := rations.step between step
    exact ⟨k, last, by omega⟩

theorem afforded (rations : Rations Inside has type outermost) {x y : X}
    (first : Afforded has type outermost x) (inside : ReflTransGen Inside x y) :
    Afforded has type outermost y := by
  rcases Relation.reflTransGen_iff_eq_or_transGen.mp inside with rfl | inside
  · exact first
  · obtain ⟨n, own, most, -⟩ := first
    obtain ⟨m, own', less⟩ := rations.nested own inside
    exact ⟨m, own', by omega, fun _ => by omega⟩

/-- A chain spends two for each node after the first, and its last node has what it needs. -/
theorem length_le_of_pairwise (rations : Rations Inside has type outermost) {least n : Nat} {x : X}
    {nodes : List X} (first : has n x) (nested : (x :: nodes).Pairwise (TransGen Inside))
    (enough : ∀ y ∈ x :: nodes, ∀ {m}, has m y → least ≤ m) : 2 * nodes.length + least ≤ n := by
  induction nodes generalizing n x with
  | nil => simpa using enough x List.mem_cons_self first
  | cons y nodes ih =>
    obtain ⟨inside, nested⟩ := List.pairwise_cons.mp nested
    obtain ⟨m, next, less⟩ := rations.nested first (inside y List.mem_cons_self)
    have shorter := ih next nested fun z member => enough z (List.mem_cons_of_mem x member)
    rw [List.length_cons]
    omega

/-- The same for a chain of which only the greatest allowance is known. -/
theorem two_mul_length_le (rations : Rations Inside has type outermost) (least most : Nat)
    {nodes : List X} (nested : nodes.Pairwise (TransGen Inside))
    (enough : ∀ x ∈ nodes, ∀ {m}, has m x → least ≤ m)
    (limit : ∀ x ∈ nodes, ∃ n, has n x ∧ n ≤ most) : 2 * nodes.length ≤ most + 2 - least := by
  cases nodes with
  | nil => exact Nat.zero_le _
  | cons x nodes =>
    obtain ⟨n, first, atMost⟩ := limit x List.mem_cons_self
    have spent := rations.length_le_of_pairwise first nested enough
    rw [List.length_cons]
    omega

/-- The members of a chain that are of the outermost type end with one that needs more than others
do; those of any other type start with less. -/
theorem shallow [DecidableEq κ] (rations : Rations Inside has type outermost) {nodes : List X}
    (nested : nodes.Pairwise (TransGen Inside))
    (afforded : ∀ x ∈ nodes, Afforded has type outermost x) : Shallow (nodes.map type) where
  all := by
    have spent := rations.two_mul_length_le 2 128 nested (fun _ _ _ => rations.needs) <| by
      intro x member
      obtain ⟨n, own, most, -⟩ := afforded x member
      exact ⟨n, own, most⟩
    rw [List.length_map]
    omega
  each := by
    intro wanted
    have members : ∀ x ∈ nodes.filter fun x => type x = wanted, x ∈ nodes ∧ type x = wanted := by
      intro x member
      simpa using member
    have count : (nodes.map type).count wanted =
        (nodes.filter fun x => type x = wanted).length := by
      rw [List.count_eq_length_filter, List.filter_map, List.length_map]
      congr
    have nested := nested.filter fun x => type x = wanted
    rw [count]
    by_cases isOutermost : wanted = outermost
    · have spent := rations.two_mul_length_le 3 128 nested (fun x member _ own =>
        rations.needs_outermost own ((members x member).2.trans isOutermost)) <| by
        intro x member
        obtain ⟨n, own, most, -⟩ := afforded x (members x member).1
        exact ⟨n, own, most⟩
      omega
    · have spent := rations.two_mul_length_le 2 127 nested (fun _ _ _ => rations.needs) <| by
        intro x member
        obtain ⟨n, own, -, most⟩ := afforded x (members x member).1
        have other : type x ≠ outermost := (members x member).2 ▸ isOutermost
        exact ⟨n, own, most other⟩
      omega

end Rations

end WireTree
