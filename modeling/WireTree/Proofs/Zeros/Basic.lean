import WireTree.Binary64.Basic
import WireTree.Sequence
import WireTree.Proofs.Selection.Basic

/-!
# Two equalities of doubles

They are equal as numbers, under which the zeros are the same and no NaN is the same as itself, or
by their bits. Values that hold doubles are equal as numbers exactly if they are the same once every
negative zero is replaced by positive zero and there is no NaN in them.
Main statement: if decoding commutes with replacing the zeros and keeps the doubles that count, it
respects equality up to the sign of zeros (`KeepsZeros.respectsEquality`).
-/

namespace WireTree

namespace Binary64

/-- Negative zero. -/
def negativeZero : Binary64 := ⟨0x8000000000000000⟩

/-- The number, with positive zero for negative zero. -/
def unsigned (d : Binary64) : Binary64 :=
  if d = negativeZero then zero else d

theorem isZero_iff {d : Binary64} : d.isZero = true ↔ d = zero ∨ d = negativeZero := by
  obtain ⟨bits⟩ := d
  have bound := bits.toNat_lt
  have sign : signBit = 9223372036854775808 := rfl
  simp only [isZero, magnitude, sign, beq_iff_eq, zero, negativeZero, mk.injEq,
    ← UInt64.toNat_inj, UInt64.toNat_ofNat]
  omega

theorem unsigned_eq_unsigned_iff {a b : Binary64} :
    a.unsigned = b.unsigned ↔
      a = b ∨ a = zero ∧ b = negativeZero ∨ a = negativeZero ∧ b = zero := by
  have different : zero ≠ negativeZero := by decide
  unfold unsigned
  grind

theorem isNaN_of_isZero {d : Binary64} (zero : d.isZero = true) : d.isNaN = false := by
  rcases isZero_iff.mp zero with rfl | rfl <;> decide

/-- Doubles are equal as numbers if they are the same up to the sign of zero and no NaN. -/
theorem beq_iff {a b : Binary64} :
    (a == b) = true ↔ a.unsigned = b.unsigned ∧ a.isNaN = false := by
  show a.sameNumber b = true ↔ _
  have bits : a.bits = b.bits ↔ a = b := by
    cases a; cases b; simp
  have zeros : a.isZero = true ∧ b.isZero = true → a.isNaN = false ∧ b.isNaN = false :=
    fun both => ⟨isNaN_of_isZero both.1, isNaN_of_isZero both.2⟩
  simp only [sameNumber, Bool.and_eq_true, Bool.or_eq_true, Bool.not_eq_true', beq_iff_eq, bits,
    unsigned_eq_unsigned_iff, isZero_iff] at zeros ⊢
  grind

/-- Somewhere one list has positive zero and the other one has negative zero. -/
def OppositeZeros (ds es : List Binary64) : Prop :=
  ∃ i : Nat, ds[i]? = some zero ∧ es[i]? = some negativeZero ∨
    ds[i]? = some negativeZero ∧ es[i]? = some zero

theorem eq_iff_not_oppositeZeros {ds es : List Binary64}
    (same : ds.map unsigned = es.map unsigned) : ds = es ↔ ¬ OppositeZeros ds es := by
  constructor
  · rintro rfl ⟨i, ⟨first, second⟩ | ⟨first, second⟩⟩ <;> simp_all [zero, negativeZero]
  · intro none
    refine List.ext_getElem? ?_
    intro i
    have here : (ds.map unsigned)[i]? = (es.map unsigned)[i]? := by rw [same]
    rw [List.getElem?_map, List.getElem?_map] at here
    cases first : ds[i]? with
    | none => cases second : es[i]? with
      | none => rfl
      | some e => simp [first, second] at here
    | some d => cases second : es[i]? with
      | none => simp [first, second] at here
      | some e =>
        simp only [first, second, Option.map_some, Option.some.injEq] at here
        rcases unsigned_eq_unsigned_iff.mp here with rfl | ⟨rfl, rfl⟩ | ⟨rfl, rfl⟩
        · rfl
        · exact absurd ⟨i, .inl ⟨first, second⟩⟩ none
        · exact absurd ⟨i, .inr ⟨first, second⟩⟩ none

end Binary64

/-! ## Values that hold doubles -/

/-- Values that hold doubles. On the wire they are in slots that may not count. -/
class Doubles (α : Type) where
  /-- The value with positive zero for every negative zero, in slots that do not count too. -/
  unsigned : α → α
  /-- The doubles that count, in the order in which decoding meets them. -/
  active : α → List Binary64
  /-- All doubles, those in slots that do not count included. -/
  all : α → List Binary64

namespace Doubles

/-- No doubles. -/
@[reducible]
def absent {α : Type} : Doubles α := ⟨id, fun _ => [], fun _ => []⟩

instance {α : Type} [Doubles α] : Doubles (List α) where
  unsigned := List.map unsigned
  active := List.flatMap active
  all := List.flatMap all

end Doubles

open Doubles

section Lists

variable {W T : Type} [Doubles W] [Doubles T]

/-- Being equal as values on the wire is being the same up to the signs of zeros and holding no
NaN. -/
def ComparesNumbers (same : W → W → Bool) (a : W) : Prop :=
  ∀ b, same a b = true ↔ unsigned a = unsigned b ∧ ∀ d ∈ all a, d.isNaN = false

theorem allApplied_compares {same : W → W → Bool} {as : List W}
    (each : ∀ a ∈ as, ComparesNumbers same a) (bs : List W) :
    allApplied (as.map same) bs = true ↔
      unsigned as = unsigned bs ∧ ∀ d ∈ all as, d.isNaN = false := by
  show _ ↔ as.map unsigned = bs.map unsigned ∧ ∀ d ∈ as.flatMap all, _
  induction as generalizing bs with
  | nil => cases bs <;> simp [allApplied]
  | cons a as ih =>
    cases bs with
    | nil => simp [allApplied]
    | cons b bs =>
      have first := each a List.mem_cons_self b
      have rest := ih (fun c member => each c (List.mem_cons_of_mem _ member)) bs
      simp only [List.map_cons, allApplied, Bool.and_eq_true, first, rest, List.cons.injEq,
        List.flatMap_cons, List.mem_append, or_imp, forall_and]
      tauto

omit [Doubles W] in
theorem allApplied_map_beq [BEq W] (as bs : List W) :
    allApplied (as.map (· == ·)) bs = (as == bs) := by
  induction as generalizing bs with
  | nil => cases bs <;> rfl
  | cons a as ih =>
    cases bs with
    | nil => rfl
    | cons b bs => rw [List.map_cons, allApplied, ih, List.cons_beq_cons]

theorem mapM_unsigned {decode : W → Decoded T} {as : List W}
    (each : ∀ a ∈ as, decode (unsigned a) = unsigned <$> decode a) :
    (unsigned as).mapM decode = unsigned <$> as.mapM decode := by
  show (as.map unsigned).mapM decode = List.map unsigned <$> as.mapM decode
  induction as with
  | nil => rfl
  | cons a as ih =>
    have rest := ih fun c member => each c (List.mem_cons_of_mem _ member)
    rw [List.map_cons, List.mapM_cons, List.mapM_cons, each a List.mem_cons_self, rest]
    cases decode a with
    | error fault => rfl
    | ok t => cases as.mapM decode <;> rfl

theorem active_of_forall₂ {R : W → T → Prop} {as : List W} {ts : List T}
    (each : ∀ a ∈ as, ∀ t, R a t → active t = active a) (related : List.Forall₂ R as ts) :
    active ts = active as := by
  show ts.flatMap active = as.flatMap active
  induction related with
  | nil => rfl
  | cons first _ ih =>
    rw [List.flatMap_cons, List.flatMap_cons, each _ List.mem_cons_self _ first]
    rw [ih fun c member => each c (List.mem_cons_of_mem _ member)]

end Lists

/-- Values that are determined by what they are up to the signs of zeros and by the doubles that
count. -/
class LawfulDoubles (T : Type) [Doubles T] : Prop where
  active_unsigned : ∀ t : T, active (unsigned t) = (active t).map Binary64.unsigned
  eq_of_active : ∀ {t u : T}, unsigned t = unsigned u → active t = active u → t = u

open LawfulDoubles

section Trees

variable {T : Type} [Doubles T]

theorem active_map_unsigned {ts : List T}
    (each : ∀ t ∈ ts, active (unsigned t) = (active t).map Binary64.unsigned) :
    active (unsigned ts) = (active ts).map Binary64.unsigned := by
  show (ts.map unsigned).flatMap active = (ts.flatMap active).map Binary64.unsigned
  rw [List.flatMap_map, List.map_flatMap]
  exact List.flatMap_congr each

/-- Values that are the same up to the signs of zeros hold as many doubles. -/
theorem length_active_eq {t u : T}
    (each : ∀ t : T, active (unsigned t) = (active t).map Binary64.unsigned)
    (same : unsigned t = unsigned u) : (active t).length = (active u).length := by
  have both : (active t).map Binary64.unsigned = (active u).map Binary64.unsigned := by
    rw [← each, ← each, same]
  simpa using congrArg List.length both

theorem list_eq_of_active {ts us : List T}
    (lengths : ∀ t u : T, unsigned t = unsigned u → (active t).length = (active u).length)
    (each : ∀ t ∈ ts, ∀ u, unsigned t = unsigned u → active t = active u → t = u)
    (same : unsigned ts = unsigned us) (sameActive : active ts = active us) : ts = us := by
  replace same : ts.map unsigned = us.map unsigned := same
  replace sameActive : ts.flatMap active = us.flatMap active := sameActive
  induction ts generalizing us with
  | nil =>
    cases us with
    | nil => rfl
    | cons u us => cases same
  | cons t ts ih =>
    cases us with
    | nil => cases same
    | cons u us =>
      obtain ⟨first, rest⟩ := List.cons.inj same
      obtain ⟨here, there⟩ := List.append_inj sameActive (lengths t u first)
      rw [each t List.mem_cons_self u first here]
      rw [ih (fun c member => each c (List.mem_cons_of_mem _ member)) rest there]

instance [LawfulDoubles T] : LawfulDoubles (List T) where
  active_unsigned _ := active_map_unsigned fun t _ => active_unsigned t
  eq_of_active :=
    list_eq_of_active (fun _ _ => length_active_eq active_unsigned) fun _ _ _ => eq_of_active

end Trees

/-! ## Decoding -/

section Decoding

variable {W T : Type} [BEq W] [Doubles W] [Doubles T]

/-- Replacing the zeros before decoding or after it comes to the same, and decoding keeps the
doubles that count. -/
structure KeepsZeros (decode : W → Decoded T) : Prop where
  compares : ∀ a : W, ComparesNumbers (· == ·) a
  decode_unsigned : ∀ a, decode (unsigned a) = unsigned <$> decode a
  active_decode : ∀ {a t}, decode a = .ok t → active t = active a

/-- Decoding respects equality up to the sign of zero. -/
structure RespectsEquality (decode : W → Decoded T) : Prop where
  /-- Values that are equal decode to the same fault or to trees that are the same up to the
  signs of zeros; these are the same exactly if no double that counts is positive zero in one
  value and negative zero in the other. -/
  equal : ∀ a b : W, (a == b) = true →
    Outcomes (fun t u => unsigned t = unsigned u ∧
      (t = u ↔ ¬ Binary64.OppositeZeros (active a) (active b))) (decode a) (decode b)
  /-- Values that are not equal and the same up to the signs of zeros hold a NaN, and decode to
  the same outcome unless zeros that count are opposite. -/
  unequal : ∀ a b : W, (a == b) = false → unsigned a = unsigned b →
    (∃ d ∈ all a, d.isNaN = true) ∧
      (¬ Binary64.OppositeZeros (active a) (active b) → decode a = decode b)

namespace KeepsZeros

variable {decode : W → Decoded T}

theorem mapM (each : KeepsZeros decode) : KeepsZeros (List.mapM decode) where
  compares as := by
    intro bs
    show (as == bs) = true ↔ _
    rw [← allApplied_map_beq]
    exact allApplied_compares (fun a _ => each.compares a) bs
  decode_unsigned _ := mapM_unsigned fun a _ => each.decode_unsigned a
  active_decode decoded :=
    active_of_forall₂ (fun _ _ _ decoded => each.active_decode decoded) (mapM_eq_ok_iff.mp decoded)

/-- Values that are the same up to the signs of zeros decode to trees that are so, too. -/
theorem outcomes [LawfulDoubles T] (keeps : KeepsZeros decode) {a b : W}
    (same : unsigned a = unsigned b) :
    Outcomes (fun t u => unsigned t = unsigned u ∧
      (t = u ↔ ¬ Binary64.OppositeZeros (active a) (active b))) (decode a) (decode b) := by
  have both : unsigned <$> decode a = unsigned <$> decode b := by
    rw [← keeps.decode_unsigned, ← keeps.decode_unsigned, same]
  cases first : decode a with
  | error fault =>
    cases second : decode b with
    | error fault' =>
      rw [first, second] at both
      cases both
      exact .error fault
    | ok u =>
      rw [first, second] at both
      cases both
  | ok t =>
    cases second : decode b with
    | error fault =>
      rw [first, second] at both
      cases both
    | ok u =>
      have trees : unsigned t = unsigned u := by
        rw [first, second] at both
        exact Except.ok.inj both
      have doubles : (active t).map Binary64.unsigned = (active u).map Binary64.unsigned := by
        rw [← active_unsigned, ← active_unsigned, trees]
      refine .ok ⟨trees, ?_⟩
      rw [← keeps.active_decode first, ← keeps.active_decode second,
        ← Binary64.eq_iff_not_oppositeZeros doubles]
      exact ⟨congrArg active, eq_of_active trees⟩

theorem respectsEquality [LawfulDoubles T] (keeps : KeepsZeros decode) :
    RespectsEquality decode where
  equal a b equal := keeps.outcomes ((keeps.compares a b).mp equal).1
  unequal a b unequal same := by
    have iff : (a == b) = true ↔ _ := keeps.compares a b
    constructor
    · by_contra none
      have numbers : ∀ d ∈ all a, d.isNaN = false := by simpa using none
      rw [iff.mpr ⟨same, numbers⟩] at unequal
      cases unequal
    · intro none
      exact ((keeps.outcomes same).imp fun _ _ related => related.2.mpr none).eq

end KeepsZeros

end Decoding

end WireTree
