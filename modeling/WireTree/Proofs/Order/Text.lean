import Mathlib.Algebra.Order.Ring.Nat

/-!
# The order of texts

One list precedes another if it is a beginning of it, or if its item is less where they first
differ; this order of the UTF-8 bytes of texts, that of their code points, and the order that texts
are compared by are the same.
Main statements: what is made up of codes that keep the order precedes what it should
(`KeepsOrder.precedes_iff`), and UTF-8 is such a code (`keepsOrder_utf8EncodeChar`).
-/

namespace WireTree

variable {α β : Type}

/-! ## Lists one before the other -/

section Lists

variable [LT α] [LT β]

/-- Two lists differ somewhere, and the first has less there. -/
def Diverges (xs ys : List α) : Prop :=
  ∃ common x y rest rest', xs = common ++ x :: rest ∧ ys = common ++ y :: rest' ∧ x < y

/-- One list comes before another: it is a proper beginning of it, or has less where they first
differ. -/
def Precedes (xs ys : List α) : Prop :=
  (∃ next rest, ys = xs ++ next :: rest) ∨ Diverges xs ys

theorem diverges_cons {x y : α} {xs ys : List α} (first : x < y ∨ x = y ∧ Diverges xs ys) :
    Diverges (x :: xs) (y :: ys) := by
  rcases first with less | ⟨rfl, common, x', y', rest, rest', rfl, rfl, less⟩
  · exact ⟨[], x, y, xs, ys, rfl, rfl, less⟩
  · exact ⟨x :: common, x', y', rest, rest', rfl, rfl, less⟩

theorem precedes_cons_iff {x y : α} {xs ys : List α} :
    Precedes (x :: xs) (y :: ys) ↔ x < y ∨ x = y ∧ Precedes xs ys := by
  constructor
  · rintro (⟨next, rest, longer⟩ | ⟨common, x', y', rest, rest', first, second, less⟩)
    · obtain ⟨rfl, rfl⟩ := List.cons.inj longer
      exact .inr ⟨rfl, .inl ⟨next, rest, rfl⟩⟩
    · cases common with
      | nil =>
        obtain ⟨rfl, rfl⟩ := List.cons.inj first
        obtain ⟨rfl, rfl⟩ := List.cons.inj second
        exact .inl less
      | cons c common =>
        obtain ⟨rfl, rfl⟩ := List.cons.inj first
        obtain ⟨rfl, rfl⟩ := List.cons.inj second
        exact .inr ⟨rfl, .inr ⟨common, x', y', rest, rest', rfl, rfl, less⟩⟩
  · rintro (less | ⟨rfl, ⟨next, rest, rfl⟩ | differ⟩)
    · exact .inr (diverges_cons (.inl less))
    · exact .inl ⟨next, rest, rfl⟩
    · exact .inr (diverges_cons (.inr ⟨rfl, differ⟩))

/-- Preceding is the lexicographic order of lists. -/
theorem precedes_iff_lt {xs ys : List α} : Precedes xs ys ↔ xs < ys := by
  induction xs generalizing ys with
  | nil =>
    cases ys with
    | nil =>
      refine iff_of_false ?_ (List.not_lt_nil [])
      rintro (⟨_, _, longer⟩ | ⟨_, _, _, _, _, differ, -⟩)
      · cases longer
      · simp at differ
    | cons y ys => exact iff_of_true (.inl ⟨y, ys, rfl⟩) (List.nil_lt_cons y ys)
  | cons x xs ih =>
    cases ys with
    | nil =>
      refine iff_of_false ?_ (List.not_lt_nil _)
      rintro (⟨_, _, longer⟩ | ⟨_, _, _, _, _, -, differ, -⟩)
      · cases longer
      · simp at differ
    | cons y ys => rw [precedes_cons_iff, List.cons_lt_cons_iff, ih]

/-- A code keeps the order: every item has one, and those of different items differ before either
ends, in the way the items do. -/
structure KeepsOrder (encode : α → List β) : Prop where
  ne_nil : ∀ a, encode a ≠ []
  diverges : ∀ {a b}, a < b → Diverges (encode a) (encode b)

variable {encode : α → List β} {xs ys : List α}

theorem KeepsOrder.precedes (keeps : KeepsOrder encode) (before : Precedes xs ys) :
    Precedes (xs.flatMap encode) (ys.flatMap encode) := by
  rcases before with ⟨next, rest, rfl⟩ | ⟨common, x, y, rest, rest', rfl, rfl, less⟩
  · obtain ⟨first, others, code⟩ := List.exists_cons_of_ne_nil (keeps.ne_nil next)
    refine .inl ⟨first, others ++ rest.flatMap encode, ?_⟩
    rw [List.flatMap_append, List.flatMap_cons, code]
    rfl
  · obtain ⟨same, c, d, others, others', code, code', less⟩ := keeps.diverges less
    refine .inr ⟨common.flatMap encode ++ same, c, d, others ++ rest.flatMap encode,
      others' ++ rest'.flatMap encode, ?_, ?_, less⟩
    · simp [code]
    · simp [code']

/-- What is made up of codes that keep the order is ordered as what it stands for. -/
theorem KeepsOrder.precedes_iff [Std.Asymm (α := α) (· < ·)]
    [Std.Trichotomous (α := α) (· < ·)] [Std.Asymm (α := β) (· < ·)]
    (keeps : KeepsOrder encode) :
    Precedes (xs.flatMap encode) (ys.flatMap encode) ↔ Precedes xs ys := by
  refine ⟨fun before => ?_, keeps.precedes⟩
  by_contra not_before
  rw [precedes_iff_lt] at before not_before
  rcases List.le_iff_lt_or_eq.mp (List.not_lt.mp not_before) with after | rfl
  · have turned := precedes_iff_lt.mp (keeps.precedes (precedes_iff_lt.mpr after))
    exact List.lt_asymm before turned
  · exact List.lt_asymm before before

end Lists

/-! ## UTF-8 -/

/-- Bytes whose numbers differ, or are the same and followed by what differs. -/
theorem diverges_ofNat {m n : Nat} {xs ys : List UInt8} (small : m < 256) (small' : n < 256)
    (first : m < n ∨ m = n ∧ Diverges xs ys) :
    Diverges (UInt8.ofNat m :: xs) (UInt8.ofNat n :: ys) := by
  rcases first with less | ⟨rfl, differ⟩
  · exact diverges_cons (.inl ((UInt8.ofNat_lt_iff_lt small small').mpr less))
  · exact diverges_cons (.inr ⟨rfl, differ⟩)

/-- The bytes after the first one: the last digits of a number to the base 64, highest first. -/
def continuation : Nat → Nat → List UInt8
  | 0, _ => []
  | k + 1, m => UInt8.ofNat (m / 64 ^ k % 64 + 128) :: continuation k m

theorem diverges_continuation {k m n : Nat} (less : m % 64 ^ k < n % 64 ^ k) :
    Diverges (continuation k m) (continuation k n) := by
  induction k with
  | zero => omega
  | succ k ih =>
    refine diverges_ofNat (by omega) (by omega) ?_
    rw [pow_succ, Nat.mod_mul, Nat.mod_mul] at less
    have small := Nat.mod_lt n (Nat.pow_pos (by decide : 0 < 64) : 0 < 64 ^ k)
    rcases Nat.lt_trichotomy (m / 64 ^ k % 64) (n / 64 ^ k % 64) with digit | digit | digit
    · exact .inl (by omega)
    · refine .inr ⟨by omega, ih ?_⟩
      rw [digit] at less
      omega
    · -- a greater digit outweighs all that follow it
      have outweighs := Nat.mul_le_mul_left (64 ^ k) (Nat.succ_le_of_lt digit)
      rw [Nat.succ_eq_add_one, Nat.mul_add_one] at outweighs
      omega

/-- Numbers with equally long codes: the first bytes differ, or the digits after them do. -/
theorem diverges_code {k lead m n : Nat} (less : m < n) (fits : n / 64 ^ k + lead < 256) :
    Diverges (UInt8.ofNat (m / 64 ^ k + lead) :: continuation k m)
      (UInt8.ofNat (n / 64 ^ k + lead) :: continuation k n) := by
  have high : m / 64 ^ k ≤ n / 64 ^ k := Nat.div_le_div_right (Nat.le_of_lt less)
  refine diverges_ofNat (by omega) fits ?_
  rcases Nat.lt_or_eq_of_le high with digit | digit
  · exact .inl (by omega)
  · refine .inr ⟨by omega, diverges_continuation ?_⟩
    have parts := Nat.div_add_mod m (64 ^ k)
    have parts' := Nat.div_add_mod n (64 ^ k)
    rw [digit] at parts
    omega

/-- How many bytes follow the first one, and what marks the first one. -/
def utf8Form (m : Nat) : Nat × Nat :=
  if m ≤ 127 then (0, 0) else if m ≤ 2047 then (1, 192) else if m ≤ 65535 then (2, 224)
  else (3, 240)

theorem char_toNat_lt (c : Char) : c.toNat < 1114112 := by
  have valid := c.valid
  rcases valid with low | ⟨-, high⟩ <;> simp only [Char.toNat_val] at * <;> omega

theorem firstByte_lt {m : Nat} (bound : m < 1114112) :
    m / 64 ^ (utf8Form m).1 + (utf8Form m).2 < 256 := by
  unfold utf8Form
  split_ifs <;> simp only <;> omega

/-- The first byte of a longer code is greater. -/
theorem form_eq_or_firstByte_lt {m n : Nat} (less : m < n) (bound : n < 1114112) :
    utf8Form m = utf8Form n ∨
      m / 64 ^ (utf8Form m).1 + (utf8Form m).2 < n / 64 ^ (utf8Form n).1 + (utf8Form n).2 := by
  unfold utf8Form
  split_ifs <;> simp <;> omega

theorem utf8EncodeChar_eq (c : Char) :
    String.utf8EncodeChar c =
      UInt8.ofNat (c.toNat / 64 ^ (utf8Form c.toNat).1 + (utf8Form c.toNat).2) ::
        continuation (utf8Form c.toNat).1 c.toNat := by
  have bound := char_toNat_lt c
  unfold String.utf8EncodeChar utf8Form
  simp only [Char.toNat_val]
  split_ifs with one two three
  · simp [continuation]
  · rw [Nat.mod_eq_of_lt (by omega : c.toNat / 64 < 32)]
    simp [continuation]
  · rw [Nat.mod_eq_of_lt (by omega : c.toNat / 4096 < 16)]
    simp [continuation]
  · rw [Nat.mod_eq_of_lt (by omega : c.toNat / 262144 < 8)]
    simp [continuation]

/-- UTF-8 keeps the order of the code points. -/
theorem keepsOrder_utf8EncodeChar : KeepsOrder String.utf8EncodeChar where
  ne_nil _ := String.utf8EncodeChar_ne_nil
  diverges {a b} less := by
    have less : a.toNat < b.toNat := less
    rw [utf8EncodeChar_eq, utf8EncodeChar_eq]
    have fits := firstByte_lt (char_toNat_lt a)
    have fits' := firstByte_lt (char_toNat_lt b)
    rcases form_eq_or_firstByte_lt less (char_toNat_lt b) with same | greater
    · rw [same]
      exact diverges_code less fits'
    · exact diverges_ofNat fits fits' (.inl greater)

/-! ## Texts -/

/-- The bytes of a text in UTF-8. -/
def utf8 (s : String) : List UInt8 := s.toUTF8.data.toList

/-- The code points of a text. -/
def codePoints (s : String) : List Nat := s.toList.map Char.toNat

theorem utf8_eq (s : String) : utf8 s = s.toList.flatMap String.utf8EncodeChar := by
  show s.toByteArray.data.toList = _
  rw [← String.utf8Encode_toList, List.utf8Encode, List.toList_data_toByteArray]

theorem codePoints_eq (s : String) : codePoints s = s.toList.flatMap fun c => [c.toNat] :=
  List.map_eq_flatMap

theorem keepsOrder_toNat : KeepsOrder fun c : Char => [c.toNat] where
  ne_nil _ := nofun
  diverges less := diverges_cons (.inl less)

/-- Texts are ordered as their bytes. -/
theorem lt_iff_precedes_utf8 {a b : String} : a < b ↔ Precedes (utf8 a) (utf8 b) := by
  rw [utf8_eq, utf8_eq, keepsOrder_utf8EncodeChar.precedes_iff, precedes_iff_lt]
  rfl

/-- Texts are ordered as their code points. -/
theorem lt_iff_precedes_codePoints {a b : String} :
    a < b ↔ Precedes (codePoints a) (codePoints b) := by
  rw [codePoints_eq, codePoints_eq, keepsOrder_toNat.precedes_iff, precedes_iff_lt]
  rfl

/-- A text is compared by its bytes. -/
theorem compare_eq_lt_iff_utf8 {a b : String} :
    compare a b = .lt ↔ Precedes (utf8 a) (utf8 b) := by
  rw [← lt_iff_precedes_utf8]
  exact compareOfLessAndEq_eq_lt

end WireTree
