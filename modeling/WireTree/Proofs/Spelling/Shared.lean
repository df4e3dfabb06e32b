import WireTree.Format.Shared
import WireTree.Format.Writer
import WireTree.Proofs.Spelling.Basic

/-!
# What is written for numbers, places and names

What is written for them spells them.
-/

namespace WireTree.Format

variable {ι : Type} {g : Grammar ι} {α : Type}

/-! ## Numbers -/

theorem accept_bounded {wanted : String} {least greatest n : Int} {make : Int → α}
    (above : least ≤ n) (below : n ≤ greatest) :
    (bounded wanted least greatest make).accept n = .ok (make n) :=
  if_pos ⟨above, below⟩

theorem spells_word (d : UInt32) : g.Spells word (.ofInt d.toNat) d := by
  have bound : d.toNat < 4294967296 := d.toNat_lt
  have size : (UInt32.size : Int) = 4294967296 := rfl
  have largest : (UInt64.size : Int) = 18446744073709551616 := rfl
  have least : Int64.minValue.toInt ≤ 0 := by decide
  have above : (0 : Int) ≤ d.toNat := by omega
  have below : (d.toNat : Int) ≤ UInt32.size - 1 := by omega
  refine spells_integer (by omega) (by omega) ?_
  rw [accept_bounded above below]
  simp

theorem spells_int64 (value : Int64) : g.Spells int64 (.ofInt value.toInt) value := by
  have least : Int64.minValue.toInt ≤ value.toInt := value.minValue_le_toInt
  have greatest : value.toInt ≤ Int64.maxValue.toInt := value.toInt_le
  have below : Int64.maxValue.toInt < UInt64.size := by decide
  refine spells_integer least (by omega) ?_
  rw [accept_bounded least greatest, Int64.ofInt_toInt]

theorem spells_sign (sign : BigInteger.Sign) : g.Spells Format.sign (.ofInt sign.toInt) sign := by
  cases sign <;> exact spells_integer (by decide) (by decide) rfl

theorem ofSignDigits_sign (n : Int) :
    BigInteger.ofSignDigits (BigInteger.sign n) (BigInteger.digits n.natAbs) = n := by
  unfold BigInteger.ofSignDigits BigInteger.sign
  rw [BigInteger.ofDigits_digits]
  by_cases negative : n < 0
  · rw [if_pos negative, BigInteger.Sign.toInt]
    omega
  · by_cases zero : n = 0
    · rw [if_neg negative, if_pos zero, BigInteger.Sign.toInt]
      omega
    · rw [if_neg negative, if_neg zero, BigInteger.Sign.toInt]
      omega

/-- A sign and digits spell their integer, whether or not they are what is written for it. -/
theorem spells_signDigits (sign : BigInteger.Sign) (digits : List UInt32) :
    g.Spells bigInteger
      (.array [.ofInt sign.toInt, .ofList (fun d : UInt32 => .ofInt d.toNat) digits])
      (BigInteger.ofSignDigits sign digits) := by
  refine spells_tuple (sign, digits, ()) ?_
  exact .cons (spells_sign sign) <| .cons (spells_list fun d _ => spells_word d) .nil

theorem spells_bigInteger (n : Int) : g.Spells bigInteger (BigInteger.toJson n) n := by
  have spelled : g.Spells bigInteger (BigInteger.toJson n) _ :=
    spells_signDigits (BigInteger.sign n) (BigInteger.digits n.natAbs)
  rwa [ofSignDigits_sign] at spelled

/-! ## Places and names -/

theorem spells_string (s : String) : g.Spells string (.text s) s :=
  spells_text id s

theorem spells_position (p : Position) : g.Spells position p.toJson p := by
  refine spells_record (p.line, p.column, ()) rfl ?_
  exact .cons (spells_word p.line) <| .cons (spells_word p.column) .nil

theorem spells_range (r : Range) : g.Spells range r.toJson r := by
  refine spells_record (r.start, r.finish, ()) rfl ?_
  exact .cons (spells_position r.start) <| .cons (spells_position r.finish) .nil

theorem spells_location (l : Location) : g.Spells location l.toJson l := by
  refine spells_record (l.offset, l.range, ()) rfl ?_
  exact .cons (spells_position l.offset) <| .cons (spells_range l.range) .nil

theorem spells_qualifiedName (n : QualifiedName) : g.Spells qualifiedName n.toJson n := by
  refine spells_record (n.scope, n.name, ()) rfl ?_
  exact .cons (spells_string n.scope) <| .cons (spells_string n.name) .nil

/-- A range that may be absent. -/
theorem spells_optionalRange (range : Option Range) :
    g.Spells (.optional Format.range) (.ofOption Range.toJson range) range :=
  spells_optional (fun _ => nofun) fun r _ => spells_range r

theorem spells_userDefinedType (t : UserDefinedType) : g.Spells userDefinedType t.toJson t := by
  refine spells_record (t.scope, t.name, t.range, ()) rfl ?_
  exact .cons (spells_string t.scope) <| .cons (spells_string t.name) <|
    .cons (spells_optionalRange t.range) .nil

theorem spells_typeParameter (p : TypeParameter) : g.Spells typeParameter p.toJson p := by
  refine spells_record (p.origin, p.typeName, p.range, ()) rfl ?_
  exact .cons (spells_qualifiedName p.origin) <| .cons (spells_string p.typeName) <|
    .cons (spells_optionalRange p.range) .nil

end WireTree.Format
