import WireTree.Proofs.Decodes
import WireTree.Proofs.Provenance.Written
import WireTree.Proofs.SignMagnitude.Basic
import WireTree.Proofs.Spelling.Tree
import WireTree.Proofs.Zeros.Expression

/-!
# Integers of any size in trees

A tree may be given one as any sign with any digits, and the wire as any bytes; two of them are the
same integer, and the literals that hold them the same, exactly if what they stand for agrees, since
neither the sign of zero nor zeros in front are kept.
Main statement: `BigInteger.canonical_forms`.
-/

namespace WireTree

open Json (nestingItems)

variable {ι α : Type} {g : Grammar ι} {depth : Nat} {feed : Feed} {o : Json.Outline} {n : Int}

/-- Bytes in the slot of an integer literal are decoded to the literal of their integer. -/
theorem Wire.ExpressionSlots.decodeWith_bigIntLiteral {E S T E' S' T' : Type}
    {expression : E → Decoded E'} {symbol : S → Decoded S'} {type : T → Decoded T'}
    {slots : ExpressionSlots E S T} {given : List UInt8}
    (kind : slots.kind = .known .bigIntLiteral) (slot : slots.bigIntLiteral = some given) :
    slots.decodeWith expression symbol type =
      (.bigIntLiteral ·) <$> decodeBigInteger given := by
  have selected : slots.select = .bigIntLiteral <$> decodeBigInteger given := by
    unfold select
    rw [kind, slot]
    rfl
  rw [decodeWith_eq_bind, selected]
  cases decodeBigInteger given <;> rfl

/-- The keys of an expression in a tree. -/
def TypedExpression.keys : List String :=
  ["expression", "typeArguments", "resolvedType", "inferredInformation", "range"]

namespace BigInteger

/-! ## What is read as an integer -/

theorem nesting_digits (digits : List UInt32) :
    (Json.ofList (fun d : UInt32 => .ofInt d.toNat) digits).nesting = 1 := by
  show nestingItems (digits.map fun d : UInt32 => .ofInt d.toNat) + 1 = 1
  induction digits with
  | nil => rfl
  | cons low rest ih =>
    have first : (Json.ofInt low.toNat).nesting = 0 := rfl
    rw [List.map_cons, nestingItems, first, Nat.zero_max]
    exact ih

/-- An integer is given by a sign and digits and in no other way. -/
theorem read_iff :
    g.read depth feed Format.bigInteger o = .ok n ↔
      2 ≤ depth ∧ ∃ sign digits, o = (form sign digits).outline ∧ ofSignDigits sign digits = n := by
  have lists (wanted : String) :
      g.OneSpelling (.list wanted Format.word) (.ofList fun d : UInt32 => .ofInt d.toNat) :=
    Grammar.oneSpelling_list Grammar.oneSpelling_word
  rw [Format.bigInteger, Grammar.read_pair_iff]
  constructor
  · rintro ⟨inner, x, y, sign, digits, rfl, rfl, readSign, readDigits, made⟩
    obtain ⟨rfl, -⟩ := (Grammar.oneSpelling_sign _ _ _ _).mp readSign
    obtain ⟨rfl, shallow⟩ := (lists _ _ _ _ _).mp readDigits
    rw [nesting_digits] at shallow
    exact ⟨by omega, sign, digits, rfl, made⟩
  · rintro ⟨room, sign, digits, rfl, made⟩
    obtain ⟨inner, rfl⟩ := Nat.exists_eq_add_of_le' (Nat.le_of_succ_le room)
    refine ⟨inner, _, _, sign, digits, rfl, rfl, ?_, ?_, made⟩
    · exact (Grammar.oneSpelling_sign _ _ _ _).mpr ⟨rfl, Nat.zero_le inner⟩
    · exact (lists _ _ _ _ _).mpr ⟨rfl, by rw [nesting_digits]; omega⟩

/-! ## Spellings -/

/-- An integer as it is given: by a sign and digits in a tree, or by bytes on the wire. -/
inductive Spelling where
  | signDigits (sign : Sign) (digits : List UInt32)
  | bytes (given : List UInt8)

namespace Spelling

/-- The integer that a spelling stands for. -/
def value : Spelling → Int
  | signDigits sign digits =>
    sign.toInt * ∑ i : Fin digits.length, (digits[i].toNat : Int) * 2 ^ (32 * (i : Nat))
  | bytes given =>
    ∑ i : Fin given.length, (given[i].toNat : Int) * 256 ^ (i : Nat) -
      if 128 ≤ given.getLastD 0 then 256 ^ given.length else 0

/-- The integer that a spelling is taken as, by the reader of trees or by decoding. -/
inductive TakenAs : Spelling → Int → Prop where
  | read {depth : Nat} {feed : Feed} {sign : Sign} {digits : List UInt32} {n : Int}
      (read : TreeFormat.grammar.read depth feed Format.bigInteger (form sign digits).outline =
        .ok n) :
      TakenAs (signDigits sign digits) n
  | decoded {given : List UInt8} {n : Int} (decoded : Wire.decodeBigInteger given = .ok n) :
      TakenAs (bytes given) n

/-- An expression whose literal was given by a spelling: one that was read from a text, in which the
literal is written with the sign and the digits, or one that was decoded from a record of the wire,
in which the bytes are the payload. -/
inductive HeldBy : Spelling → TypedExpression → Prop where
  | read {depth : Nat} {feed : Feed} {sign : Sign} {digits : List UInt32} {json : Json}
      {o : Json.Outline} {e : TypedExpression}
      (tagged : Grammar.Tagged "bigIntLiteral" (form sign digits) json)
      (gives : Gives TypedExpression.keys "expression" o json.outline)
      (read : TreeFormat.grammar.read depth feed TreeFormat.typedExpression o = .ok e) :
      HeldBy (signDigits sign digits) e
  | decoded {node : Wire.TypedExpression.Node Wire.TypedExpression} {given : List UInt8}
      {e : TypedExpression} (kind : node.expression.kind = .known .bigIntLiteral)
      (slot : node.expression.bigIntLiteral = some given)
      (decoded : (Wire.TypedExpression.mk node).decode = .ok e) : HeldBy (bytes given) e

theorem value_signDigits (sign : Sign) (digits : List UInt32) :
    (signDigits sign digits).value = ofSignDigits sign digits :=
  (ofSignDigits_eq_sum sign digits).symm

theorem value_bytes {given : List UInt8} (some_byte : given ≠ []) :
    (bytes given).value = ofBytes given := by
  rw [ofBytes_eq_sum given some_byte, value, List.getLastD_eq_getLast?,
    List.getLast?_eq_getLast_of_ne_nil some_byte]
  rfl

variable {spelling : Spelling}

/-- A sign and digits are read as what they stand for, if two containers may be opened. -/
theorem read_form_iff {sign : Sign} {digits : List UInt32} :
    g.read depth feed Format.bigInteger (form sign digits).outline = .ok n ↔
      2 ≤ depth ∧ n = (signDigits sign digits).value := by
  have read_of_room (room : 2 ≤ depth) :
      g.read depth feed Format.bigInteger (form sign digits).outline =
        .ok (signDigits sign digits).value := by
    rw [read_iff, value_signDigits]
    exact ⟨room, sign, digits, rfl, rfl⟩
  constructor
  · intro read
    obtain ⟨room, -⟩ := read_iff.mp read
    rw [read_of_room room] at read
    exact ⟨room, (Except.ok.inj read).symm⟩
  · rintro ⟨room, rfl⟩
    exact read_of_room room

/-- Bytes, if there are any, are decoded to what they stand for. -/
theorem decodeBigInteger_eq_value {given : List UInt8} (accepted : bytes given ≠ bytes []) :
    Wire.decodeBigInteger given = .ok (bytes given).value := by
  have some_byte : given ≠ [] := fun none => accepted (congrArg bytes none)
  rw [Wire.decodeBigInteger_eq_ok_iff, value_bytes some_byte]
  exact ⟨some_byte, rfl⟩

theorem takenAs_value (accepted : spelling ≠ bytes []) : spelling.TakenAs spelling.value := by
  cases spelling with
  | signDigits sign digits =>
    have read : TreeFormat.grammar.read 2 .text Format.bigInteger (form sign digits).outline = _ :=
      read_form_iff.mpr ⟨Nat.le_refl 2, rfl⟩
    exact .read read
  | bytes given => exact .decoded (decodeBigInteger_eq_value accepted)

theorem TakenAs.eq_value (taken : spelling.TakenAs n) : n = spelling.value := by
  cases taken with
  | read read => exact (read_form_iff.mp read).2
  | decoded decoded =>
    obtain ⟨some_byte, rfl⟩ := Wire.decodeBigInteger_eq_ok_iff.mp decoded
    exact (value_bytes some_byte).symm

theorem HeldBy.expression_eq {e : TypedExpression} (held : spelling.HeldBy e) :
    e.node.expression = .bigIntLiteral spelling.value := by
  cases held with
  | read tagged gives read =>
    replace read := (Grammar.read_node TreeFormat.Node.typedExpression).symm.trans read
    obtain ⟨inner, values, rfl, rfl, taken, -⟩ := Grammar.exists_of_read_record (by decide) read
    obtain ⟨part, gives', read⟩ := taken.required
    obtain rfl := gives'.unique (by decide) gives
    obtain ⟨_, _, n, read, made⟩ := Grammar.exists_of_read_tagged rfl tagged read
    obtain ⟨-, rfl⟩ := read_form_iff.mp read
    exact made.symm
  | decoded kind slot decoded =>
    have decodes := Wire.TypedExpression.decode_mk_eq_ok_iff.mp decoded
    have expression := decodes.expression
    rw [Wire.ExpressionSlots.decodeWith_bigIntLiteral kind slot] at expression
    obtain ⟨n, found, made⟩ := map_eq_ok_iff.mp expression
    rw [← made, (TakenAs.decoded found).eq_value]

/-! ## Literals of every spelling -/

/-- The expression of an integer literal of which nothing else is known. -/
def literal (n : Int) : TypedExpression :=
  .mk { expression := .bigIntLiteral n, typeArguments := [], resolvedType := ⟨.invalidType⟩,
        inferredInformation := .nothing, range := none }

/-- The literal of a sign and digits as JSON. -/
def literalJson (sign : Sign) (digits : List UInt32) : Json :=
  .object [("expression", .tagged "bigIntLiteral" (form sign digits)),
    ("typeArguments", .ofList TypeArgument.toJson []),
    ("resolvedType", ResolvedType.toJson ⟨.invalidType⟩),
    ("inferredInformation", InferredExpressionInformation.nothing.toJson), ("range", .null)]

/-- The literal of bytes on the wire. -/
def literalRecord (given : List UInt8) : Wire.TypedExpression.Node Wire.TypedExpression :=
  { expression := { Wire.ExpressionSlots.ofKind .bigIntLiteral with bigIntLiteral := some given }
    typeArguments := []
    resolvedType := .mk ⟨.known .invalidType, none, none, none, none, none, none⟩
    inferredInformation := .nothing
    range := none }

open Format in
theorem spells_literal (sign : Sign) (digits : List UInt32) :
    TreeFormat.grammar.Spells TreeFormat.typedExpression (literalJson sign digits)
      (literal (ofSignDigits sign digits)) := by
  refine spells_node ?_
  refine spells_record (ExpressionKind.bigIntLiteral (ofSignDigits sign digits), [],
    ResolvedType.mk .invalidType, InferredExpressionInformation.nothing, none, ()) rfl ?_
  exact .cons (spells_tagged rfl (spells_signDigits sign digits) rfl) <|
    .cons (spells_list fun argument _ => TreeFormat.spells_typeArgument argument) <|
    .cons (TreeFormat.spells_resolvedType ⟨.invalidType⟩) <|
    .cons (TreeFormat.spells_inferredExpressionInformation .nothing) <|
    .cons (spells_optionalRange none) .nil

/-- Every sign with digits, and all bytes but none, are held by a literal of what they stand for. -/
theorem heldBy_literal (accepted : spelling ≠ bytes []) :
    spelling.HeldBy (literal spelling.value) := by
  cases spelling with
  | signDigits sign digits =>
    have read := spells_literal sign digits (literalJson sign digits).nesting
    rw [limited, if_pos (Nat.le_refl _), ← value_signDigits] at read
    exact .read (.members rfl) (.member rfl) read
  | bytes given =>
    have expression : (literalRecord given).expression.decodeWith Wire.TypedExpression.decode
        Wire.Identifier.decode Wire.ResolvedType.decode = _ :=
      Wire.ExpressionSlots.decodeWith_bigIntLiteral rfl rfl
    rw [decodeBigInteger_eq_value accepted] at expression
    have decoded : (Wire.TypedExpression.mk (literalRecord given)).decode = .ok (literal _) :=
      Wire.TypedExpression.decode_mk_eq_ok_iff.mpr ⟨expression, rfl, rfl, rfl, rfl⟩
    exact .decoded rfl rfl decoded

/-- Two literals are the same exactly if what their spellings stand for is. -/
theorem HeldBy.expression_eq_iff {spelling' : Spelling} {e e' : TypedExpression}
    (held : spelling.HeldBy e) (held' : spelling'.HeldBy e') :
    e.node.expression = e'.node.expression ↔ spelling.value = spelling'.value := by
  rw [held.expression_eq, held'.expression_eq, ExpressionKind.bigIntLiteral.injEq]

/-- Two expressions that differ at most in their literals are the same exactly if what the
spellings of these stand for is. -/
theorem HeldBy.eq_iff {spelling' : Spelling} {e e' : TypedExpression} (held : spelling.HeldBy e)
    (held' : spelling'.HeldBy e')
    (alike : e.node.withExpression () = e'.node.withExpression ()) :
    e = e' ↔ spelling.value = spelling'.value := by
  rw [← held.expression_eq_iff held']
  obtain ⟨node⟩ := e
  obtain ⟨node'⟩ := e'
  rw [TypedExpression.mk.injEq]
  constructor
  · exact congrArg Typed.expression
  · intro same
    exact Typed.withExpression_eq_iff.mpr ⟨same, alike⟩

end Spelling

/-! ## Canonical forms -/

open Spelling in
/-- The forms of integers in trees. What is written for an integer is its sign and the digits of its
magnitude, and is read back. Any sign with any digits is read, as what it stands for, and nothing
else is; writing what was read drops the zeros in front, and the sign if nothing is left. Two
integers that were read or decoded are the same, and the literals that hold them are, exactly if
what they were spelled with stands for the same. -/
theorem canonical_forms :
    (∀ n, ∃ sign digits, toJson n = form sign digits ∧ Canonical n sign digits ∧
      ∀ depth feed, 2 ≤ depth →
        TreeFormat.grammar.read depth feed Format.bigInteger (toJson n).outline = .ok n) ∧
    (∀ sign digits depth feed, 2 ≤ depth →
      TreeFormat.grammar.read depth feed Format.bigInteger (form sign digits).outline =
        .ok (signDigits sign digits).value) ∧
    (∀ sign digits, (signDigits sign digits).value = 0 ↔ sign = .zero ∨ ∀ d ∈ digits, d = 0) ∧
    (∀ sign digits, toJson (signDigits sign digits).value =
      if (signDigits sign digits).value = 0 then form .zero []
      else form sign (digits.rdropWhile (· == 0))) ∧
    (∀ depth feed o n, TreeFormat.grammar.read depth feed Format.bigInteger o = .ok n →
      ∃ sign digits, o = (form sign digits).outline ∧ n = (signDigits sign digits).value) ∧
    (∀ spelling : Spelling, spelling ≠ bytes [] →
      spelling.TakenAs spelling.value ∧ spelling.HeldBy (literal spelling.value)) ∧
    (∀ (a b : Spelling) m n, a.TakenAs m → b.TakenAs n → (m = n ↔ a.value = b.value)) ∧
    ∀ (a b : Spelling) e e', a.HeldBy e → b.HeldBy e' →
      (e.node.expression = e'.node.expression ↔ a.value = b.value) ∧
      (e.node.withExpression () = e'.node.withExpression () → (e = e' ↔ a.value = b.value)) := by
  refine ⟨?written, ?read, ?zero, ?rewritten, ?only, ?accepted, ?integers, ?literals⟩
  case written =>
    intro n
    refine ⟨sign n, digits n.natAbs, toJson_eq n, canonical n, fun depth feed room => ?_⟩
    rw [toJson_eq, read_form_iff, value_signDigits, Format.ofSignDigits_sign]
    exact ⟨room, rfl⟩
  case read =>
    intro sign digits depth feed room
    exact read_form_iff.mpr ⟨room, rfl⟩
  case zero =>
    intro sign digits
    rw [value_signDigits, ofSignDigits_eq_zero_iff]
  case rewritten =>
    intro sign digits
    rw [value_signDigits, toJson_ofSignDigits]
  case only =>
    intro depth feed o n read
    obtain ⟨-, sign, digits, rfl, rfl⟩ := read_iff.mp read
    exact ⟨sign, digits, rfl, by rw [value_signDigits]⟩
  case accepted =>
    intro spelling accepted
    exact ⟨takenAs_value accepted, heldBy_literal accepted⟩
  case integers =>
    intro a b m n taken taken'
    rw [taken.eq_value, taken'.eq_value]
  case literals =>
    intro a b e e' held held'
    exact ⟨held.expression_eq_iff held', held.eq_iff held'⟩

open Spelling in
/-- A sign with digits of which the first in front is zero, and bytes with copies of the sign in
front, that stand for the same integer. -/
theorem canonical_forms_minus_two_pow_32 :
    TreeFormat.grammar.read 2 .text Format.bigInteger (form .negative [0, 1, 0]).outline =
        .ok (-2 ^ 32) ∧
      toJson (-2 ^ 32) = form .negative [0, 1] ∧
      literal (signDigits .negative [0, 1, 0]).value =
        literal (bytes [0, 0, 0, 0, 255, 255]).value := by
  obtain ⟨-, read, -, rewritten, -, accepted, -, literals⟩ := canonical_forms
  have value : (signDigits .negative [0, 1, 0]).value = -2 ^ 32 := by decide +kernel
  have value' : (bytes [0, 0, 0, 0, 255, 255]).value = -2 ^ 32 := by decide +kernel
  refine ⟨?_, ?_, ?_⟩
  · rw [← value]
    exact read .negative [0, 1, 0] 2 .text (Nat.le_refl 2)
  · have nonzero : (signDigits .negative [0, 1, 0]).value ≠ 0 := by
      rw [value]
      decide
    have shortened : [0, 1, 0].rdropWhile (· == (0 : UInt32)) = [0, 1] := by decide
    rw [← value, rewritten, if_neg nonzero, shortened]
  · have held := (accepted (signDigits .negative [0, 1, 0]) nofun).2
    have held' := (accepted (bytes [0, 0, 0, 0, 255, 255]) nofun).2
    have alike (m n : Int) :
        (literal m).node.withExpression () = (literal n).node.withExpression () := rfl
    exact ((literals _ _ _ _ held held').2 (alike _ _)).mpr (value.trans value'.symm)

end BigInteger

end WireTree
