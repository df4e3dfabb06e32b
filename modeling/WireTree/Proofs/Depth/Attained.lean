import WireTree.Proofs.Depth.Contents
import WireTree.Proofs.Depth.Wire
import WireTree.Proofs.Spelling.Basic

/-!
# Arrays inside each other, as texts

Each array opens two containers, so that the limit on containers is a limit on arrays.
Main statements: `readText_arrays`, `readText_unit`.
-/

namespace WireTree

open Json (outlineMembers nestingMembers)

/-! ## Objects that leave members out -/

section Given

variable {ι : Type} {g : Grammar ι} {α σ τ : Type}

/-- Members that spell the values of some fields, in the order of the fields. The others have the
values that stand for absent ones. -/
inductive FieldsGiven (g : Grammar ι) : {σ τ : Type} → Fields (Schema g.Carrier) σ τ →
    List (String × Json) → τ → Prop where
  | nil : FieldsGiven g .nil [] ()
  | given {α σ τ : Type} {key : String} {presence : Presence α} {schema : Schema g.Carrier α}
      {rest : Fields (Schema g.Carrier) σ τ} {json : Json} {a : α}
      {members : List (String × Json)} {values : τ} (first : g.Spells schema json a)
      (more : FieldsGiven g rest members values) :
      FieldsGiven g (.cons key presence schema rest) ((key, json) :: members) (a, values)
  | leftOut {α σ τ : Type} {key : String} {presence : Presence α} {schema : Schema g.Carrier α}
      {rest : Fields (Schema g.Carrier) σ τ} {a : α} {members : List (String × Json)} {values : τ}
      (absent : presence.absent? = some a) (more : FieldsGiven g rest members values) :
      FieldsGiven g (.cons key presence schema rest) members (a, values)

theorem FieldsGiven.mem_keys {fields : Fields (Schema g.Carrier) σ τ}
    {members : List (String × Json)} {values : τ} (given : FieldsGiven g fields members values) :
    ∀ member ∈ members, member.1 ∈ fields.keys := by
  induction given with
  | nil => nofun
  | given _ _ ih =>
    intro member found
    rcases List.mem_cons.mp found with rfl | found
    · exact List.mem_cons_self
    · exact List.mem_cons_of_mem _ (ih member found)
  | leftOut _ _ ih =>
    intro member found
    exact List.mem_cons_of_mem _ (ih member found)

theorem FieldsGiven.ne_of_not_mem_keys {fields : Fields (Schema g.Carrier) σ τ}
    {members : List (String × Json)} {values : τ} (given : FieldsGiven g fields members values)
    {key : String} (fresh : key ∉ fields.keys) :
    ∀ member ∈ outlineMembers members, member.1 ≠ some key := by
  rw [Json.outlineMembers_eq_map, List.forall_mem_map]
  intro member found same
  exact fresh (Option.some.inj same ▸ given.mem_keys member found)

/-- The members fill the fields that they are for, and completing them gives the values. -/
theorem exists_of_given {fields : Fields (Schema g.Carrier) σ τ} {members : List (String × Json)}
    {values : τ} (given : FieldsGiven g fields members values) (distinct : fields.keys.Nodup)
    (depth : Nat) :
    ∃ slots, fields.complete slots = .ok values ∧
      fields.readMembers (g.inside depth) .text fields.blank (outlineMembers members) =
        limited (nestingMembers members) depth slots := by
  induction given with
  | nil => exact ⟨(), rfl, rfl⟩
  | @given α σ τ key presence schema rest json a members values first more ih =>
    obtain ⟨fresh, distinct⟩ := List.nodup_cons.mp distinct
    obtain ⟨slots, completed, others⟩ := ih distinct
    have different := more.ne_of_not_mem_keys fresh
    refine ⟨(some a, slots), ?_, ?_⟩
    · rw [Fields.complete, completed]
      rfl
    · exact readMembers_cons_of_spells first different others
  | @leftOut α σ τ key presence schema rest a members values absent more ih =>
    obtain ⟨fresh, distinct⟩ := List.nodup_cons.mp distinct
    obtain ⟨slots, completed, others⟩ := ih distinct
    have different := more.ne_of_not_mem_keys fresh
    refine ⟨(none, slots), ?_, ?_⟩
    · have resolved : Fields.resolve key presence none = .ok a := by
        cases presence <;> cases absent <;> rfl
      rw [Fields.complete, resolved, completed]
      rfl
    · rw [Fields.blank, Fields.readMembers_cons_of_ne _ _ _ _ different, others, limited_map]

/-- A record is spelled by an object with some of its members, if the others may be absent. -/
theorem spells_record_given {name : String} {fields : Fields (Schema g.Carrier) σ τ}
    {make : τ → α} {members : List (String × Json)} (values : τ)
    (distinct : decide fields.keys.Nodup = true) (given : FieldsGiven g fields members values) :
    g.Spells (Format.record name fields make) (.object members) (make values) := by
  refine spells_container rfl rfl ?_
  intro depth
  obtain ⟨slots, completed, read⟩ := exists_of_given given (of_decide_eq_true distinct) depth
  have read : fields.readObject (g.inside depth) .text (outlineMembers members) true =
      limited (nestingMembers members) depth values := by
    rw [Fields.readObject, read]
    exact limited_then completed
  show make <$> fields.readObject (g.inside depth) .text (outlineMembers members) true = _
  rw [read, limited_map]

theorem spells_present {schema : Schema g.Carrier α} {json : Json} {a : α}
    (present : json ≠ .null) (spells : g.Spells schema json a) :
    g.Spells (.optional schema) json (some a) := by
  intro depth
  rw [read_optional present, spells depth, limited_map]

end Given

namespace Wire.Format

open Json (Outline Token)
open WireTree.Format

/-! ## Arrays inside each other -/

/-- A type without payload. -/
def plainType : ResolvedType :=
  .mk ⟨.known .int, none, none, none, none, none, none⟩

/-- An array type. -/
def arrayOf (item : ResolvedType) : ResolvedType :=
  .mk ⟨.known .arrayType, some item, none, none, none, none, none⟩

/-- Arrays inside each other, around a type without payload. -/
def arrays : Nat → ResolvedType
  | 0 => plainType
  | n + 1 => arrayOf (arrays n)

/-- Arrays inside each other in JSON. -/
def arraysJson : Nat → Json
  | 0 => .object [("typeKind", .object [("kind", .text "Int")])]
  | n + 1 =>
    .object [("typeKind", .object [("kind", .text "ArrayType"), ("arrayType", arraysJson n)])]

theorem nesting_arraysJson (n : Nat) : (arraysJson n).nesting = 2 * n + 2 := by
  induction n with
  | zero => rfl
  | succ n ih =>
    simp only [arraysJson, Json.nesting, nestingMembers, ih]
    omega

theorem spells_kind {κ : Type} [UnionTag κ] (text : String) :
    grammar.Spells (discriminator κ) (.text text) (Discriminator.ofText text) :=
  spells_text Discriminator.ofText text

/-- A type is spelled by its slots. -/
theorem spells_type {members : List (String × Json)} {slots : ResolvedType.Slots ResolvedType}
    (spells : grammar.Spells
      (typeSlots resolvedType userDefinedType typeParameter callableInformation)
      (.object members) slots) :
    grammar.Spells resolvedType (.object [("typeKind", .object members)]) (.mk slots) :=
  spells_node (spells_record_given (slots, ()) rfl (.given spells .nil))

theorem spells_arrays (n : Nat) : grammar.Spells resolvedType (arraysJson n) (arrays n) := by
  induction n with
  | zero =>
    refine spells_type (spells_record_given
      (Discriminator.known TypeTag.int, none, none, none, none, none, none, ()) rfl ?_)
    exact .given (spells_kind "Int") <| .leftOut rfl <| .leftOut rfl <| .leftOut rfl <|
      .leftOut rfl <| .leftOut rfl <| .leftOut rfl .nil
  | succ n ih =>
    have item := spells_present (by cases n <;> nofun) ih
    refine spells_type (spells_record_given
      (Discriminator.known TypeTag.arrayType, some (arrays n), none, none, none, none, none, ())
      rfl ?_)
    exact .given (spells_kind "ArrayType") <| .given item <| .leftOut rfl <| .leftOut rfl <|
      .leftOut rfl <| .leftOut rfl <| .leftOut rfl .nil

/-- A unit value of a type. -/
def unitOf (type : ResolvedType) : TypedExpression :=
  .mk { expression := .ofKind .unitValue, typeArguments := [], resolvedType := type,
        inferredInformation := .nothing, range := none }

/-- A unit value of a type in JSON. -/
def unitJson (type : Json) : Json :=
  .object [("expression", .object [("kind", .text "UnitValue")]), ("resolvedType", type)]

theorem spells_unit {json : Json} {type : ResolvedType}
    (spells : grammar.Spells resolvedType json type) :
    grammar.Spells typedExpression (unitJson json) (unitOf type) := by
  have slots : grammar.Spells (expressionSlots typedExpression identifier resolvedType)
      (.object [("kind", .text "UnitValue")]) (.ofKind .unitValue) := by
    refine spells_record_given (Discriminator.known ExpressionTag.unitValue, none, (0 : Int64),
      none, Binary64.zero, false, none, none, none, none, none, none, none, none, none, ()) rfl ?_
    exact .given (spells_kind "UnitValue") <| .leftOut rfl <| .leftOut rfl <| .leftOut rfl <|
      .leftOut rfl <| .leftOut rfl <| .leftOut rfl <| .leftOut rfl <| .leftOut rfl <|
      .leftOut rfl <| .leftOut rfl <| .leftOut rfl <| .leftOut rfl <| .leftOut rfl <|
      .leftOut rfl .nil
  refine spells_node (spells_record_given (ExpressionSlots.ofKind .unitValue, [], type,
    InferredExpressionInformation.nothing, none, ()) rfl ?_)
  exact .given slots <| .leftOut rfl <| .given spells <| .leftOut rfl <| .leftOut rfl .nil

theorem nesting_unitJson (n : Nat) : (unitJson (arraysJson n)).nesting = 2 * n + 3 := by
  simp only [unitJson, Json.nesting, nestingMembers, nesting_arraysJson]
  omega

/-! ## Their texts -/

/-- Put braces around the text of an object's members. -/
def braced (members : List Char) : List Char := '{' :: (members ++ ['}'])

/-- The text of arrays inside each other. -/
def arraysText : Nat → List Char
  | 0 => braced ("\"typeKind\":".toList ++ braced "\"kind\":\"Int\"".toList)
  | n + 1 => braced ("\"typeKind\":".toList ++
      braced ("\"kind\":\"ArrayType\",\"arrayType\":".toList ++ arraysText n))

/-- The text of a unit value of a type. -/
def unitText (type : List Char) : List Char :=
  braced ("\"expression\":".toList ++ braced "\"kind\":\"UnitValue\"".toList ++
    ",\"resolvedType\":".toList ++ type)

/-- The tokens of an object's members between braces. -/
def bracedTokens (members : List Token) : List Token := .openObject :: (members ++ [.closeObject])

/-- The tokens of arrays inside each other. -/
def arraysTokens : Nat → List Token
  | 0 => bracedTokens ([.text (some "typeKind"), .colon] ++
      bracedTokens [.text (some "kind"), .colon, .text (some "Int")])
  | n + 1 => bracedTokens ([.text (some "typeKind"), .colon] ++
      bracedTokens ([.text (some "kind"), .colon, .text (some "ArrayType"), .comma,
        .text (some "arrayType"), .colon] ++ arraysTokens n))

/-- The tokens of a unit value of a type. -/
def unitTokens (type : List Token) : List Token :=
  bracedTokens ([.text (some "expression"), .colon] ++
    bracedTokens [.text (some "kind"), .colon, .text (some "UnitValue")] ++
    [.comma, .text (some "resolvedType"), .colon] ++ type)

theorem scan_arraysText (n : Nat) (more : List Char) :
    Json.scan (arraysText n ++ more) = arraysTokens n ++ Json.scan more := by
  induction n generalizing more with
  | zero =>
    simp [arraysText, arraysTokens, braced, bracedTokens, Json.scan, Json.next, Json.isBlank,
      Json.scanPieces, Json.joinPieces]
  | succ n ih =>
    simp [arraysText, arraysTokens, braced, bracedTokens, Json.scan, Json.next, Json.isBlank,
      Json.scanPieces, Json.joinPieces, ih]

theorem foldl_arraysTokens (n : Nat) (frames : List Outline.Frame) :
    (arraysTokens n).foldl Outline.State.step (.reading frames .value) =
      .place frames (arraysJson n).outline := by
  induction n generalizing frames with
  | zero => rfl
  | succ n ih =>
    let inner : List Outline.Frame :=
      .member [(some "kind", .text (some "ArrayType"))] (some "arrayType") ::
        .member [] (some "typeKind") :: frames
    calc (arraysTokens (n + 1)).foldl Outline.State.step (.reading frames .value)
        = (((arraysTokens n).foldl Outline.State.step (.reading inner .value)).step
            .closeObject).step .closeObject := by
          simp only [arraysTokens, bracedTokens, List.foldl_cons, List.foldl_append, List.foldl_nil]
          rfl
      _ = .place frames (arraysJson (n + 1)).outline := by
          rw [ih inner]
          rfl

theorem limited_maxDepth {α : Type} {needed n : Nat} (a : α)
    (room : needed ≤ Grammar.maxDepth ↔ n ≤ 62) :
    limited needed Grammar.maxDepth a = if n ≤ 62 then .ok a else malformed := by
  simp only [limited, room]

/-- Up to 62 arrays are read. -/
theorem readText_arrays (n : Nat) :
    grammar.readText resolvedType (String.ofList (arraysText n)) =
      if n ≤ 62 then .ok (arrays n) else malformed := by
  have scanned : Json.scan (arraysText n) = arraysTokens n := by
    simpa [Json.scan] using scan_arraysText n []
  have complete : (Json.scan (arraysText n)).foldl Outline.State.step .start =
      .done (arraysJson n).outline := by
    rw [scanned]
    exact foldl_arraysTokens n []
  refine (Grammar.readText_of_done complete).trans ((spells_arrays n _).trans ?_)
  rw [nesting_arraysJson]
  refine limited_maxDepth _ ?_
  rw [Grammar.maxDepth]
  omega

/-- An expression adds one container only. -/
theorem readText_unit (n : Nat) :
    grammar.readText typedExpression (String.ofList (unitText (arraysText n))) =
      if n ≤ 62 then .ok (unitOf (arrays n)) else malformed := by
  have scanned : Json.scan (unitText (arraysText n)) = unitTokens (arraysTokens n) := by
    simp [unitText, unitTokens, braced, bracedTokens, Json.scan, Json.next, Json.isBlank,
      Json.scanPieces, Json.joinPieces, scan_arraysText]
  have complete : (Json.scan (unitText (arraysText n))).foldl Outline.State.step .start =
      .done (unitJson (arraysJson n)).outline := by
    let inner : List Outline.Frame := [.member
      [(some "expression", .object [(some "kind", .text (some "UnitValue"))] true)]
      (some "resolvedType")]
    calc (Json.scan (unitText (arraysText n))).foldl Outline.State.step .start
        = ((arraysTokens n).foldl Outline.State.step (.reading inner .value)).step
            .closeObject := by
          simp only [scanned, unitTokens, bracedTokens, List.cons_append, List.nil_append,
            List.foldl_cons, List.foldl_append, List.foldl_nil]
          rfl
      _ = .done (unitJson (arraysJson n)).outline := by
          rw [foldl_arraysTokens n inner]
          rfl
  refine (Grammar.readText_of_done complete).trans ((spells_unit (spells_arrays n) _).trans ?_)
  rw [nesting_unitJson]
  refine limited_maxDepth _ ?_
  rw [Grammar.maxDepth]
  omega

/-! ## Their chains -/

theorem directly_arrayOf (t : ResolvedType) :
    grammar.Directly ⟨.resolvedType, arrayOf t⟩ ⟨.resolvedType, t⟩ :=
  ⟨(_, ()), rfl, .inl ⟨(_, _, _, _, _, _, _, ()), rfl, .inr (.inl ⟨t, rfl, rfl⟩)⟩⟩

theorem directly_unitOf (t : ResolvedType) :
    grammar.Directly ⟨.typedExpression, unitOf t⟩ ⟨.resolvedType, t⟩ :=
  ⟨(_, _, _, _, _, ()), rfl, .inr (.inr (.inl rfl))⟩

/-- Arrays inside each other and the type inside them are a chain. -/
theorem exists_chain_arrays (n : Nat) :
    ∃ nodes, grammar.Chain resolvedType (arrays n) nodes ∧
      nodes.map Sigma.fst = List.replicate (n + 1) Node.resolvedType := by
  induction n with
  | zero => exact ⟨_, .single _, rfl⟩
  | succ n ih =>
    obtain ⟨nodes, chain, types⟩ := ih
    refine ⟨_, .cons (directly_arrayOf _) chain, ?_⟩
    rw [List.map_cons, types]
    rfl

theorem exists_chain_unit (n : Nat) :
    ∃ nodes, grammar.Chain typedExpression (unitOf (arrays n)) nodes ∧
      nodes.map Sigma.fst = .typedExpression :: List.replicate (n + 1) Node.resolvedType := by
  obtain ⟨nodes, chain, types⟩ := exists_chain_arrays n
  refine ⟨_, .cons (directly_unitOf _) chain, ?_⟩
  rw [List.map_cons, types]

/-! ## Their trees -/

/-- The trees of arrays inside each other. -/
def arraysTree : Nat → WireTree.ResolvedType
  | 0 => .mk .int
  | n + 1 => .mk (.arrayType (arraysTree n))

/-- The tree of a unit value of a type. -/
def unitTree (type : WireTree.ResolvedType) : WireTree.TypedExpression :=
  .mk { expression := .unitValue, typeArguments := [], resolvedType := type,
        inferredInformation := .nothing, range := none }

theorem decode_arrays (n : Nat) : (arrays n).decode = .ok (arraysTree n) := by
  induction n with
  | zero => rfl
  | succ n ih =>
    refine ResolvedType.decode_mk_eq_ok_iff.mpr ?_
    refine bind_eq_ok_iff.mpr ⟨arraysTree n, ih, rfl⟩

theorem decode_unit {type : ResolvedType} {tree : WireTree.ResolvedType}
    (decoded : type.decode = .ok tree) : (unitOf type).decode = .ok (unitTree tree) :=
  TypedExpression.decode_mk_eq_ok_iff.mpr ⟨rfl, rfl, decoded, rfl, rfl⟩

theorem exists_chain_arraysTree (n : Nat) :
    ∃ nodes, TreeFormat.grammar.Chain TreeFormat.resolvedType (arraysTree n) nodes ∧
      nodes.map Sigma.fst = List.replicate (n + 1) TreeFormat.Node.resolvedType := by
  induction n with
  | zero => exact ⟨_, .single _, rfl⟩
  | succ n ih =>
    obtain ⟨nodes, chain, types⟩ := ih
    have inside : TreeFormat.grammar.Directly ⟨.resolvedType, arraysTree (n + 1)⟩
        ⟨.resolvedType, arraysTree n⟩ :=
      TreeFormat.contains_typeArms.mpr ⟨.type (arraysTree n), List.mem_singleton_self _, rfl⟩
    refine ⟨_, .cons inside chain, ?_⟩
    rw [List.map_cons, types]
    rfl

theorem exists_chain_unitTree (n : Nat) :
    ∃ nodes, TreeFormat.grammar.Chain TreeFormat.typedExpression (unitTree (arraysTree n)) nodes ∧
      nodes.map Sigma.fst =
        .typedExpression :: List.replicate (n + 1) TreeFormat.Node.resolvedType := by
  obtain ⟨nodes, chain, types⟩ := exists_chain_arraysTree n
  have inside : TreeFormat.grammar.Directly ⟨.typedExpression, unitTree (arraysTree n)⟩
      ⟨.resolvedType, arraysTree n⟩ :=
    ⟨(_, _, _, _, _, ()), rfl, .inr (.inr (.inl rfl))⟩
  refine ⟨_, .cons inside chain, ?_⟩
  rw [List.map_cons, types]

end Wire.Format

end WireTree
