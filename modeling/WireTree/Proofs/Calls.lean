import WireTree.Proofs.Encoding
import WireTree.Proofs.Trace

/-!
# Which calls decoding a union makes

How the parts of a union are decoded is given to its decoder, one function for each role that a part
can have; a function that records what it is called with shows what the decoder does with it.
Main statement: the parts in the slot that counts are passed on one after the other, each in its own
role, up to the first that fails, and what comes of them is put together to the tree of the union's
kind (`decoders_call_children`).
-/

namespace WireTree

variable {Q α β : Type}

/-- A decoder that records what it is called with. -/
def recorded (role : α → Q) (decode : α → Decoded β) (a : α) : Traced Q Fault β :=
  ⟨[role a], decode a⟩

/-- The calls up to the first that fails, and that one. -/
def callsMade (failure : Q → Option Fault) : List Q → List Q
  | [] => []
  | q :: rest => q :: if (failure q).isSome then [] else callsMade failure rest

theorem callsMade_append (failure : Q → Option Fault) (calls more : List Q) :
    callsMade failure (calls ++ more) =
      callsMade failure calls ++
        if (calls.findSome? failure).isSome then [] else callsMade failure more := by
  induction calls with
  | nil => simp [callsMade]
  | cons q rest ih =>
    rw [List.cons_append, callsMade, callsMade, List.findSome?_cons, ih]
    cases failure q <;> simp

/-- A run makes calls in order, and fails as the first of them that fails. -/
structure Calls (run : Traced Q Fault α) (calls : List Q) (failure : Q → Option Fault) : Prop where
  made : run.log = callsMade failure calls
  failed : fault? run.result = calls.findSome? failure

namespace Calls

variable {run : Traced Q Fault α} {calls more : List Q} {failure : Q → Option Fault}

theorem pure (a : α) : Calls (pure a : Traced Q Fault α) [] failure := ⟨rfl, rfl⟩

theorem recorded {role : α → Q} {decode : α → Decoded β} {a : α}
    (same : failure (role a) = fault? (decode a)) :
    Calls (recorded role decode a) [role a] failure := by
  refine ⟨?_, ?_⟩
  · simp [WireTree.recorded, callsMade]
  · rw [List.findSome?_singleton, same]
    rfl

/-- A second step makes its calls only if the first one has not failed. -/
theorem bind {following : α → Traced Q Fault β} (first : Calls run calls failure)
    (second : ∀ a, Calls (following a) more failure) :
    Calls (run >>= following) (calls ++ more) failure := by
  obtain ⟨log, result⟩ := run
  have logged : log = callsMade failure calls := first.made
  have failed : fault? result = calls.findSome? failure := first.failed
  cases result with
  | error fault =>
    have found : calls.findSome? failure = some fault := failed.symm
    refine ⟨?_, ?_⟩
    · rw [callsMade_append, found]
      show log = callsMade failure calls ++ []
      rw [logged, List.append_nil]
    · rw [List.findSome?_append, found]
      rfl
  | ok a =>
    have none_found : calls.findSome? failure = none := failed.symm
    refine ⟨?_, ?_⟩
    · rw [callsMade_append, none_found]
      show log ++ (following a).log = callsMade failure calls ++ callsMade failure more
      rw [logged, (second a).made]
    · rw [List.findSome?_append, none_found, Option.none_or]
      exact (second a).failed

/-- A last step that makes no call changes nothing. -/
theorem bind_pure {make : α → β} (first : Calls run calls failure) :
    Calls (run >>= fun a => Pure.pure (make a)) calls failure := by
  have both := first.bind fun a => Calls.pure (make a)
  rwa [List.append_nil] at both

theorem mapM {γ : Type} {step : γ → Traced Q Fault β} {call : γ → Q} {items : List γ}
    (each : ∀ a ∈ items, Calls (step a) [call a] failure) :
    Calls (items.mapM step) (items.map call) failure := by
  induction items with
  | nil => exact .pure []
  | cons a items ih =>
    have tail := ih fun b member => each b (List.mem_cons_of_mem _ member)
    rw [List.mapM_cons]
    exact (each a List.mem_cons_self).bind fun _ => tail.bind_pure

end Calls

/-- What a union's decoder does with its parts: it makes the calls for them in order, recording
them changes nothing, the first fault of a part or else the union's own one comes out, and if
there is none of either a fitting tree does. -/
structure PassesOn {K : Type} (run : Traced Q Fault K) (unrecorded : Decoded K) (children : List Q)
    (failure : Q → Option Fault) (own : Option Fault) (Fits : K → Prop) : Prop where
  made : run.log = callsMade failure children
  unchanged : run.result = unrecorded
  failed : ∀ fault, children.findSome? failure = some fault → run.result = .error fault
  ownFault : ∀ fault, own = some fault → children = [] ∧ run.result = .error fault
  decoded : children.findSome? failure = none → own = none →
    ∃ tree, run.result = .ok tree ∧ Fits tree

/-- A decoder that selects an expression or a type by its kind and traverses it passes on the
parts of what it selects. -/
theorem PassesOn.of_selects {κ K K' : Type} {tag : K → κ} {parts : K → List Q}
    {kind : Discriminator κ} {own : Option Fault} {children : List Q} {selection : Decoded K}
    {run : Traced Q Fault K'} {unrecorded : Decoded K'} {failure : Q → Option Fault}
    {Fits : K' → Prop} (selects : Selects tag parts kind own children selection)
    (childless : ∀ fault, own = some fault → children = [])
    (traverse : K → Traced Q Fault K')
    (refused : ∀ fault, selection = .error fault → run = throw fault)
    (selected : ∀ tree, selection = .ok tree → run = traverse tree)
    (calls : ∀ tree, Calls (traverse tree) (parts tree) failure)
    (unchanged : run.result = unrecorded)
    (fits : ∀ tree tree', selection = .ok tree → (traverse tree).result = .ok tree' →
      Fits tree') :
    PassesOn run unrecorded children failure own Fits := by
  cases selection with
  | error fault =>
    obtain rfl : own = some fault := selects
    obtain rfl : children = [] := childless fault rfl
    obtain rfl : run = throw fault := refused fault rfl
    exact {
      made := rfl
      unchanged := unchanged
      failed := nofun
      ownFault := fun fault' same => ⟨rfl, congrArg Except.error (Option.some.inj same)⟩
      decoded := fun _ absurd => by cases absurd }
  | ok tree =>
    obtain ⟨rfl, rfl, -⟩ := selects
    obtain rfl : run = traverse tree := selected tree rfl
    have reported := (calls tree).failed
    refine ⟨(calls tree).made, unchanged, ?_, nofun, ?_⟩
    · intro fault found
      rw [found] at reported
      cases outcome : (traverse tree).result with
      | error fault' => rw [outcome] at reported; exact congrArg _ (Option.some.inj reported)
      | ok tree' => rw [outcome] at reported; cases reported
    · intro nothing_found _
      rw [nothing_found] at reported
      cases outcome : (traverse tree).result with
      | error fault => rw [outcome] at reported; cases reported
      | ok tree' => exact ⟨tree', rfl, fits tree tree' rfl outcome⟩

/-! ## Characteristics -/

namespace CharacteristicsKind

variable {C D : Type}

theorem traverse_result (decode : C → Traced Q Fault D) (kind : CharacteristicsKind C) :
    (kind.traverse decode).result = kind.traverse fun c => (decode c).result := by
  cases kind with
  | union left right | intersection left right => simp only [traverse, Traced.result_bind]; rfl
  | _ => rfl

theorem traverse_calls (decode : C → Decoded D) (kind : CharacteristicsKind C) :
    Calls (kind.traverse (recorded id decode)) kind.operands fun c => fault? (decode c) := by
  have call (c : C) : Calls (recorded id decode c) [c] fun c => fault? (decode c) :=
    .recorded rfl
  cases kind with
  | union left right | intersection left right =>
    exact (call left).bind fun _ => (call right).bind_pure
  | _ => exact .pure _

end CharacteristicsKind

namespace Wire.CharacteristicsSlots

variable {C D : Type}

theorem children_eq_nil {slots : CharacteristicsSlots C} {fault : Fault}
    (own : slots.ownFault = some fault) : slots.children = [] := by
  obtain ⟨kind, simpleSet, setOperation⟩ := slots
  cases kind with
  | unrecognized text => rfl
  | known tag => cases tag <;> cases setOperation <;> first | rfl | cases own

theorem decodeWith_passesOn (decode : C → Decoded D) (slots : CharacteristicsSlots C) :
    PassesOn (slots.decodeWith (recorded id decode)) (slots.decodeWith decode) slots.children
      (fun c => fault? (decode c)) slots.ownFault
      fun tree => slots.Agree (fun c d => decode c = .ok d) (.ofTree tree) := by
  refine .of_selects slots.select_selects (fun _ => children_eq_nil)
    (CharacteristicsKind.traverse (recorded id decode)) ?_ ?_ ?_ ?_ ?_
  · intro fault refused
    rw [decodeWith, refused]
  · intro kind selected
    rw [decodeWith, selected]
  · exact CharacteristicsKind.traverse_calls decode
  · rw [decodeWith_eq_bind, decodeWith]
    cases slots.select with
    | error fault => rfl
    | ok kind => exact kind.traverse_result _
  · intro kind tree selected traversed
    rw [kind.traverse_result] at traversed
    have related := CharacteristicsKind.traverse_eq_ok_iff.mp traversed
    have sameKind : slots.kind = (ofTree tree).kind :=
      slots.select_selects.kind_eq (ofTree tree).select_selects selected (select_ofTree tree)
        related.tag_eq
    rw [agree_iff sameKind, selected, select_ofTree]
    exact .ok related

end Wire.CharacteristicsSlots

/-! ## Types -/

namespace TypeKind

variable {T T' U U' P P' C C' : Type}

theorem traverse_result (type : T → Traced Q Fault T') (reference : U → Traced Q Fault U')
    (parameter : P → Traced Q Fault P') (characteristics : C → Traced Q Fault C')
    (kind : TypeKind T U P C) :
    (kind.traverse type reference parameter characteristics).result =
      kind.traverse (fun t => (type t).result) (fun r => (reference r).result)
        (fun p => (parameter p).result) fun c => (characteristics c).result := by
  cases kind with
  | tupleType items => simp only [traverse, Traced.result_bind, Traced.result_mapM]; rfl
  | arrayType _ | userDefinedType _ | typeParameter _ | operation _ _ _ | function _ _ =>
    simp only [traverse, Traced.result_bind]; rfl
  | _ => rfl

theorem traverse_calls (type : T → Decoded T') (reference : U → Decoded U')
    (parameter : P → Decoded P') (characteristics : C → Decoded C') (kind : TypeKind T U P C) :
    Calls
      (kind.traverse (recorded .type type) (recorded .userDefinedType reference)
        (recorded .typeParameter parameter) (recorded .characteristics characteristics))
      kind.parts (TypePart.fault? type reference parameter characteristics) := by
  have call (t : T) : Calls (recorded .type type t) [.type t]
      (TypePart.fault? type reference parameter characteristics) := .recorded rfl
  have callReference (r : U) : Calls (recorded .userDefinedType reference r) [.userDefinedType r]
      (TypePart.fault? type reference parameter characteristics) := .recorded rfl
  have callParameter (p : P) : Calls (recorded .typeParameter parameter p) [.typeParameter p]
      (TypePart.fault? type reference parameter characteristics) := .recorded rfl
  have callKnown (c : C) : Calls (recorded .characteristics characteristics c)
      [.characteristics c] (TypePart.fault? type reference parameter characteristics) :=
    .recorded rfl
  cases kind with
  | arrayType item => exact (call item).bind_pure
  | tupleType items => exact (Calls.mapM fun t _ => call t).bind_pure
  | userDefinedType r => exact (callReference r).bind_pure
  | typeParameter p => exact (callParameter p).bind_pure
  | operation domain codomain c =>
    exact (call domain).bind fun _ => (call codomain).bind fun _ => (callKnown c).bind_pure
  | function domain codomain => exact (call domain).bind fun _ => (call codomain).bind_pure
  | _ => exact .pure _

end TypeKind

namespace Wire.TypeSlots

variable {T T' U U' P P' C C' : Type}

theorem children_eq_nil {slots : TypeSlots T U P C} {fault : Fault}
    (own : slots.ownFault = some fault) : slots.children = [] := by
  obtain ⟨kind, array, tuple, reference, parameter, operation, function⟩ := slots
  cases kind with
  | unrecognized text => rfl
  | known tag =>
    cases tag with
    | arrayType => cases array <;> first | rfl | cases own
    | tupleType => cases tuple <;> first | rfl | cases own
    | userDefinedType => cases reference <;> first | rfl | cases own
    | typeParameter => cases parameter <;> first | rfl | cases own
    | operation => cases operation <;> first | rfl | cases own
    | function => cases function <;> first | rfl | cases own
    | _ => rfl

theorem select_ofTree (tree : TypeKind T U P C) :
    (ofTree id tree : TypeSlots T U P C).select = .ok tree := by
  cases tree <;> rfl

theorem decodeWith_passesOn (type : T → Decoded T') (reference : U → Decoded U')
    (parameter : P → Decoded P') (characteristics : C → Decoded C') (slots : TypeSlots T U P C) :
    PassesOn
      (slots.decodeWith (recorded .type type) (recorded .userDefinedType reference)
        (recorded .typeParameter parameter) (recorded .characteristics characteristics))
      (slots.decodeWith type reference parameter characteristics) slots.children
      (TypePart.fault? type reference parameter characteristics) slots.ownFault
      fun tree => slots.Agree (fun t t' => type t = .ok t') (fun r r' => reference r = .ok r')
        (fun p p' => parameter p = .ok p') (fun c c' => characteristics c = .ok c')
        (.ofTree id tree) := by
  refine .of_selects slots.select_selects (fun _ => children_eq_nil)
    (TypeKind.traverse (recorded .type type) (recorded .userDefinedType reference)
      (recorded .typeParameter parameter) (recorded .characteristics characteristics))
    ?_ ?_ ?_ ?_ ?_
  · intro fault refused
    rw [decodeWith, refused]
  · intro kind selected
    rw [decodeWith, selected]
  · exact TypeKind.traverse_calls type reference parameter characteristics
  · rw [decodeWith_eq_bind, decodeWith]
    cases slots.select with
    | error fault => rfl
    | ok kind => exact kind.traverse_result _ _ _ _
  · intro kind tree selected traversed
    rw [kind.traverse_result] at traversed
    have related := TypeKind.traverse_eq_ok_iff.mp traversed
    have sameKind : slots.kind = (ofTree id tree : TypeSlots T' U' P' C').kind :=
      slots.select_selects.kind_eq (ofTree id tree).select_selects selected (select_ofTree tree)
        related.tag_eq
    rw [agree_iff sameKind, selected, select_ofTree]
    exact .ok related

end Wire.TypeSlots

/-! ## Expressions -/

namespace ExpressionKind

variable {E E' S S' T T' : Type}

theorem traverse_result (expression : E → Traced Q Fault E') (symbol : S → Traced Q Fault S')
    (type : T → Traced Q Fault T') (kind : ExpressionKind E S T) :
    (kind.traverse expression symbol type).result =
      kind.traverse (fun e => (expression e).result) (fun s => (symbol s).result)
        fun t => (type t).result := by
  cases kind with
  | identifier s types =>
    cases types <;> simp only [traverse, Traced.result_bind, Traced.result_mapM] <;> rfl
  | valueTuple _ | valueArray _ | stringLiteral _ _ =>
    simp only [traverse, Traced.result_bind, Traced.result_mapM]; rfl
  | unitValue | intLiteral _ | bigIntLiteral _ | doubleLiteral _ | boolLiteral _
  | resultLiteral _ | pauliLiteral _ | missingExpr | invalidExpr => rfl
  | _ => simp only [traverse, Traced.result_bind]; rfl

theorem traverse_calls (expression : E → Decoded E') (symbol : S → Decoded S')
    (type : T → Decoded T') (kind : ExpressionKind E S T) :
    Calls
      (kind.traverse (recorded .expression expression) (recorded .symbol symbol)
        (recorded .type type))
      kind.parts (ExpressionPart.fault? expression symbol type) := by
  have call (e : E) : Calls (recorded .expression expression e) [.expression e]
      (ExpressionPart.fault? expression symbol type) := .recorded rfl
  have callSymbol (s : S) : Calls (recorded .symbol symbol s) [.symbol s]
      (ExpressionPart.fault? expression symbol type) := .recorded rfl
  have callType (t : T) : Calls (recorded .type type t) [.type t]
      (ExpressionPart.fault? expression symbol type) := .recorded rfl
  cases kind with
  | identifier s types =>
    cases types with
    | none => exact (callSymbol s).bind_pure
    | some types =>
      exact (callSymbol s).bind fun _ => (Calls.mapM fun t _ => callType t).bind_pure
  | valueTuple _ | valueArray _ | stringLiteral _ _ =>
    exact (Calls.mapM fun e _ => call e).bind_pure
  | newArray t length => exact (callType t).bind fun _ => (call length).bind_pure
  | namedItem accessed item => exact (call accessed).bind fun _ => (callSymbol item).bind_pure
  | unaryOperation _ operand | unwrapApplication operand | adjointApplication operand
  | controlledApplication operand => exact (call operand).bind_pure
  | rangeLiteral first second | arrayItem first second | binaryOperation _ first second
  | callLikeExpression first second => exact (call first).bind fun _ => (call second).bind_pure
  | conditional first second third | copyAndUpdate first second third =>
    exact (call first).bind fun _ => (call second).bind fun _ => (call third).bind_pure
  | _ => exact .pure _

end ExpressionKind

namespace Wire.ExpressionSlots

variable {E E' S S' T T' : Type}

theorem children_eq_nil {slots : ExpressionSlots E S T} {fault : Fault}
    (own : slots.ownFault = some fault) : slots.children = [] := by
  obtain ⟨kind, identifier, int, bigInt, double, bool, string, result, pauli, newArray, namedItem,
    single, two, three, array⟩ := slots
  cases kind with
  | unrecognized text => rfl
  | known tag =>
    cases tag with
    | identifier => cases identifier <;> first | rfl | cases own
    | stringLiteral => cases string <;> first | rfl | cases own
    | newArray => cases newArray <;> first | rfl | cases own
    | namedItem => cases namedItem <;> first | rfl | cases own
    | valueTuple | valueArray => cases array <;> first | rfl | cases own
    | neg | not | bNot | unwrapApplication | adjointApplication | controlledApplication =>
      cases single <;> first | rfl | cases own
    | conditional | copyAndUpdate => cases three <;> first | rfl | cases own
    | unitValue | intLiteral | bigIntLiteral | doubleLiteral | boolLiteral | resultLiteral
    | pauliLiteral | sizedArray | lambda | missingExpr | invalidExpr => rfl
    | _ => cases two <;> first | rfl | cases own

theorem select_ofTree (tree : ExpressionKind E S T) :
    (ofTree id id tree : ExpressionSlots E S T).select = .ok tree := by
  cases tree with
  | identifier symbol types =>
    have same : types.map (List.map id) = types := by simp
    show Except.ok (ExpressionKind.identifier symbol (types.map (List.map id))) = _
    rw [same]
  | bigIntLiteral value =>
    show (decodeBigInteger (BigInteger.toBytes value) >>= fun n =>
      .ok (ExpressionKind.bigIntLiteral n)) = _
    rw [decodeBigInteger_toBytes]
    rfl
  | unaryOperation operator operand => cases operator <;> rfl
  | binaryOperation operator left right => cases operator <;> rfl
  | _ => rfl

theorem decodeWith_passesOn (expression : E → Decoded E') (symbol : S → Decoded S')
    (type : T → Decoded T') (slots : ExpressionSlots E S T) :
    PassesOn
      (slots.decodeWith (recorded .expression expression) (recorded .symbol symbol)
        (recorded .type type))
      (slots.decodeWith expression symbol type) slots.children
      (ExpressionPart.fault? expression symbol type) slots.ownFault
      fun tree => slots.Agree (fun e e' => expression e = .ok e') (fun s s' => symbol s = .ok s')
        (fun t t' => type t = .ok t') (.ofTree id id tree) := by
  refine .of_selects slots.select_selects (fun _ => children_eq_nil)
    (ExpressionKind.traverse (recorded .expression expression) (recorded .symbol symbol)
      (recorded .type type)) ?_ ?_ ?_ ?_ ?_
  · intro fault refused
    rw [decodeWith, refused]
  · intro kind selected
    rw [decodeWith, selected]
  · exact ExpressionKind.traverse_calls expression symbol type
  · rw [decodeWith_eq_bind, decodeWith]
    cases slots.select with
    | error fault => rfl
    | ok kind => exact kind.traverse_result _ _ _
  · intro kind tree selected traversed
    rw [kind.traverse_result] at traversed
    have related := ExpressionKind.traverse_eq_ok_iff.mp traversed
    have sameKind : slots.kind = (ofTree id id tree : ExpressionSlots E' S' T').kind :=
      slots.select_selects.kind_eq (ofTree id id tree).select_selects selected
        (select_ofTree tree) related.tag_eq
    rw [agree_iff sameKind, selected, select_ofTree]
    exact .ok related

end Wire.ExpressionSlots

/-- Each of the three decoders of unions passes the parts in the slot that counts on in their
order, up to the first that fails, and makes the tree of the union's kind of what comes out. -/
theorem decoders_call_children :
    (∀ {T T' U U' P P' C C' : Type} (type : T → Decoded T') (reference : U → Decoded U')
        (parameter : P → Decoded P') (characteristics : C → Decoded C')
        (slots : Wire.TypeSlots T U P C),
      PassesOn
        (slots.decodeWith (recorded .type type) (recorded .userDefinedType reference)
          (recorded .typeParameter parameter) (recorded .characteristics characteristics))
        (slots.decodeWith type reference parameter characteristics) slots.children
        (TypePart.fault? type reference parameter characteristics) slots.ownFault
        fun tree => slots.Agree (fun t t' => type t = .ok t') (fun r r' => reference r = .ok r')
          (fun p p' => parameter p = .ok p') (fun c c' => characteristics c = .ok c')
          (.ofTree id tree)) ∧
      (∀ {E E' S S' T T' : Type} (expression : E → Decoded E') (symbol : S → Decoded S')
          (type : T → Decoded T') (slots : Wire.ExpressionSlots E S T),
        PassesOn
          (slots.decodeWith (recorded .expression expression) (recorded .symbol symbol)
            (recorded .type type))
          (slots.decodeWith expression symbol type) slots.children
          (ExpressionPart.fault? expression symbol type) slots.ownFault
          fun tree => slots.Agree (fun e e' => expression e = .ok e')
            (fun s s' => symbol s = .ok s') (fun t t' => type t = .ok t')
            (.ofTree id id tree)) ∧
      ∀ {C D : Type} (decode : C → Decoded D) (slots : Wire.CharacteristicsSlots C),
        PassesOn (slots.decodeWith (recorded id decode)) (slots.decodeWith decode) slots.children
          (fun c => fault? (decode c)) slots.ownFault
          fun tree => slots.Agree (fun c d => decode c = .ok d) (.ofTree tree) :=
  ⟨Wire.TypeSlots.decodeWith_passesOn, Wire.ExpressionSlots.decodeWith_passesOn,
    Wire.CharacteristicsSlots.decodeWith_passesOn⟩

end WireTree
