import WireTree.Proofs.Decodes
import WireTree.Proofs.Zeros.Slots

/-!
# The doubles in expressions

A tree holds those that count on the wire, in the same order.
Main statements: decoding an expression commutes with replacing the zeros and keeps the doubles that
count (`Wire.TypedExpression.keepsZeros`), and a tree is determined by what it is up to the signs of
zeros and by its doubles (the instances of `LawfulDoubles`).
-/

namespace WireTree

open Doubles LawfulDoubles

/-! ## Kinds of expressions -/

namespace ExpressionKind

variable {E E' S S' T T' : Type}

/-- The double of a literal. -/
def literal? : ExpressionKind E S T → Option Binary64
  | doubleLiteral d => some d
  | _ => none

/-- The kind with positive zero for a literal that is negative zero. -/
def unsignedLiteral : ExpressionKind E S T → ExpressionKind E S T
  | doubleLiteral d => doubleLiteral d.unsigned
  | kind => kind

/-- The doubles of a kind, given those of the expressions in it. -/
def doublesWith (doubles : E → List Binary64) (kind : ExpressionKind E S T) : List Binary64 :=
  kind.literal?.toList ++ kind.expressions.flatMap doubles

instance [Doubles E] : Doubles (ExpressionKind E S T) where
  unsigned kind := (kind.map unsigned).unsignedLiteral
  active kind := kind.doublesWith active
  all kind := kind.doublesWith all

theorem literal?_eq_some_iff {kind : ExpressionKind E S T} {d : Binary64} :
    kind.literal? = some d ↔ kind = .doubleLiteral d := by
  cases kind <;> simp [literal?]

theorem unsignedLiteral_of_none {kind : ExpressionKind E S T} (none : kind.literal? = none) :
    kind.unsignedLiteral = kind := by
  cases kind with
  | doubleLiteral d => cases none
  | _ => rfl

theorem literal?_unsignedLiteral (kind : ExpressionKind E S T) :
    kind.unsignedLiteral.literal? = kind.literal?.map Binary64.unsigned := by
  cases kind <;> rfl

theorem literal?_map (f : E → E') (kind : ExpressionKind E S T) :
    (kind.map f).literal? = kind.literal? := by
  cases kind <;> rfl

theorem expressions_unsignedLiteral (kind : ExpressionKind E S T) :
    kind.unsignedLiteral.expressions = kind.expressions := by
  cases kind <;> rfl

theorem shape_unsignedLiteral (kind : ExpressionKind E S T) :
    kind.unsignedLiteral.shape = kind.shape.unsignedLiteral := by
  cases kind <;> rfl

theorem doublesWith_map (f : E → E') (doubles : E' → List Binary64)
    (kind : ExpressionKind E S T) :
    (kind.map f).doublesWith doubles = kind.doublesWith fun e => doubles (f e) := by
  rw [doublesWith, doublesWith, literal?_map, expressions_map, List.flatMap_map]

/-- The sign of a zero is all that a kind loses. -/
theorem eq_of_literal? {a b : ExpressionKind E S T}
    (same : a.unsignedLiteral = b.unsignedLiteral) (sameLiteral : a.literal? = b.literal?) :
    a = b := by
  cases literal : a.literal? with
  | none =>
    have literal' : b.literal? = none := by rw [← sameLiteral, literal]
    rwa [unsignedLiteral_of_none literal, unsignedLiteral_of_none literal'] at same
  | some d =>
    have literal' : b.literal? = some d := by rw [← sameLiteral, literal]
    rw [literal?_eq_some_iff.mp literal, literal?_eq_some_iff.mp literal']

section Lawful

variable [Doubles E]

theorem active_unsigned_of_mem {kind : ExpressionKind E S T}
    (each : ∀ e ∈ kind.expressions, active (unsigned e) = (active e).map Binary64.unsigned) :
    active (unsigned kind) = (active kind).map Binary64.unsigned := by
  have expressions : (unsigned kind).expressions = unsigned kind.expressions := by
    show ((kind.map unsigned).unsignedLiteral).expressions = _
    rw [expressions_unsignedLiteral, expressions_map]
    rfl
  have literal : (unsigned kind).literal? = kind.literal?.map Binary64.unsigned := by
    show ((kind.map unsigned).unsignedLiteral).literal? = _
    rw [literal?_unsignedLiteral, literal?_map]
  show (unsigned kind).literal?.toList ++ active (unsigned kind).expressions =
    (kind.literal?.toList ++ active kind.expressions).map Binary64.unsigned
  rw [literal, expressions, active_map_unsigned each, List.map_append, Option.toList_map]

theorem eq_of_active_of_mem {a b : ExpressionKind E S T}
    (lengths : ∀ e e' : E, unsigned e = unsigned e' → (active e).length = (active e').length)
    (each : ∀ e ∈ a.expressions, ∀ e', unsigned e = unsigned e' → active e = active e' → e = e')
    (same : unsigned a = unsigned b) (sameActive : active a = active b) : a = b := by
  have unfolded : (a.map unsigned).unsignedLiteral = (b.map unsigned).unsignedLiteral := same
  have literals : a.literal?.map Binary64.unsigned = b.literal?.map Binary64.unsigned := by
    have both := congrArg literal? unfolded
    rwa [literal?_unsignedLiteral, literal?_unsignedLiteral, literal?_map, literal?_map] at both
  have expressions : a.expressions.map unsigned = b.expressions.map unsigned := by
    have both := congrArg ExpressionKind.expressions unfolded
    rwa [expressions_unsignedLiteral, expressions_unsignedLiteral, expressions_map,
      expressions_map] at both
  have shapes : a.shape.unsignedLiteral = b.shape.unsignedLiteral := by
    have both := congrArg shape unfolded
    rwa [shape_unsignedLiteral, shape_unsignedLiteral, shape_map, shape_map] at both
  have length : a.literal?.toList.length = b.literal?.toList.length := by
    cases first : a.literal? <;> cases second : b.literal? <;> simp_all
  obtain ⟨sameLiteral, rest⟩ := List.append_inj sameActive length
  replace sameLiteral : a.literal? = b.literal? := by
    cases first : a.literal? <;> cases second : b.literal? <;> simp_all
  refine eq_of_shape (eq_of_literal? shapes ?_) (list_eq_of_active lengths each expressions rest)
  rw [shape, shape, literal?_map, literal?_map, sameLiteral]

end Lawful

/-! ### What decoding makes of a kind -/

theorem traverse_unsignedLiteral (expression : E → Decoded E') (symbol : S → Decoded S')
    (type : T → Decoded T') (kind : ExpressionKind E S T) :
    kind.unsignedLiteral.traverse expression symbol type =
      unsignedLiteral <$> kind.traverse expression symbol type := by
  cases kind with
  | identifier s types =>
    cases types <;> simp only [unsignedLiteral, traverse, map_bind, map_pure]
  | _ => simp only [unsignedLiteral, traverse, map_bind, map_pure]

theorem mapM_map_result {α β γ : Type} (f : α → Decoded β) (g : β → γ) (as : List α) :
    (as.mapM fun a => g <$> f a) = List.map g <$> as.mapM f := by
  induction as with
  | nil => rfl
  | cons a as ih => simp [List.mapM_cons, ih]

theorem traverse_map_result {E'' : Type} (f : E' → E'') (expression : E → Decoded E')
    (symbol : S → Decoded S') (type : T → Decoded T') (kind : ExpressionKind E S T) :
    kind.traverse (fun e => f <$> expression e) symbol type =
      map f <$> kind.traverse expression symbol type := by
  cases kind with
  | identifier s types => cases types <;> simp only [map, traverse, map_bind, map_pure]
  | valueTuple items | valueArray items | stringLiteral _ items =>
    simp only [map, traverse, map_bind, map_pure, mapM_map_result, bind_map_left]
  | _ => simp only [map, traverse, map_bind, map_pure, bind_map_left]

theorem doubles_parts (doubles : E → List Binary64) (kind : ExpressionKind E S T) :
    kind.parts.flatMap (·.doubles doubles) = kind.expressions.flatMap doubles := by
  cases kind with
  | identifier s types =>
    cases types <;> simp [parts, expressions, ExpressionPart.doubles, List.flatMap_map]
  | _ => simp [parts, expressions, ExpressionPart.doubles, List.flatMap_map]

theorem mem_parts {kind : ExpressionKind E S T} {e : E} (member : e ∈ kind.expressions) :
    .expression e ∈ kind.parts := by
  cases kind <;> simp_all [parts, expressions]

namespace Related

variable {RE : E → E' → Prop} {RS : S → S' → Prop} {RT : T → T' → Prop}
  {kind : ExpressionKind E S T} {kind' : ExpressionKind E' S' T'}

theorem literal?_eq (related : kind.Related RE RS RT kind') : kind.literal? = kind'.literal? := by
  cases related with
  | doubleLiteral same => rw [same]; rfl
  | _ => rfl

theorem expressions (related : kind.Related RE RS RT kind') :
    List.Forall₂ RE kind.expressions kind'.expressions := by
  cases related with
  | valueTuple items | valueArray items | stringLiteral _ items => exact items
  | unaryOperation _ first | unwrapApplication first | adjointApplication first
  | controlledApplication first | namedItem first _ | newArray _ first =>
    exact .cons first .nil
  | rangeLiteral first second | arrayItem first second | binaryOperation _ first second
  | callLikeExpression first second => exact .cons first (.cons second .nil)
  | conditional first second third | copyAndUpdate first second third =>
    exact .cons first (.cons second (.cons third .nil))
  | _ => exact .nil

end Related

end ExpressionKind

/-! ## Unions on the wire -/

namespace Wire.ExpressionSlots

variable {E E' S S' T T' : Type}

theorem select_doubleLiteral (slots : ExpressionSlots E S T)
    (selected : slots.kind = .known .doubleLiteral) :
    slots.select = .ok (.doubleLiteral slots.doubleLiteral) := by
  unfold select
  rw [selected]

theorem select_literal? {slots : ExpressionSlots E S T} {kind : ExpressionKind E S T}
    (selected : slots.select = .ok kind) : kind.literal? = slots.literal? := by
  unfold literal?
  split
  case isTrue double =>
    rw [select_doubleLiteral slots double] at selected
    cases selected
    rfl
  case isFalse other =>
    have selects := slots.select_selects
    rw [selected] at selects
    cases literal : kind.literal? with
    | none => rfl
    | some d =>
      rw [ExpressionKind.literal?_eq_some_iff.mp literal] at selects
      exact absurd selects.2.2 other

theorem select_unsignedLiteral (slots : ExpressionSlots E S T) :
    slots.unsignedLiteral.select = ExpressionKind.unsignedLiteral <$> slots.select := by
  by_cases double : slots.kind = .known .doubleLiteral
  · rw [select_doubleLiteral slots double, select_doubleLiteral slots.unsignedLiteral double]
    rfl
  · have unread : slots.unsignedLiteral.select = slots.select := by
      obtain ⟨kind, _⟩ := slots
      cases kind with
      | unrecognized text => rfl
      | known tag =>
        cases tag with
        | doubleLiteral => exact absurd rfl double
        | _ => rfl
    rw [unread]
    cases selected : slots.select with
    | error fault => rfl
    | ok kind =>
      have none : kind.literal? = none := by
        rw [select_literal? selected, literal?, if_neg double]
      exact congrArg Except.ok (ExpressionKind.unsignedLiteral_of_none none).symm

variable {expression : E → Decoded E'} {symbol : S → Decoded S'} {type : T → Decoded T'}
  {slots : ExpressionSlots E S T} [Doubles E] [Doubles E']

theorem decodeWith_unsigned
    (each : ∀ e ∈ slots.expressions, expression (unsigned e) = unsigned <$> expression e) :
    (unsigned slots).decodeWith expression symbol type =
      unsigned <$> slots.decodeWith expression symbol type := by
  have parts : slots.Agree (fun e e' => expression (unsigned e) = unsigned <$> expression e')
      (fun s s' => symbol s = symbol s') (fun t t' => type t = type t') slots :=
    slots.agree_refl.imp_of_mem (fun e member e' same => by rw [← same, each e member])
      (fun _ _ => congrArg symbol) (fun _ _ => congrArg type)
  calc (unsigned slots).decodeWith expression symbol type
      = (slots.map unsigned).select >>= fun kind =>
          kind.unsignedLiteral.traverse expression symbol type := by
        rw [decodeWith_eq_bind]
        show (slots.map unsigned).unsignedLiteral.select >>= _ = _
        rw [select_unsignedLiteral, bind_map_left]
    _ = ExpressionKind.unsignedLiteral <$>
          (slots.map unsigned).decodeWith expression symbol type := by
        rw [decodeWith_eq_bind, map_bind]
        simp only [ExpressionKind.traverse_unsignedLiteral]
    _ = ExpressionKind.unsignedLiteral <$>
          slots.decodeWith (fun e => unsigned <$> expression e) symbol type := by
        rw [decodeWith_map, parts.decodeWith_eq]
    _ = ExpressionKind.unsignedLiteral <$> ExpressionKind.map unsigned <$>
          slots.decodeWith expression symbol type := by
        rw [decodeWith_eq_bind, decodeWith_eq_bind, map_bind, map_bind, map_bind]
        simp only [ExpressionKind.traverse_map_result]
    _ = unsigned <$> slots.decodeWith expression symbol type := by
        rw [← comp_map]
        rfl

theorem active_decodeWith {tree : ExpressionKind E' S' T'}
    (each : ∀ e ∈ slots.expressions, ∀ t, expression e = .ok t → active t = active e)
    (decoded : slots.decodeWith expression symbol type = .ok tree) :
    active tree = active slots := by
  rw [decodeWith_eq_bind, bind_eq_ok_iff] at decoded
  obtain ⟨kind, selected, traversed⟩ := decoded
  have related := ExpressionKind.traverse_eq_ok_iff.mp traversed
  have children : kind.parts = slots.children := by
    have selects := slots.select_selects
    rw [selected] at selects
    exact selects.2.1
  have members : ∀ e ∈ kind.expressions, ∀ t, expression e = .ok t → active t = active e := by
    intro e member
    have child := ExpressionKind.mem_parts member
    rw [children] at child
    exact each e (mem_expressions_of_mem_children child)
  have inner : active tree.expressions = active kind.expressions :=
    active_of_forall₂ members related.expressions
  show tree.literal?.toList ++ active tree.expressions =
    slots.literal?.toList ++ slots.children.flatMap (·.doubles active)
  rw [inner, ← related.literal?_eq, select_literal? selected, ← children,
    ExpressionKind.doubles_parts]
  rfl

end Wire.ExpressionSlots

/-! ## Expressions -/

/-- An expression kind and the findings on it are independent of each other. -/
theorem Typed.withExpression_eq_iff {X X' Y T : Type} {a : Typed X T} {b : Typed X' T} {x y : Y} :
    a.withExpression x = b.withExpression y ↔
      x = y ∧ a.withExpression () = b.withExpression () := by
  simp [Typed.withExpression]

namespace TypedExpression

instance : Doubles TypedExpression where
  unsigned := fold fun node => .mk (node.withExpression node.expression.unsignedLiteral)
  active := fold fun node => node.expression.doublesWith id
  all := fold fun node => node.expression.doublesWith id

theorem unsigned_mk (node : Node TypedExpression) :
    unsigned (mk node) = mk (node.withExpression (unsigned node.expression)) := by
  show fold _ (mk node) = _
  rw [fold_mk]
  rfl

theorem active_mk (node : Node TypedExpression) : active (mk node) = active node.expression := by
  show fold _ (mk node) = _
  rw [fold_mk]
  exact node.expression.doublesWith_map _ _

theorem active_unsigned (e : TypedExpression) :
    active (unsigned e) = (active e).map Binary64.unsigned := by
  induction e using induct with
  | step node ih =>
    rw [unsigned_mk, active_mk, active_mk]
    exact ExpressionKind.active_unsigned_of_mem ih

theorem eq_of_active {e e' : TypedExpression} (same : unsigned e = unsigned e')
    (sameActive : active e = active e') : e = e' := by
  induction e using induct generalizing e' with
  | step node ih =>
    obtain ⟨other⟩ := e'
    rw [unsigned_mk, unsigned_mk, mk.injEq] at same
    rw [active_mk, active_mk] at sameActive
    obtain ⟨sameKind, sameFindings⟩ := Typed.withExpression_eq_iff.mp same
    have kinds := ExpressionKind.eq_of_active_of_mem
      (fun _ _ => length_active_eq active_unsigned) (fun e member _ => ih e member) sameKind
      sameActive
    exact congrArg mk (Typed.withExpression_eq_iff.mpr ⟨kinds, sameFindings⟩)

instance : LawfulDoubles TypedExpression := ⟨active_unsigned, eq_of_active⟩

end TypedExpression

instance {E S T : Type} [Doubles E] [LawfulDoubles E] : LawfulDoubles (ExpressionKind E S T) where
  active_unsigned _ :=
    ExpressionKind.active_unsigned_of_mem fun e _ => LawfulDoubles.active_unsigned e
  eq_of_active :=
    ExpressionKind.eq_of_active_of_mem
      (fun _ _ => length_active_eq LawfulDoubles.active_unsigned)
      fun _ _ _ => LawfulDoubles.eq_of_active

namespace Wire.ExpressionSlots

variable {E E' S S' T T' : Type} [BEq E] [Doubles E] [Doubles E'] [BEq S] [LawfulBEq S] [BEq T]
  [LawfulBEq T]

theorem keepsZeros {expression : E → Decoded E'} (keeps : KeepsZeros expression)
    (symbol : S → Decoded S') (type : T → Decoded T') :
    KeepsZeros fun slots : ExpressionSlots E S T => slots.decodeWith expression symbol type where
  compares _ := compares fun e _ => keeps.compares e
  decode_unsigned _ := decodeWith_unsigned fun e _ => keeps.decode_unsigned e
  active_decode := active_decodeWith fun _ _ _ => keeps.active_decode

end Wire.ExpressionSlots

namespace Wire.TypedExpression

instance : Doubles TypedExpression where
  unsigned := fold fun node => mk (node.withExpression node.expression.unsignedLiteral)
  active := fold fun node => node.expression.activeWith id
  all := fold fun node => node.expression.doubleLiteral :: node.expression.expressions.flatten

theorem unsigned_mk (node : Node TypedExpression) :
    unsigned (mk node) = mk (node.withExpression (unsigned node.expression)) := by
  show fold _ (mk node) = _
  rw [fold_mk]
  rfl

theorem active_mk (node : Node TypedExpression) : active (mk node) = active node.expression := by
  show fold _ (mk node) = _
  rw [fold_mk]
  exact node.expression.activeWith_map _ _

theorem all_mk (node : Node TypedExpression) : all (mk node) = all node.expression := by
  show fold _ (mk node) = _
  rw [fold_mk]
  show node.expression.doubleLiteral :: (node.expression.map _).expressions.flatten = _
  rw [ExpressionSlots.expressions_map, ← List.flatMap_def]
  rfl

theorem beq_mk_iff {node other : Node TypedExpression} :
    (mk node == mk other) = true ↔
      (node.expression == other.expression) = true ∧
        node.withExpression () = other.withExpression () := by
  rw [(ExpressionSlots.beq_comesApart _ _).iff]
  show same (mk node) (mk other) = true ↔ _
  rw [same, fold_mk, ← same]
  simp only [Bool.and_eq_true, decide_eq_true_eq]
  simp only [Node.map, Typed.withExpression, ExpressionSlots.shape_map,
    ExpressionSlots.expressions_map, TypedExpression.node, Typed.mk.injEq]
  show _ ∧ allApplied (node.expression.expressions.map (· == ·)) _ = true ↔ _
  tauto

theorem compares (e : TypedExpression) : ComparesNumbers (· == ·) e := by
  induction e using induct with
  | step node ih =>
    rintro ⟨other⟩
    have slots : (node.expression == other.expression) = true ↔ _ :=
      ExpressionSlots.compares ih other.expression
    show (mk node == mk other) = true ↔ _
    have nodes : unsigned (mk node) = unsigned (mk other) ↔
        unsigned node.expression = unsigned other.expression ∧
          node.withExpression () = other.withExpression () := by
      rw [unsigned_mk, unsigned_mk, mk.injEq, Typed.withExpression_eq_iff]
    rw [beq_mk_iff, slots, nodes, all_mk]
    tauto

theorem decode_unsigned (e : TypedExpression) : decode (unsigned e) = unsigned <$> decode e := by
  induction e using induct with
  | step node ih =>
    rw [unsigned_mk, decode_mk, decode_mk]
    simp only [Typed.withExpression, ExpressionSlots.decodeWith_unsigned ih, map_bind,
      bind_map_left, map_pure, WireTree.TypedExpression.unsigned_mk]

theorem active_decode {e : TypedExpression} {tree : WireTree.TypedExpression}
    (decoded : e.decode = .ok tree) : active tree = active e := by
  induction e using induct generalizing tree with
  | step node ih =>
    obtain ⟨treeNode⟩ := tree
    have decodes := decode_mk_eq_ok_iff.mp decoded
    rw [active_mk, WireTree.TypedExpression.active_mk]
    exact ExpressionSlots.active_decodeWith (fun e member t => ih e member) decodes.expression

theorem keepsZeros : KeepsZeros decode := ⟨compares, decode_unsigned, active_decode⟩

end Wire.TypedExpression

end WireTree
