import WireTree.Format.Wire
import WireTree.Proofs.Prefix.Lasting

/-!
# Reading stops at the first thing that cannot be used

Whatever follows that point, after a blank, cannot replace the refusal that was found there; and
after a value that is read there may be blanks and nothing else.
Main statement: `Grammar.readText_append`, for every grammar and every schema.
-/

namespace WireTree

open Json (Outline Apart isBlank scan)
open Json.Outline (State)

variable {S : Type → Type 1} {ι α β σ τ : Type}

/-! ## What is read is complete -/

section Complete

variable {inside : Inside S} {items : List Outline} {members : List Outline.Member} {closed : Bool}

theorem eq_true_of_ite_eq_ok {condition : Bool} {reading : Reading α} {a : α}
    (read : (if condition then reading else malformed) = .ok a) : condition = true := by
  cases condition with
  | true => rfl
  | false => cases read

theorem Fields.closed_of_readObject {feed : Feed} {fields : Fields S σ τ} {values : τ}
    (read : fields.readObject inside feed members closed = .ok values) : closed = true := by
  obtain ⟨slots, -, finished⟩ := bind_eq_ok_iff.mp read
  exact eq_true_of_ite_eq_ok finished

theorem closed_of_finishArray {elements : Reading (τ × List Outline)} {feed : Feed} {taken : Nat}
    (make : τ → α) {a : α}
    (read : (elements >>= fun (values, extra) =>
      finishArray feed taken extra closed (make values)) = .ok a) : closed = true := by
  obtain ⟨found, -, finished⟩ := bind_eq_ok_iff.mp read
  exact (finishArray_eq_ok_iff.mp finished).2.1

theorem Schema.closed_of_readChoiceObject {check : KeyCheck} {names : List (String × α)} {a : α}
    (read : readChoiceObject check names members closed = .ok a) : closed = true := by
  match members with
  | [] => cases read
  | (none, _) :: _ => exact (misnamed_eq_ok_iff.mp read).elim
  | (some name, value) :: rest =>
    obtain ⟨b, -, read⟩ := bind_eq_ok_iff.mp read
    cases value with
    | null => exact (Bool.and_eq_true_iff.mp (eq_true_of_ite_eq_ok read)).2
    | _ => exact (mismatch_eq_ok_iff.mp read).elim

namespace Arms

theorem closed_of_nextMember (ended : nextMember members closed = .ok none) : closed = true := by
  fun_induction nextMember members closed with
  | case1 => rfl
  | case2 => cases ended
  | case3 => cases ended
  | case4 => cases ended
  | case5 key value rest closed _ _ _ ih => exact ih ended
  | case6 => cases ended
  | case7 => cases ended

theorem closed_of_finishObject {a b : α} (read : finishObject members closed a = .ok b) :
    closed = true := by
  obtain ⟨next, found, finished⟩ := bind_eq_ok_iff.mp read
  cases next with
  | none => exact closed_of_nextMember found
  | some next => cases finished

theorem closed_of_readObject {n : Nat} {arms : Arms S n α} {feed : Feed} {union : String} {a : α}
    (read : arms.readObject inside feed union members closed = .ok a) : closed = true := by
  obtain ⟨first, -, read⟩ := bind_eq_ok_iff.mp read
  rcases first with _ | ⟨_ | _, first, rest⟩
  · cases read
  · obtain ⟨chosen, -, read⟩ := bind_eq_ok_iff.mp read
    obtain ⟨second, next, read⟩ := bind_eq_ok_iff.mp read
    rcases second with _ | ⟨_ | _, second, others⟩
    · exact closed_of_nextMember next
    · cases read
    · obtain ⟨b, -, finished⟩ := bind_eq_ok_iff.mp read
      exact closed_of_finishObject finished
  · have sound := eq_true_of_ite_eq_ok read
    replace read := (if_pos sound).symm.trans read
    obtain ⟨second, -, read⟩ := bind_eq_ok_iff.mp read
    rcases second with _ | ⟨_ | _, second, others⟩
    · cases read
    · obtain ⟨chosen, -, read⟩ := bind_eq_ok_iff.mp read
      obtain ⟨b, -, finished⟩ := bind_eq_ok_iff.mp read
      exact closed_of_finishObject finished
    · cases read

theorem closed_of_readArray {n : Nat} {arms : Arms S n α} {feed : Feed} {union : String} {a : α}
    (read : arms.readArray inside feed union items closed = .ok a) : closed = true := by
  match items with
  | [] =>
    cases closed with
    | true => rfl
    | false => cases read
  | [tag] =>
    obtain ⟨chosen, -, read⟩ := bind_eq_ok_iff.mp read
    cases closed with
    | true => rfl
    | false => cases read
  | tag :: value :: extra =>
    obtain ⟨chosen, -, read⟩ := bind_eq_ok_iff.mp read
    obtain ⟨b, -, finished⟩ := bind_eq_ok_iff.mp read
    exact (finishArray_eq_ok_iff.mp finished).2.1

end Arms

theorem exists_of_enter {inside : Option (Inside S)} {use : Inside S → Reading α} {a : α}
    (read : enter inside use = .ok a) : ∃ inner, use inner = .ok a := by
  cases inside with
  | none => cases read
  | some inner => exact ⟨inner, read⟩

theorem Shape.intact_of_read {inside : Option (Inside S)} {shape : Shape S α} {feed : Feed}
    {o : Outline} {a : α} (read : shape.read inside feed o = .ok a) : o.intact = true := by
  cases o with
  | object members closed =>
    cases shape with
    | record name fields make =>
      obtain ⟨inner, read⟩ := exists_of_enter read
      obtain ⟨values, read, -⟩ := map_eq_ok_iff.mp read
      exact Fields.closed_of_readObject read
    | tuple => cases read
    | union name arms =>
      obtain ⟨inner, read⟩ := exists_of_enter read
      exact Arms.closed_of_readObject read
  | array items closed =>
    cases shape with
    | record name fields make =>
      obtain ⟨inner, read⟩ := exists_of_enter read
      obtain ⟨values, read, -⟩ := map_eq_ok_iff.mp read
      exact closed_of_finishArray id read
    | tuple wanted counted components make =>
      obtain ⟨inner, read⟩ := exists_of_enter read
      exact closed_of_finishArray make read
    | union name arms =>
      obtain ⟨inner, read⟩ := exists_of_enter read
      exact Arms.closed_of_readArray read
  | misplaced | broken => cases shape <;> cases read
  | _ => rfl

end Complete

theorem Schema.intact_of_layer {K : ι → Type} {shape : (i : ι) → Shape (Schema K) (K i)}
    {inside : Option (Inside (Schema K))} {α : Type} (schema : Schema K α) {o : Outline} {a : α}
    (read : schema.layer shape inside .text o = .ok a) : o.intact = true := by
  cases schema with
  | shape inner => exact inner.intact_of_read read
  | node i => exact (shape i).intact_of_read read
  | optional inner =>
    cases o with
    | null => rfl
    | _ =>
      obtain ⟨b, read, -⟩ := map_eq_ok_iff.mp read
      exact inner.intact_of_layer read
  | list wanted item =>
    cases o with
    | array items closed =>
      obtain ⟨inner, read⟩ := exists_of_enter read
      obtain ⟨values, -, read⟩ := bind_eq_ok_iff.mp read
      exact eq_true_of_ite_eq_ok read
    | object => cases read
    | misplaced | broken => cases read
    | _ => rfl
  | table item =>
    cases o with
    | object members closed =>
      obtain ⟨inner, read⟩ := exists_of_enter read
      obtain ⟨entries, -, read⟩ := bind_eq_ok_iff.mp read
      exact eq_true_of_ite_eq_ok read
    | array => cases read
    | misplaced | broken => cases read
    | _ => rfl
  | choice names =>
    cases o with
    | object members closed =>
      cases inside with
      | none => cases read
      | some parts => exact closed_of_readChoiceObject read
    | array => cases read
    | misplaced | broken => cases read
    | _ => rfl
  | integer | double | boolean | text =>
    cases o with
    | array => cases read
    | object => cases read
    | misplaced | broken => cases read
    | _ => rfl

/-- Only a value whose text is complete is read. -/
theorem Grammar.intact_of_read {g : Grammar ι} {depth : Nat} {schema : Schema g.Carrier α}
    {o : Outline} {a : α} (read : g.read depth .text schema o = .ok a) : o.intact = true := by
  cases depth with
  | zero => exact schema.intact_of_layer read
  | succ depth => exact schema.intact_of_layer read

/-! ## Texts -/

namespace Json.Outline.State

theorem sound_start : start.Sound := trivial

/-- A token that cannot be made out never completes a text. -/
theorem step_broken_ne_done (state : State) (root : Outline) : state.step .broken ≠ .done root := by
  match state with
  | .reading frames .value => exact nofun
  | .reading frames (.array before true) => exact nofun
  | .reading frames (.array before false) => exact nofun
  | .reading frames (.object before stage) => cases stage <;> exact nofun
  | .done _ => exact nofun
  | .trailing _ => exact nofun
  | .stopped _ => exact nofun

/-- After a value only a text without tokens may follow. -/
theorem run_done (root : Outline) (tokens : List Token) :
    tokens = [] ∧ tokens.foldl step (.done root) = .done root ∨
      tokens ≠ [] ∧ tokens.foldl step (.done root) = .trailing root := by
  cases tokens with
  | nil => exact .inl ⟨rfl, rfl⟩
  | cons token tokens => exact .inr ⟨List.cons_ne_nil token tokens, run_trailing root tokens⟩

end Json.Outline.State

namespace Grammar

variable (g : Grammar ι) (schema : Schema g.Carrier α)

/-- What has been found out lasts while the machine takes more tokens. -/
theorem read_run (state : State) (tokens : List Json.Token) :
    Lasting (g.read maxDepth .text schema state.outline)
      (g.read maxDepth .text schema (tokens.foldl State.step state).outline) := by
  induction tokens generalizing state with
  | nil => exact .refl _
  | cons token tokens ih =>
    exact (g.read_grows maxDepth schema (state.step_grows token)).trans (ih (state.step token))

variable {g schema}

theorem readDocument_eq_refuse_iff {state : State} {why : Refusal} :
    g.readDocument schema state.document = refuse why ↔
      g.read maxDepth .text schema state.outline = refuse why := by
  unfold readDocument
  show (g.read maxDepth .text schema state.outline >>= _) = _ ↔ _
  cases g.read maxDepth .text schema state.outline with
  | error _ => exact Iff.rfl
  | ok value => cases state <;> exact iff_of_false nofun nofun

/-- A refusal lasts. -/
theorem readDocument_of_lasting {state state' : State} {why : Refusal}
    (lasting : Lasting (g.read maxDepth .text schema state.outline)
      (g.read maxDepth .text schema state'.outline))
    (refused : g.readDocument schema state.document = refuse why) :
    g.readDocument schema state'.document = refuse why := by
  rw [readDocument_eq_refuse_iff] at refused ⊢
  rcases lasting with never | same
  · rw [never] at refused
    cases refused
  · exact same.trans refused

/-- A text is read only if the machine is done with it. -/
theorem done_of_readDocument {state : State} (sound : state.Sound) {value : α}
    (read : g.readDocument schema state.document = .ok value) : state = .done state.outline := by
  obtain ⟨a, found, finished⟩ := bind_eq_ok_iff.mp read
  rcases sound.eq_of_intact (intact_of_read found) with done | trailing
  · exact done
  · rw [trailing] at finished
    cases finished

/-- After a value that is read no token may follow. -/
theorem readDocument_run_of_read {state : State} (sound : state.Sound) {value : α}
    (read : g.readDocument schema state.document = .ok value) (tokens : List Json.Token) :
    g.readDocument schema (tokens.foldl State.step state).document =
      if tokens = [] then .ok value else malformed := by
  have done := done_of_readDocument sound read
  generalize state.outline = root at done
  subst done
  rcases State.run_done root tokens with ⟨none, ended⟩ | ⟨some, trails⟩
  · rw [ended, if_pos none, read]
  · rw [trails, if_neg some]
    obtain ⟨a, found, -⟩ := bind_eq_ok_iff.mp read
    replace found : g.read maxDepth .text schema root = .ok a := found
    show g.read maxDepth .text schema root >>= _ = malformed
    rw [found]
    rfl

/-- Reading stops at the first thing that cannot be used. If a text is refused, so is every text
that goes on after a blank, and for the same reason. If a text is read, blanks may follow it, and
everything else that follows after a blank makes the text malformed. -/
theorem readText_append (g : Grammar ι) (schema : Schema g.Carrier α) (text more : String)
    (apart : Apart more.toList) :
    (∀ why, g.readText schema text = refuse why → g.readText schema (text ++ more) = refuse why) ∧
      ∀ value, g.readText schema text = .ok value →
        ((∀ c ∈ more.toList, isBlank c = true) → g.readText schema (text ++ more) = .ok value) ∧
        ((∃ c ∈ more.toList, isBlank c = false) →
          g.readText schema (text ++ more) = malformed) := by
  let reading (tokens : List Json.Token) : State := tokens.foldl State.step .start
  have sound (tokens : List Json.Token) : (reading tokens).Sound := State.sound_start.run tokens
  have readText_eq (text : String) :
      g.readText schema text = g.readDocument schema (reading (scan text.toList)).document := rfl
  have run_append (tokens later : List Json.Token) :
      reading (tokens ++ later) = later.foldl State.step (reading tokens) := List.foldl_append
  simp only [readText_eq, String.toList_append]
  rcases Json.scan_append apart text.toList with whole | ⟨tokens, later, breaks, grown⟩
  · -- the tokens of what follows come after those of the text
    rw [whole, run_append]
    refine ⟨fun why refused => readDocument_of_lasting (read_run g schema _ _) refused, ?_⟩
    intro value read
    rw [readDocument_run_of_read (sound _) read]
    refine ⟨fun blank => if_pos (Json.scan_eq_nil_iff.mpr blank), fun ⟨c, member, solid⟩ => ?_⟩
    refine if_neg fun none => ?_
    rw [Json.scan_eq_nil_iff.mp none c member] at solid
    cases solid
  · -- the last token was not complete, so the text was not
    rw [breaks, grown, run_append, run_append]
    have hidden := g.read_grows maxDepth schema (reading tokens).step_broken_grows
    refine ⟨fun why refused => ?_, fun value read => ?_⟩
    · have lasting := hidden.trans (read_run g schema (reading tokens) later)
      exact readDocument_of_lasting lasting refused
    · have done := done_of_readDocument ((sound tokens).step .broken) read
      exact absurd done (State.step_broken_ne_done (reading tokens) _)

/-- The second coordinate is refused before the array breaks off, and what looks like another
position after it does not change that; after a whole position it does. Where the value in the
place of a name's key is what is refused, it stays refused. -/
theorem readText_append_cut_short :
    Apart " , 3] [4, 5]".toList ∧
      Wire.Format.grammar.readText Format.position "[1,-2 , 3] [4, 5]" =
        refuse (.invalidValue (.integer (-2)) "u32") ∧
      Wire.Format.grammar.readText Format.position "[1,2]\n" = .ok ⟨1, 2⟩ ∧
      Wire.Format.grammar.readText Format.position "[1,2] , 3] [4, 5]" = malformed ∧
      Grammar.readText { Wire.Format.grammar with keyCheck := .typed } Wire.Format.modifiers
          "[\x7b5 , 3] [4, 5]" =
        refuse (.invalidType (.integer 5) "variant identifier") := by
  have apart : Apart " , 3] [4, 5]".toList := by decide
  have refused : Wire.Format.grammar.readText Format.position "[1,-2" =
      refuse (.invalidValue (.integer (-2)) "u32") := by decide +kernel
  have read : Wire.Format.grammar.readText Format.position "[1,2]" = .ok ⟨1, 2⟩ := by decide +kernel
  have unnamed : Grammar.readText { Wire.Format.grammar with keyCheck := .typed }
      Wire.Format.modifiers "[\x7b5" = refuse (.invalidType (.integer 5) "variant identifier") := by
    decide +kernel
  refine ⟨apart, ?_, ?_, ?_, ?_⟩
  · exact (readText_append _ _ "[1,-2" _ apart).1 _ refused
  · exact ((readText_append _ _ "[1,2]" "\n" (by decide)).2 _ read).1 (by simp [Json.isBlank])
  · exact ((readText_append _ _ "[1,2]" _ apart).2 _ read).2 ⟨',', by decide, by decide⟩
  · exact (readText_append _ _ "[\x7b5" _ apart).1 _ unnamed

end Grammar

end WireTree
