import WireTree.Json.Token

/-!
# The outline of a JSON text

It is the value that the text spells, as far as the text is well formed.

A reader that takes the text from left to right and stops at the first thing it cannot use
never sees what follows that point. The outline keeps just what such a reader can see: a
container lists the parts that could be made out before the text broke off, and says whether
its closing bracket was reached. Reading an outline is therefore reading the text, and no
reader has to look at characters.

The outline is built by a machine that takes one token at a time, with a stack of the
containers that are still open.
-/

namespace WireTree.Json

/-- A value as far as its text is well formed. A container is `closed` if its text is well
formed up to the closing bracket; otherwise the text breaks off in or after its last part.
A key is listed once it is complete, even if no value follows it; it may hold no text. Where the
first key of an object has to begin and another value begins, the text breaks off, too, but the
value is kept in the place of the key's, as `misplaced` and under no text. -/
inductive Outline where
  | null
  | boolean (value : Bool)
  | number (numeral : Numeral)
  | text (content : Option String)
  | array (items : List Outline) (closed : Bool)
  | object (members : List (Option String × Outline)) (closed : Bool)
  | misplaced (value : Outline)
  | broken

/-- A member of an object, as far as it can be made out. -/
abbrev Outline.Member := Option String × Outline

namespace Outline

/-- Whether the value's own text is well formed to its end, whatever it holds. -/
def intact : Outline → Bool
  | array _ closed => closed
  | object _ closed => closed
  | misplaced _ => false
  | broken => false
  | _ => true

/-- A container whose next part is being read. The parts before it are listed last first. -/
inductive Frame where
  | item (before : List Outline)
  | member (before : List Member) (key : Option String)

/-- What may come next inside an object. -/
inductive MemberStage where
  /-- a first key or the end -/
  | first
  /-- a key, after a comma -/
  | key
  /-- a colon after this key -/
  | colon (key : Option String)
  /-- a comma or the end -/
  | rest

/-- The innermost place that the text has reached. -/
inductive Focus where
  /-- a value has to follow -/
  | value
  /-- between the items of an array; before the first one if it is `fresh` -/
  | array (before : List Outline) (fresh : Bool)
  /-- between the parts of an object -/
  | object (before : List Member) (stage : MemberStage)

/-- The state of the machine that builds an outline. -/
inductive State where
  | reading (frames : List Frame) (focus : Focus)
  /-- the text spells a value -/
  | done (root : Outline)
  /-- something follows the value -/
  | trailing (root : Outline)
  /-- the text is not well formed -/
  | stopped (root : Outline)

/-- The outline of a text that breaks off, given what stands innermost. -/
def breakOff : List Frame → Outline → Outline
  | [], inner => inner
  | .item before :: frames, inner => breakOff frames (.array (inner :: before).reverse false)
  | .member before key :: frames, inner =>
    breakOff frames (.object ((key, inner) :: before).reverse false)

/-- A value is complete. -/
def State.place : List Frame → Outline → State
  | [], value => .done value
  | .item before :: frames, value => .reading frames (.array (value :: before) false)
  | .member before key :: frames, value =>
    .reading frames (.object ((key, value) :: before) .rest)

/-- A token where a value has to begin. -/
def State.begin (frames : List Frame) : Token → State
  | .null => .place frames .null
  | .boolean b => .place frames (.boolean b)
  | .number n => .place frames (.number n)
  | .text s => .place frames (.text s)
  | .openArray => .reading frames (.array [] true)
  | .openObject => .reading frames (.object [] .first)
  | _ => .stopped (breakOff frames .broken)

/-- A token inside an array. -/
def State.stepArray (frames : List Frame) (before : List Outline) (fresh : Bool)
    (token : Token) : State :=
  if token = .closeArray then .place frames (.array before.reverse true)
  else if fresh then .begin (.item before :: frames) token
  else if token = .comma then .reading (.item before :: frames) .value
  else .stopped (breakOff frames (.array before.reverse false))

/-- The value that begins with a token, as far as the token shows it. -/
def begun? : Token → Option Outline
  | .null => some .null
  | .boolean b => some (.boolean b)
  | .number n => some (.number n)
  | .text s => some (.text s)
  | .openArray => some (.array [] false)
  | .openObject => some (.object [] false)
  | _ => none

/-- An object that breaks off where a key has to begin, given the token that is there instead. -/
def unkeyed (before : List Member) (token : Token) : Outline :=
  match begun? token with
  | some value => .object ((none, .misplaced value) :: before).reverse false
  | none => .object before.reverse false

/-- A token inside an object. -/
def State.stepObject (frames : List Frame) (before : List Member) :
    MemberStage → Token → State
  | .first, .closeObject => .place frames (.object before.reverse true)
  | .first, .text key => .reading frames (.object before (.colon key))
  | .first, token => .stopped (breakOff frames (unkeyed before token))
  | .key, .text key => .reading frames (.object before (.colon key))
  | .key, _ => .stopped (breakOff frames (.object before.reverse false))
  | .colon key, .colon => .reading (.member before key :: frames) .value
  | .colon key, _ => .stopped (breakOff frames (.object ((key, .broken) :: before).reverse false))
  | .rest, .closeObject => .place frames (.object before.reverse true)
  | .rest, .comma => .reading frames (.object before .key)
  | .rest, _ => .stopped (breakOff frames (.object before.reverse false))

/-- The machine takes one token. -/
def State.step : State → Token → State
  | .reading frames .value, token => .begin frames token
  | .reading frames (.array before fresh), token => .stepArray frames before fresh token
  | .reading frames (.object before stage), token => .stepObject frames before stage token
  | .done root, _ => .trailing root
  | .trailing root, _ => .trailing root
  | .stopped root, _ => .stopped root

/-- The state before the first token. -/
def State.start : State := .reading [] .value

/-- What stands innermost if the text ends here. -/
def Focus.outline : Focus → Outline
  | .value => .broken
  | .array before _ => .array before.reverse false
  | .object before (.colon key) => .object ((key, .broken) :: before).reverse false
  | .object before _ => .object before.reverse false

/-- The outline of what has been read. -/
def State.outline : State → Outline
  | .reading frames focus => breakOff frames focus.outline
  | .done root => root
  | .trailing root => root
  | .stopped root => root

end Outline

/-- A whole text: the outline of its value, and whether anything but blanks follows it. -/
structure Document where
  root : Outline
  trailing : Bool

/-- The document that the machine has read. -/
def Outline.State.document (state : Outline.State) : Document :=
  { root := state.outline
    trailing := match state with
      | .trailing _ => true
      | _ => false }

/-- The document of a text. -/
def Document.ofChars (text : List Char) : Document :=
  ((scan text).foldl Outline.State.step .start).document

/-- The document of a text. -/
def Document.ofText (text : String) : Document :=
  ofChars text.toList

end WireTree.Json
