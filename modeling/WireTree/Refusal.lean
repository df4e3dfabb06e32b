import WireTree.Binary64.Shortest
import WireTree.Text

/-!
# Why a JSON text is not read

Either the text is malformed (or nested too deeply), or it is refused because what it spells does
not fit the type that is wanted. A refusal names its cause; the wording is in `Refusal.message`.
-/

namespace WireTree

/-- What stood in the text where something else was wanted. -/
inductive Found where
  | null
  | boolean (value : Bool)
  | integer (value : Int)
  | double (value : Binary64)
  | text (content : String)
  | sequence
  | map
deriving DecidableEq

/-- How a message names what was found. -/
def Found.describe : Found → String
  | .null => "null"
  | .boolean b => "boolean `" ++ (if b then "true" else "false") ++ "`"
  | .integer n => "integer `" ++ toString n ++ "`"
  | .double d => "floating point `" ++ d.text ++ "`"
  | .text s => "string " ++ Text.quoted s
  | .sequence => "sequence"
  | .map => "map"

/-- Why a well-formed part of a text does not fit the type wanted there. -/
inductive Refusal where
  | missingField (key : String)
  | duplicateField (key : String)
  | unknownVariant (name : String) (known : List String)
  | invalidType (found : Found) (wanted : String)
  | invalidValue (found : Found) (wanted : String)
  | invalidLength (length : Nat) (wanted : String)
deriving DecidableEq

/-- The names that may stand in a place. -/
def Refusal.alternatives (known : List String) : String :=
  let ticked := known.map fun name => "`" ++ name ++ "`"
  match ticked with
  | [] => "there are no variants"
  | [one] => "expected " ++ one
  | [one, other] => "expected " ++ one ++ " or " ++ other
  | _ => "expected one of " ++ ", ".intercalate ticked

/-- The wording of a refusal. -/
def Refusal.message : Refusal → String
  | .missingField key => "missing field `" ++ key ++ "`"
  | .duplicateField key => "duplicate field `" ++ key ++ "`"
  | .unknownVariant name known => "unknown variant `" ++ name ++ "`, " ++ alternatives known
  | .invalidType found wanted => "invalid type: " ++ found.describe ++ ", expected " ++ wanted
  | .invalidValue found wanted => "invalid value: " ++ found.describe ++ ", expected " ++ wanted
  | .invalidLength length wanted =>
    "invalid length " ++ toString length ++ ", expected " ++ wanted

/-- Why a text is not read. -/
inductive ReadError where
  /-- the text is no JSON, or nests too deeply -/
  | malformed
  /-- the text spells something else than what is wanted -/
  | refused (why : Refusal)
deriving DecidableEq

/-- What reading yields. -/
abbrev Reading (α : Type) := Except ReadError α

/-- Refuse a part of the text. -/
def refuse {α : Type} (why : Refusal) : Reading α :=
  .error (.refused why)

/-- Give up on a malformed text. -/
def malformed {α : Type} : Reading α :=
  .error .malformed

end WireTree
