/-
Reading domain values out of JSON. A decoder answers none for a value of the wrong form. A member
is required, optional (missing or null for none) or defaulted (missing for the default, while
null is of the wrong form).
-/
import Rollout.Dict
import Rollout.Json.Basic

namespace Rollout.Json

variable {α : Type}

/-! ## Members -/

/-- A member that must be there. -/
def required (decode : Json → Option α) (key : String) (members : List (String × Json)) :
    Option α :=
  (members.lookup key).bind decode

/-- A member that may be missing or null. -/
def optional (decode : Json → Option α) (key : String) (members : List (String × Json)) :
    Option (Option α) :=
  match members.lookup key with
  | none => some none
  | some .null => some none
  | some value => (decode value).map some

/-- A member that has a default and may be missing, but not null. -/
def defaulted (decode : Json → Option α) (default : α) (key : String)
    (members : List (String × Json)) : Option α :=
  match members.lookup key with
  | none => some default
  | some value => decode value

/-- A member for which missing and null both stand for a default. -/
def nullable (decode : Json → Option α) (default : α) (key : String)
    (members : List (String × Json)) : Option α :=
  (optional decode key members).map (·.getD default)

/-- A text that, if it is given, has to be the expected one. -/
def fixedText (expected : String) (key : String) (members : List (String × Json)) : Option Unit :=
  match members.lookup key with
  | none => some ()
  | some (.str s) => if s = expected then some () else none
  | some _ => none

/-! ## Records and maps -/

/-- The members of a record: an object, or the list of the record's values in the order of its
keys, of which those from `least` on may be left out. -/
def record? (keys : List String) (least : Nat) : Json → Option (List (String × Json))
  | .obj members => some members
  | .arr values =>
    if least ≤ values.length && values.length ≤ keys.length then some (keys.zip values) else none
  | _ => none

/-- All the values of a list, or none if one of them is of the wrong form. -/
def list? (decode : Json → Option α) : Json → Option (List α)
  | .arr items => items.mapM decode
  | _ => none

/-- An object all of whose members are texts. -/
def texts? : Json → Option (Dict String)
  | .obj members =>
    (members.mapM fun (e : String × Json) => e.2.text?.map fun s => (e.1, s)).map Dict.ofList
  | _ => none

/-! ## Writing -/

/-- A map of texts as an object. -/
def ofTexts (texts : Dict String) : Json := .obj (texts.entries.map fun e => (e.1, .str e.2))

/-- A number of 32 bits. -/
def ofInt32 (n : Int32) : Json := .int n.toInt

/-- A number of 64 bits. -/
def ofInt64 (n : Int64) : Json := .int n.toInt

end Rollout.Json
