/-
JSON values. Integers and doubles are different values; the members of an object stand in key
order, which `Json.Ordered` states and every operation keeps. `Json.same` is equality of values,
for which the two zeros are one.
-/
import Rollout.Assoc
import Rollout.Number.Double

namespace Rollout

/-- A JSON value. -/
inductive Json where
  | null
  | bool (value : Bool)
  | int (value : Int)
  | double (value : Double)
  | str (value : String)
  | arr (items : List Json)
  | obj (members : List (String × Json))
deriving Repr, Inhabited

namespace Json

/-! ## Equality of values -/

mutual

/-- Whether two values are equal; doubles are compared as numbers and never equal an integer. -/
def same : Json → Json → Bool
  | .null, .null => true
  | .bool a, .bool b => a == b
  | .int a, .int b => a == b
  | .double a, .double b => a.same b
  | .str a, .str b => a == b
  | .arr a, .arr b => sameItems a b
  | .obj a, .obj b => sameMembers a b
  | _, _ => false
termination_by structural a => a

def sameItems : List Json → List Json → Bool
  | [], [] => true
  | a :: as, b :: bs => same a b && sameItems as bs
  | _, _ => false
termination_by structural as => as

def sameMembers : List (String × Json) → List (String × Json) → Bool
  | [], [] => true
  | (k, a) :: as, (l, b) :: bs => k == l && same a b && sameMembers as bs
  | _, _ => false
termination_by structural as => as

end

/-! ## The order of members -/

mutual

/-- Every object in the value lists its members in strictly increasing key order. -/
def Ordered : Json → Prop
  | .arr items => OrderedItems items
  | .obj members => Assoc.Ordered members ∧ OrderedMembers members
  | _ => True
termination_by structural j => j

def OrderedItems : List Json → Prop
  | [] => True
  | item :: rest => Ordered item ∧ OrderedItems rest
termination_by structural items => items

def OrderedMembers : List (String × Json) → Prop
  | [] => True
  | (_, value) :: rest => Ordered value ∧ OrderedMembers rest
termination_by structural members => members

end

/-! ## Building -/

/-- The object with the given members; of two under one key the later counts. -/
def object (members : List (String × Json)) : Json := .obj (Assoc.ofList members)

/-- The object of the members that have a value. -/
def objectOf (members : List (String × Option Json)) : Json :=
  object (members.filterMap fun (key, value) => value.map fun v => (key, v))

/-- A text, or null if there is none. -/
def ofOption (encode : α → Json) : Option α → Json
  | some a => encode a
  | none => .null

/-! ## Looking into a value -/

/-- The members of an object. -/
def members? : Json → Option (List (String × Json))
  | .obj members => some members
  | _ => none

/-- The items of an array. -/
def items? : Json → Option (List Json)
  | .arr items => some items
  | _ => none

/-- The text of a string. -/
def text? : Json → Option String
  | .str s => some s
  | _ => none

/-- The value of a boolean. -/
def bool? : Json → Option Bool
  | .bool b => some b
  | _ => none

/-- An integer in the range of 64 bits with a sign. -/
def int64? : Json → Option Int64
  | .int n =>
    if Int64.minValue.toInt ≤ n ∧ n ≤ Int64.maxValue.toInt then some (Int64.ofInt n) else none
  | _ => none

/-- An integer in the range of 32 bits with a sign. -/
def int32? : Json → Option Int32
  | .int n =>
    if Int32.minValue.toInt ≤ n ∧ n ≤ Int32.maxValue.toInt then some (Int32.ofInt n) else none
  | _ => none

/-- The member of an object under a key. -/
def get? (j : Json) (key : String) : Option Json :=
  match j with
  | .obj members => members.lookup key
  | _ => none

/-- The member reached through a path of object keys. -/
def path? (j : Json) : List String → Option Json
  | [] => some j
  | key :: rest => (j.get? key).bind (·.path? rest)

/-- A reference into an array: decimal digits without a leading zero. -/
def index? (token : String) : Option Nat :=
  match token.toList with
  | [] => none
  | ['0'] => some 0
  | '0' :: _ => none
  | digits =>
    if digits.all Char.isDigit then
      some (digits.foldl (fun n c => n * 10 + (c.toNat - '0'.toNat)) 0)
    else none

/-- The value that a pointer leads to: each token names a member of an object or, as a number, an
item of an array. -/
def pointer? (j : Json) : List String → Option Json
  | [] => some j
  | token :: rest =>
    match j with
    | .obj members => (members.lookup token).bind (·.pointer? rest)
    | .arr items => ((index? token).bind fun i => items[i]?).bind (·.pointer? rest)
    | _ => none

/-! ## Changing a value -/

/-- The members of an object; a value that is none counts as an empty object. -/
def membersOrNone : Json → List (String × Json)
  | .obj members => members
  | _ => []

/-- The value with a member set; a value that is no object becomes one. -/
def set (j : Json) (key : String) (value : Json) : Json :=
  .obj (Assoc.insert key value j.membersOrNone)

/-- The value without a member; a value that is no object becomes an empty one. -/
def unset (j : Json) (key : String) : Json := .obj (Assoc.erase key j.membersOrNone)

/-- Changes the value at the end of a path of object keys. What is missing on the way or is no
object becomes an object; the end starts from an empty object if it is none. -/
def update (j : Json) (change : Json → Json) : List String → Json
  | [] => change (.obj j.membersOrNone)
  | key :: rest => j.set key (((j.get? key).getD .null).update change rest)

end Json

end Rollout
