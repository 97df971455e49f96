/-
The canonical text of a value: no spaces, object keys in order, and in strings an escape only
where one is needed.
-/
import Rollout.Json.Basic
import Rollout.Number.Shortest

namespace Rollout

/-! ## Doubles -/

/-- How the text of a double is laid out. -/
structure Double.Layout where
  /-- Positional from this power of ten on. -/
  lowest : Int
  /-- Positional below this power of ten. -/
  highest : Int

/-- A double is written positionally, with at least one place behind the point, from `1e-5` up to
`1e16`, and otherwise with a signed exponent. -/
def Double.layout : Double.Layout := ⟨-5, 16⟩

/-- The digits and the power of ten as text; `digits` is not empty. -/
def Double.Layout.text (layout : Double.Layout) (digits : List Char) (ten : Int) : List Char :=
  -- the power of ten of the first digit
  let top := ten + digits.length - 1
  if layout.lowest ≤ top && top < layout.highest then
    if 0 ≤ ten then digits ++ List.replicate ten.toNat '0' ++ ['.', '0']
    else if top < 0 then
      ['0', '.'] ++ List.replicate (-top - 1).toNat '0' ++ digits
    else
      digits.take (top + 1).toNat ++ '.' :: digits.drop (top + 1).toNat
  else
    let mantissa := match digits with
      | first :: second :: rest => first :: '.' :: second :: rest
      | digits => digits
    mantissa ++ 'e' :: (if top < 0 then '-' else '+') :: Nat.toDigits 10 top.natAbs

/-- The text with the fewest digits to which the double is the nearest one. -/
def Double.text (x : Double) : List Char :=
  let magnitude :=
    if x.position = 0 then ['0', '.', '0']
    else
      let (digits, ten) := Shortest.decimal x.position
      Double.layout.text (Nat.toDigits 10 digits) ten
  if x.negative then '-' :: magnitude else magnitude

namespace Json

/-! ## Strings -/

/-- The lower-case digits of a number below 256, in base sixteen. -/
def hexByte (n : Nat) : List Char := [Nat.digitChar (n / 16 % 16), Nat.digitChar (n % 16)]

/-- A character inside a string: quote, backslash and the controls below a space are escaped. -/
def escape (c : Char) : List Char :=
  if c = '"' then ['\\', '"']
  else if c = '\\' then ['\\', '\\']
  else if c.toNat = 0x08 then ['\\', 'b']
  else if c.toNat = 0x0C then ['\\', 'f']
  else if c = '\n' then ['\\', 'n']
  else if c = '\r' then ['\\', 'r']
  else if c = '\t' then ['\\', 't']
  else if c.toNat < 0x20 then ['\\', 'u', '0', '0'] ++ hexByte c.toNat
  else [c]

/-- A string between quotes. -/
def quoted (s : String) : List Char := '"' :: (s.toList.flatMap escape ++ ['"'])

/-! ## Values -/

mutual

/-- The canonical text of a value, character by character. -/
def chars : Json → List Char
  | .null => ['n', 'u', 'l', 'l']
  | .bool true => ['t', 'r', 'u', 'e']
  | .bool false => ['f', 'a', 'l', 's', 'e']
  | .int n => if n < 0 then '-' :: Nat.toDigits 10 n.natAbs else Nat.toDigits 10 n.natAbs
  | .double x => x.text
  | .str s => quoted s
  | .arr items => '[' :: (charsOfItems items ++ [']'])
  | .obj members => '{' :: (charsOfMembers members ++ ['}'])
termination_by structural j => j

def charsOfItems : List Json → List Char
  | [] => []
  | [item] => chars item
  | item :: rest => chars item ++ ',' :: charsOfItems rest
termination_by structural items => items

def charsOfMembers : List (String × Json) → List Char
  | [] => []
  | [(key, value)] => quoted key ++ ':' :: chars value
  | (key, value) :: rest => quoted key ++ ':' :: (chars value ++ ',' :: charsOfMembers rest)
termination_by structural members => members

end

/-- The canonical text of a value. -/
def text (j : Json) : String := String.ofList j.chars

/-! ## Indented text -/

mutual

/-- The text of a value over several lines, two spaces deeper at each level. -/
def indented (depth : Nat) : Json → List Char
  | .arr [] => ['[', ']']
  | .obj [] => ['{', '}']
  | .arr items =>
    '[' :: '\n' :: (indentedItems (depth + 1) items ++
      '\n' :: (List.replicate (2 * depth) ' ' ++ [']']))
  | .obj members =>
    '{' :: '\n' :: (indentedMembers (depth + 1) members ++
      '\n' :: (List.replicate (2 * depth) ' ' ++ ['}']))
  | j => chars j
termination_by structural j => j

def indentedItems (depth : Nat) : List Json → List Char
  | [] => []
  | [item] => List.replicate (2 * depth) ' ' ++ indented depth item
  | item :: rest =>
    List.replicate (2 * depth) ' ' ++
      (indented depth item ++ ',' :: '\n' :: indentedItems depth rest)
termination_by structural items => items

def indentedMembers (depth : Nat) : List (String × Json) → List Char
  | [] => []
  | [(key, value)] =>
    List.replicate (2 * depth) ' ' ++ (quoted key ++ ':' :: ' ' :: indented depth value)
  | (key, value) :: rest =>
    List.replicate (2 * depth) ' ' ++ (quoted key ++ ':' :: ' ' ::
      (indented depth value ++ ',' :: '\n' :: indentedMembers depth rest))
termination_by structural members => members

end

end Json

end Rollout
