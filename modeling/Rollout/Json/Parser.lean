/-
Reading JSON text. A parser takes the characters that are left and gives its result with the
characters behind it; `Json.parse?` reads a whole text. Of two members under one key the later
counts, and an integer beyond 64 bits is read as a double.
-/
import Rollout.Json.Basic

namespace Rollout.Json

namespace Parser

/-- The rest without the spaces, tabs and line ends in front. -/
def skipSpace (cs : List Char) : List Char :=
  cs.dropWhile fun c => c = ' ' || c = '\t' || c = '\n' || c = '\r'

/-- The rest behind a word. -/
def word? : List Char → List Char → Option (List Char)
  | [], cs => some cs
  | w :: ws, c :: cs => if w = c then word? ws cs else none
  | _ :: _, [] => none

/-! ## Strings -/

/-- The value of a hexadecimal digit. -/
def hexDigit? (c : Char) : Option Nat :=
  if '0' ≤ c && c ≤ '9' then some (c.toNat - '0'.toNat)
  else if 'a' ≤ c && c ≤ 'f' then some (c.toNat - 'a'.toNat + 10)
  else if 'A' ≤ c && c ≤ 'F' then some (c.toNat - 'A'.toNat + 10)
  else none

/-- Four hexadecimal digits. -/
def hex4? : List Char → Option (Nat × List Char)
  | a :: b :: c :: d :: rest =>
    match hexDigit? a, hexDigit? b, hexDigit? c, hexDigit? d with
    | some a, some b, some c, some d => some (((a * 16 + b) * 16 + c) * 16 + d, rest)
    | _, _, _, _ => none
  | _ => none

/-- The character of an escape; `cs` begins behind the backslash. A character beyond the first
plane is written as a pair of surrogates, and no surrogate stands alone. -/
def escaped? : List Char → Option (Char × List Char)
  | '"' :: rest => some ('"', rest)
  | '\\' :: rest => some ('\\', rest)
  | '/' :: rest => some ('/', rest)
  | 'b' :: rest => some (Char.ofNat 0x08, rest)
  | 'f' :: rest => some (Char.ofNat 0x0C, rest)
  | 'n' :: rest => some ('\n', rest)
  | 'r' :: rest => some ('\r', rest)
  | 't' :: rest => some ('\t', rest)
  | 'u' :: rest =>
    match hex4? rest with
    | none => none
    | some (unit, rest) =>
      if 0xDC00 ≤ unit && unit < 0xE000 then none
      else if 0xD800 ≤ unit && unit < 0xDC00 then
        match rest with
        | '\\' :: 'u' :: rest =>
          match hex4? rest with
          | none => none
          | some (low, rest) =>
            if 0xDC00 ≤ low && low < 0xE000 then
              some (Char.ofNat (0x10000 + (unit - 0xD800) * 0x400 + (low - 0xDC00)), rest)
            else none
        | _ => none
      else some (Char.ofNat unit, rest)
  | _ => none

/-- The characters of a string up to its closing quote; `cs` begins behind the opening one. -/
def stringBody? : Nat → List Char → Option (List Char × List Char)
  | 0, _ => none
  | _ + 1, [] => none
  | _ + 1, '"' :: rest => some ([], rest)
  | fuel + 1, '\\' :: rest =>
    match escaped? rest with
    | none => none
    | some (c, rest) => (stringBody? fuel rest).map fun (cs, rest) => (c :: cs, rest)
  | fuel + 1, c :: rest =>
    if c.toNat < 0x20 then none
    else (stringBody? fuel rest).map fun (cs, rest) => (c :: cs, rest)

/-! ## Numbers -/

/-- The digits in front, as their values. -/
def digits (cs : List Char) : List Nat × List Char :=
  ((cs.takeWhile Char.isDigit).map fun c => c.toNat - '0'.toNat, cs.dropWhile Char.isDigit)

/-- The number that decimal digits write. -/
def ofDigits (ds : List Nat) : Nat := ds.foldl (fun n d => n * 10 + d) 0

/-- The places behind the point, if there is one; a point needs a digit behind it. -/
def fraction? : List Char → Option (Option (List Nat) × List Char)
  | '.' :: rest =>
    match digits rest with
    | ([], _) => none
    | (ds, rest) => some (some ds, rest)
  | cs => some (none, cs)

/-- The exponent, if there is one; its letter needs a digit behind it. -/
def exponent? : List Char → Option (Option Int × List Char)
  | c :: rest =>
    if c = 'e' || c = 'E' then
      let (negative, rest) := match rest with
        | '-' :: rest => (true, rest)
        | '+' :: rest => (false, rest)
        | rest => (false, rest)
      match digits rest with
      | ([], _) => none
      | (ds, rest) =>
        let n : Int := ofDigits ds
        some (some (if negative then -n else n), rest)
    else some (none, c :: rest)
  | [] => some (none, [])

/-- A number. Without point and exponent it is an integer if it fits into 64 bits; a negative
zero is a double. -/
def number? (cs : List Char) : Option (Json × List Char) :=
  let (negative, cs) := match cs with
    | '-' :: rest => (true, rest)
    | cs => (false, cs)
  match digits cs with
  | ([], _) => none
  | (0 :: _ :: _, _) => none
  | (whole, rest) =>
    match fraction? rest with
    | none => none
    | some (fraction, rest) =>
      match exponent? rest with
      | none => none
      | some (exponent, rest) =>
        let n := ofDigits whole
        let asDouble := (Double.ofLiteral? negative whole (fraction.getD []) (exponent.getD 0)).map
          fun x => (Json.double x, rest)
        match fraction, exponent with
        | none, none =>
          if negative then
            if 0 < n && n ≤ 1 <<< 63 then some (.int (-n), rest) else asDouble
          else if n < UInt64.size then some (.int n, rest)
          else asDouble
        | _, _ => asDouble

/-! ## Values -/

mutual

/-- A value, with the space around it. -/
def value? : Nat → List Char → Option (Json × List Char)
  | 0, _ => none
  | fuel + 1, cs =>
    match skipSpace cs with
    | [] => none
    | 'n' :: rest => (word? ['u', 'l', 'l'] rest).map fun rest => (.null, rest)
    | 't' :: rest => (word? ['r', 'u', 'e'] rest).map fun rest => (.bool true, rest)
    | 'f' :: rest => (word? ['a', 'l', 's', 'e'] rest).map fun rest => (.bool false, rest)
    | '"' :: rest => (stringBody? fuel rest).map fun (cs, rest) => (.str (String.ofList cs), rest)
    | '[' :: rest =>
      match skipSpace rest with
      | ']' :: rest => some (.arr [], rest)
      | rest => (items? fuel rest).map fun (items, rest) => (.arr items, rest)
    | '{' :: rest =>
      match skipSpace rest with
      | '}' :: rest => some (.obj [], rest)
      | rest => (members? fuel rest).map fun (members, rest) => (Json.object members, rest)
    | cs => number? cs

/-- The items of an array that is not empty, up to its closing bracket. -/
def items? : Nat → List Char → Option (List Json × List Char)
  | 0, _ => none
  | fuel + 1, cs =>
    match value? fuel cs with
    | none => none
    | some (item, rest) =>
      match skipSpace rest with
      | ',' :: rest => (items? fuel rest).map fun (items, rest) => (item :: items, rest)
      | ']' :: rest => some ([item], rest)
      | _ => none

/-- The members of an object that is not empty, up to its closing brace. -/
def members? : Nat → List Char → Option (List (String × Json) × List Char)
  | 0, _ => none
  | fuel + 1, cs =>
    match skipSpace cs with
    | '"' :: rest =>
      match stringBody? fuel rest with
      | none => none
      | some (key, rest) =>
        match skipSpace rest with
        | ':' :: rest =>
          match value? fuel rest with
          | none => none
          | some (value, rest) =>
            match skipSpace rest with
            | ',' :: rest =>
              (members? fuel rest).map fun (members, rest) =>
                ((String.ofList key, value) :: members, rest)
            | '}' :: rest => some ([(String.ofList key, value)], rest)
            | _ => none
        | _ => none
    | _ => none

end

end Parser

/-- The value that a text writes, with nothing but space around it. -/
def parse? (text : String) : Option Json :=
  let cs := text.toList
  match Parser.value? (2 * cs.length + 2) cs with
  | some (value, rest) => if (Parser.skipSpace rest).isEmpty then some value else none
  | none => none

end Rollout.Json
