/-
Times in the looser form that conditions may carry: RFC 3339 with blanks between its parts, with
numbers that have lost their leading zeros, with years of more than four digits behind a sign,
and with an offset that has no colon or is called UTC.
-/
import Rollout.Instant
import Rollout.Text.Blank

namespace Rollout.Instant.Lenient

/-! ## Numbers and marks -/

/-- The number that the digits in front write, at least one and at most `most` of them. -/
def number? (most : Nat) (cs : List Char) : Option (Nat × List Char) :=
  let ds := (cs.take most).takeWhile Char.isDigit
  if ds.isEmpty then none else some (ofDigits ds, cs.drop ds.length)

/-- A number of one or two digits behind any blanks. -/
def pair? (cs : List Char) : Option (Nat × List Char) := number? 2 (Text.trimStart cs)

/-- The rest behind a mark, which may have blanks in front of it. -/
def mark? (mark : Char) (cs : List Char) : Option (List Char) := oneOf? [mark] (Text.trimStart cs)

/-! ## Parts of a time -/

/-- A year: up to four digits, or any number of them behind a sign. -/
def year? (cs : List Char) : Option (Int × List Char) :=
  match Text.trimStart cs with
  | '-' :: rest => (number? rest.length rest).map fun (n, rest) => (-(n : Int), rest)
  | '+' :: rest => (number? rest.length rest).map fun (n, rest) => ((n : Int), rest)
  | cs => (number? 4 cs).map fun (n, rest) => ((n : Int), rest)

/-- A date. -/
def date? (cs : List Char) : Option (Day × List Char) := do
  let (year, cs) ← year? cs
  let cs ← mark? '-' cs
  let (month, cs) ← pair? cs
  let cs ← mark? '-' cs
  let (day, cs) ← pair? cs
  let date : Day := ⟨year, month, day⟩
  if date.isValid then some (date, cs) else none

/-- A time of day. -/
def time? (cs : List Char) : Option (TimeOfDay × List Char) := do
  let (hour, cs) ← pair? cs
  let cs ← mark? ':' cs
  let (minute, cs) ← pair? cs
  let cs ← mark? ':' cs
  let (second, cs) ← pair? cs
  let (nanos, cs) ← fraction? cs
  return (← TimeOfDay.of? hour minute second nanos, cs)

/-- The rest behind the word UTC in any case. -/
def word? : List Char → Option (List Char)
  | u :: t :: c :: rest =>
    if u.toLower = 'u' && t.toLower = 't' && c.toLower = 'c' then some rest else none
  | _ => none

/-- An offset from UTC in seconds; between its hours and minutes there may be colons and blanks,
or nothing. -/
def offset? : List Char → Option (Int × List Char)
  | 'Z' :: rest => some (0, rest)
  | 'z' :: rest => some (0, rest)
  | sign :: rest => do
    let negative ← isMinus? sign
    let (hours, rest) ← digits? 2 rest
    let (minutes, rest) ← digits? 2 (rest.dropWhile fun c => c = ':' || Text.isBlank c)
    return (← seconds? negative hours minutes, rest)
  | [] => none

/-- The instant that a text names. -/
def parse? (text : String) : Option Instant := do
  let (date, cs) ← date? text.toList
  let cs ← oneOf? ['T', 't', ' '] cs
  let (time, cs) ← time? cs
  let cs := Text.trimStart cs
  let (offset, cs) ← ((word? cs).map fun rest => (0, rest)).orElse fun _ => offset? cs
  if (Text.trimStart cs).isEmpty then Instant.of? date time offset else none

end Rollout.Instant.Lenient
