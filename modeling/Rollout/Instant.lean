/-
Points in time and their RFC 3339 form. An instant counts seconds from 1970 in UTC together with
the nanoseconds of the second; within a leap second the nanoseconds run on past one billion.
-/
namespace Rollout

/-! ## The calendar -/

/-- A day of the proleptic Gregorian calendar. -/
structure Day where
  year : Int
  month : Nat
  day : Nat
deriving DecidableEq, Repr

namespace Day

def isLeapYear (year : Int) : Bool :=
  year.emod 4 == 0 && (year.emod 100 != 0 || year.emod 400 == 0)

def daysInMonth (year : Int) (month : Nat) : Nat :=
  match month with
  | 2 => if isLeapYear year then 29 else 28
  | 4 | 6 | 9 | 11 => 30
  | _ => 31

/-- The first day that the calendar is kept for. -/
def first : Day := ⟨-262143, 1, 1⟩

/-- The last day that the calendar is kept for. -/
def last : Day := ⟨262142, 12, 31⟩

/-- Whether the calendar has the day. -/
def isValid (d : Day) : Bool :=
  first.year ≤ d.year && d.year ≤ last.year && 1 ≤ d.month && d.month ≤ 12 && 1 ≤ d.day &&
    d.day ≤ daysInMonth d.year d.month

/-- The number of the day, counted from 1970-01-01. Years are taken to begin in March, so that
the leap day is the last of its year. -/
def number (d : Day) : Int :=
  let year := if d.month ≤ 2 then d.year - 1 else d.year
  let era := year.fdiv 400
  let yearOfEra := year - era * 400
  let month : Int := (d.month + 9) % 12
  let dayOfYear := (153 * month + 2).fdiv 5 + d.day - 1
  era * 146097 + yearOfEra * 365 + yearOfEra.fdiv 4 - yearOfEra.fdiv 100 + dayOfYear - 719468

/-- The day with a number. -/
def ofNumber (n : Int) : Day :=
  let z := n + 719468
  let era := z.fdiv 146097
  let dayOfEra := z - era * 146097
  let yearOfEra :=
    (dayOfEra - dayOfEra.fdiv 1460 + dayOfEra.fdiv 36524 - dayOfEra.fdiv 146096).fdiv 365
  let dayOfYear := dayOfEra - (365 * yearOfEra + yearOfEra.fdiv 4 - yearOfEra.fdiv 100)
  let month := (5 * dayOfYear + 2).fdiv 153
  let day := dayOfYear - (153 * month + 2).fdiv 5 + 1
  let month := if month < 10 then month + 3 else month - 9
  ⟨yearOfEra + era * 400 + (if month ≤ 2 then 1 else 0), month.toNat, day.toNat⟩

end Day

/-! ## The time of day -/

/-- A time of day: whole seconds since midnight, and nanoseconds on top of them. -/
structure TimeOfDay where
  seconds : Nat
  nanos : Nat
deriving DecidableEq, Repr, Inhabited

/-- The time at an hour, a minute and a second; the sixtieth is a leap second. -/
def TimeOfDay.of? (hour minute second nanos : Nat) : Option TimeOfDay :=
  if 24 ≤ hour || 60 ≤ minute || 60 < second then none
  else if second = 60 then some ⟨hour * 3600 + minute * 60 + 59, nanos + 1000000000⟩
  else some ⟨hour * 3600 + minute * 60 + second, nanos⟩

/-! ## Instants -/

/-- A point in time: whole seconds since 1970-01-01T00:00:00Z and nanoseconds on top. -/
structure Instant where
  seconds : Int
  nanos : Nat
deriving DecidableEq, Repr, Inhabited

namespace Instant

/-- The number of nanoseconds in a second. -/
def billion : Nat := 1000000000

/-- Whether one instant lies before another. -/
def before (a b : Instant) : Bool :=
  a.seconds < b.seconds || (a.seconds == b.seconds && a.nanos < b.nanos)

/-- Whether the instant lies on a day of the calendar. -/
def inCalendar (t : Instant) : Bool :=
  Day.first.number * 86400 ≤ t.seconds && t.seconds < (Day.last.number + 1) * 86400

/-- The instant some seconds later, or earlier if the number is negative, wherever that is. A step
out of a leap second starts from the second before it when it goes forward and from the one after
it when it goes back. -/
def moved (t : Instant) (seconds : Int) : Instant :=
  if t.nanos < billion || seconds = 0 then ⟨t.seconds + seconds, t.nanos⟩
  else if 0 < seconds then ⟨t.seconds + seconds, t.nanos - billion⟩
  else ⟨t.seconds + 1 + seconds, t.nanos - billion⟩

/-- The instant some seconds later, if the calendar reaches it. -/
def plus? (t : Instant) (seconds : Int) : Option Instant :=
  if (t.moved seconds).inCalendar then some (t.moved seconds) else none

/-! ## Reading -/

/-- The number that digits write. -/
def ofDigits (ds : List Char) : Nat := ds.foldl (fun n c => n * 10 + (c.toNat - '0'.toNat)) 0

/-- The number of exactly `count` digits in front, and the rest. -/
def digits? (count : Nat) (cs : List Char) : Option (Nat × List Char) :=
  let ds := cs.take count
  if ds.length == count && ds.all Char.isDigit then some (ofDigits ds, cs.drop count) else none

/-- The rest behind one of the given characters. -/
def oneOf? (allowed : List Char) : List Char → Option (List Char)
  | c :: rest => if allowed.contains c then some rest else none
  | [] => none

/-- A date. -/
def date? (cs : List Char) : Option (Day × List Char) := do
  let (year, cs) ← digits? 4 cs
  let cs ← oneOf? ['-'] cs
  let (month, cs) ← digits? 2 cs
  let cs ← oneOf? ['-'] cs
  let (day, cs) ← digits? 2 cs
  let date : Day := ⟨year, month, day⟩
  if date.isValid then some (date, cs) else none

/-- The nanoseconds of a fraction, if there is one; places beyond the ninth are dropped. -/
def fraction? : List Char → Option (Nat × List Char)
  | '.' :: rest =>
    let places := rest.takeWhile Char.isDigit
    if places.isEmpty then none
    else
      let kept := places.take 9
      some (ofDigits kept * Nat.pow 10 (9 - kept.length), rest.dropWhile Char.isDigit)
  | cs => some (0, cs)

/-- A time of day. -/
def time? (cs : List Char) : Option (TimeOfDay × List Char) := do
  let (hour, cs) ← digits? 2 cs
  let cs ← oneOf? [':'] cs
  let (minute, cs) ← digits? 2 cs
  let cs ← oneOf? [':'] cs
  let (second, cs) ← digits? 2 cs
  let (nanos, cs) ← fraction? cs
  return (← TimeOfDay.of? hour minute second nanos, cs)

/-- Whether a sign is a minus, typewritten or typeset; none if it is no sign. -/
def isMinus? (sign : Char) : Option Bool :=
  if sign = '+' then some false
  else if sign = '-' || sign = Char.ofNat 0x2212 then some true
  else none

/-- An offset of hours and minutes, less than a day, in seconds. -/
def seconds? (negative : Bool) (hours minutes : Nat) : Option Int :=
  if hours < 24 && minutes < 60 then
    let seconds : Int := hours * 3600 + minutes * 60
    some (if negative then -seconds else seconds)
  else none

/-- The offset from UTC in seconds, with nothing behind it. -/
def offset? : List Char → Option Int
  | ['Z'] => some 0
  | ['z'] => some 0
  | sign :: cs => do
    let negative ← isMinus? sign
    let (hours, cs) ← digits? 2 cs
    let cs ← oneOf? [':'] cs
    let (minutes, cs) ← digits? 2 cs
    if cs.isEmpty then seconds? negative hours minutes else none
  | [] => none

/-- The instant of a date and a time at an offset from UTC, if the calendar reaches it. -/
def of? (date : Day) (time : TimeOfDay) (offset : Int) : Option Instant :=
  let t : Instant := ⟨date.number * 86400 + time.seconds - offset, time.nanos⟩
  if t.inCalendar then some t else none

/-- The instant that a text in RFC 3339 form names; a space may stand for the `T`. -/
def parse? (text : String) : Option Instant := do
  let (date, cs) ← date? text.toList
  let cs ← oneOf? ['T', 't', ' '] cs
  let (time, cs) ← time? cs
  of? date time (← offset? cs)

/-! ## Writing -/

/-- A number with at least `width` digits. -/
def padded (width : Nat) (n : Nat) : String :=
  let ds := Nat.toDigits 10 n
  String.ofList (List.replicate (width - ds.length) '0' ++ ds)

/-- A year: four digits, or a sign in front of one that does not fit. -/
def yearText (year : Int) : String :=
  if 0 ≤ year && year ≤ 9999 then padded 4 year.toNat
  else (if year < 0 then "-" else "+") ++ padded 4 year.natAbs

/-- The fraction of a second with the fewest groups of three digits that is exact. -/
def fractionText (nanos : Nat) : String :=
  if nanos = 0 then ""
  else if nanos % 1000000 = 0 then "." ++ padded 3 (nanos / 1000000)
  else if nanos % 1000 = 0 then "." ++ padded 6 (nanos / 1000)
  else "." ++ padded 9 nanos

/-- The RFC 3339 form of an instant in UTC. -/
def text (t : Instant) : String :=
  let date := Day.ofNumber (t.seconds.fdiv 86400)
  let time := (t.seconds.fmod 86400).toNat
  let leap := billion ≤ t.nanos
  let second := time % 60 + (if leap then 1 else 0)
  yearText date.year ++ "-" ++ padded 2 date.month ++ "-" ++ padded 2 date.day ++ "T" ++
    padded 2 (time / 3600) ++ ":" ++ padded 2 (time / 60 % 60) ++ ":" ++ padded 2 second ++
    fractionText (if leap then t.nanos - billion else t.nanos) ++ "+00:00"

end Instant

end Rollout
