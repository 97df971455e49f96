/-
The shortest decimal of a double. Of the decimals that round to the double the one with the
fewest digits is taken, and of those the nearest; on each grid of decimals only the two
neighbours of the double have to be tried.
-/
import Rollout.Number.Double

namespace Rollout.Shortest

/-- The double's own value and the ends of the interval of numbers that round to it, in quarters
of its last place; the ends belong to it iff the significand is even. -/
structure Interval where
  low : Nat
  middle : Nat
  high : Nat
  exponent : Int
  closed : Bool

/-- The interval of a position above zero. Below a power of two the doubles are denser, so the
lower end is nearer there. -/
def Interval.of (position : Nat) : Interval :=
  let (significand, exponent) := Magnitude.parts position
  let dense := significand == 1 <<< 52 && decide (-1074 < exponent)
  { low := 4 * significand - (if dense then 1 else 2)
    middle := 4 * significand
    high := 4 * significand + 2
    exponent := exponent - 2
    closed := significand % 2 == 0 }

/-- Compares `digits · 10 ^ ten` with `quarters · 2 ^ two`. -/
def compareScaled (digits : Nat) (ten : Int) (quarters : Nat) (two : Int) : Ordering :=
  compare ((digits * Nat.pow 10 ten.toNat) <<< (-two).toNat)
    ((quarters * Nat.pow 10 (-ten).toNat) <<< two.toNat)

/-- Whether `digits · 10 ^ ten` lies in the interval. -/
def Interval.contains (i : Interval) (digits : Nat) (ten : Int) : Bool :=
  let low := compareScaled digits ten i.low i.exponent
  let high := compareScaled digits ten i.high i.exponent
  (low == .gt || (i.closed && low == .eq)) && (high == .lt || (i.closed && high == .eq))

/-- The number of decimal digits of a natural number. -/
def digitCount (n : Nat) : Nat := (Nat.toDigits 10 n).length

/-- The largest `e` with `10 ^ e ≤ num / den`, for positive numbers. -/
def floorLog10 (num den : Nat) : Int :=
  if den ≤ num then (digitCount (num / den) : Int) - 1
  else
    let places := digitCount (den / num)
    if den ≤ num * Nat.pow 10 (places - 1) then -((places - 1 : Nat) : Int) else -(places : Int)

/-- On the grid of multiples of `10 ^ ten`: the neighbour of the double that rounds to it, the
nearer one if both do and the even one if they are equally near. -/
def onGrid? (i : Interval) (ten : Int) : Option (Nat × Int) :=
  let below := ((i.middle * Nat.pow 10 (-ten).toNat) <<< i.exponent.toNat) /
    (Nat.pow 10 ten.toNat <<< (-i.exponent).toNat)
  let above := below + 1
  match i.contains below ten, i.contains above ten with
  | false, false => none
  | true, false => some (below, ten)
  | false, true => some (above, ten)
  | true, true =>
    -- the double against the point halfway between the neighbours
    match compareScaled (below + above) ten (2 * i.middle) i.exponent with
    | .gt => some (below, ten)
    | .lt => some (above, ten)
    | .eq => some (if below % 2 = 0 then below else above, ten)

/-- A decimal without zeros at its end; `fuel` bounds their number. -/
def withoutZeros : Nat → Nat → Int → Nat × Int
  | 0, digits, ten => (digits, ten)
  | fuel + 1, digits, ten =>
    if digits ≠ 0 && digits % 10 = 0 then withoutZeros fuel (digits / 10) (ten + 1)
    else (digits, ten)

/-- The shortest decimal `digits · 10 ^ ten` of a position above zero. Seventeen digits always
suffice. -/
def decimal (position : Nat) : Nat × Int :=
  let i := Interval.of position
  let (num, den) := Magnitude.ratio position
  let top := floorLog10 num den
  match (List.range 17).findSome? fun (count : Nat) => onGrid? i (top - count) with
  | some (digits, ten) => withoutZeros 20 digits ten
  | none => (num, 0)

end Rollout.Shortest
