/-
Finite double-precision numbers as exact data. A magnitude is named by its position among the
non-negative doubles in increasing order, so that comparing, rounding and reading are arithmetic
on natural numbers; `Magnitude.nearest` rounds a ratio, a tie going to the even neighbour.
-/
namespace Rollout

/-! ## Magnitudes -/

namespace Magnitude

/-- The position just past the largest finite double. -/
def bound : Nat := 2047 <<< 52

/-- The magnitude at a position as `significand · 2 ^ exponent`. -/
def parts (position : Nat) : Nat × Int :=
  if position < 1 <<< 53 then (position, -1074)
  else (1 <<< 52 + position % (1 <<< 52), (position >>> 52 : Nat) - 1075)

/-- The magnitude at a position as numerator and denominator. -/
def ratio (position : Nat) : Nat × Nat :=
  let (significand, exponent) := parts position
  (significand <<< exponent.toNat, 1 <<< (-exponent).toNat)

/-- The quotient rounded to the nearest natural number, a tie to the even one. -/
def roundHalfEven (num den : Nat) : Nat :=
  let quotient := num / den
  let twice := 2 * (num % den)
  if twice < den || (twice == den && quotient % 2 == 0) then quotient else quotient + 1

/-- The largest `e` with `2 ^ e ≤ num / den`, for positive numbers. -/
def floorLog2 (num den : Nat) : Int :=
  let guess : Int := (Nat.log2 num : Int) - Nat.log2 den
  if den <<< guess.toNat ≤ num <<< (-guess).toNat then guess else guess - 1

/-- The position of the double nearest to `num / den`, a tie going to the even position; from
`bound` on there is no finite one. -/
def nearest (num den : Nat) : Nat :=
  if num = 0 then 0
  else
    let exponent := max (floorLog2 num den - 52) (-1074)
    (exponent + 1074).toNat <<< 52 +
      roundHalfEven (num <<< (-exponent).toNat) (den <<< exponent.toNat)

/-- The position of the double nearest to the product of two doubles. -/
def product (a b : Nat) : Nat :=
  nearest ((ratio a).1 * (ratio b).1) ((ratio a).2 * (ratio b).2)

/-- The position of the double nearest to the quotient of two doubles. -/
def quotient (a b : Nat) : Nat :=
  nearest ((ratio a).1 * (ratio b).2) ((ratio a).2 * (ratio b).1)

/-- The position of the double nearest to a power of ten. -/
def tenTo (exponent : Nat) : Nat := nearest (Nat.pow 10 exponent) 1

end Magnitude

/-! ## Doubles -/

/-- A finite double: a sign and a magnitude. Zero has both signs. -/
structure Double where
  negative : Bool
  position : Nat
  position_lt : position < Magnitude.bound
deriving DecidableEq

namespace Double

instance : Repr Double := ⟨fun x => reprPrec (x.negative, x.position)⟩

/-- Equality of the numbers, for which the two zeros are one. -/
def same (x y : Double) : Bool :=
  x.position == y.position && (x.negative == y.negative || x.position == 0)

/-- The double of a sign and a position, if the position is that of a finite one. -/
def ofPosition? (negative : Bool) (position : Nat) : Option Double :=
  if h : position < Magnitude.bound then some ⟨negative, position, h⟩ else none

/-- The zero of a sign. -/
def zero (negative : Bool) : Double := ⟨negative, 0, by decide⟩

/-! ## Reading a literal -/

/-- The digits that fit into 64 bits behind `start`, as a number, and those left over. -/
def leadingDigits (start : Nat) : List Nat → Nat × List Nat
  | [] => (start, [])
  | digit :: rest =>
    if start * 10 + digit < UInt64.size then leadingDigits (start * 10 + digit) rest
    else (start, digit :: rest)

/-- A significand scaled by a power of ten, each step rounded: the powers up to `10 ^ 308` are
one multiplication or division, and a smaller scale takes two divisions. -/
def scale? (significand : Nat) (exponent : Int) : Option Nat :=
  let start := Magnitude.nearest significand 1
  let shift := exponent.natAbs
  if 0 ≤ exponent then
    if shift ≤ 308 then some (Magnitude.product start (Magnitude.tenTo shift))
    else if significand = 0 then some 0 else none
  else if shift ≤ 308 then some (Magnitude.quotient start (Magnitude.tenTo shift))
  else if shift ≤ 616 then
    some (Magnitude.quotient (Magnitude.quotient start (Magnitude.tenTo 308))
      (Magnitude.tenTo (shift - 308)))
  else some 0

/-- The double that a decimal literal writes. The significand is what of its digits fits into
64 bits; the digits left over count as places before the point and are dropped behind it. None
if the literal lies beyond the finite doubles. -/
def ofLiteral? (negative : Bool) (whole fraction : List Nat) (exponent : Int) : Option Double :=
  let (high, restWhole) := leadingDigits 0 whole
  let (significand, restFraction) := leadingDigits high fraction
  let places : Int := restWhole.length - (fraction.length - restFraction.length : Nat)
  match scale? significand (places + exponent) with
  | some position => ofPosition? negative position
  | none => none

end Double

end Rollout
