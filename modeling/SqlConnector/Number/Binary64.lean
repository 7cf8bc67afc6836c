import SqlConnector.Text.Numeral

/-!
Finite binary64 numbers in exact arithmetic. A number is `mantissa * 2 ^ exponent` with a sign;
`ofRatio?` rounds a quotient of naturals to the nearest one, a tie going to the even mantissa, and
the operations are the exact operation followed by that rounding. What is too large is no number
here.
-/

namespace SqlConnector

/-- The quotient rounded to the nearest natural, a tie going to the even one. -/
def roundDiv (num den : Nat) : Nat :=
  let q := num / den
  let r := num % den
  if 2 * r < den then q
  else if den < 2 * r then q + 1
  else if q % 2 = 0 then q else q + 1

structure Binary64 where
  negative : Bool
  mantissa : Nat
  exponent : Int
  deriving DecidableEq, Repr

namespace Binary64

/-- The least mantissa of 53 binary digits. -/
def leastMantissa : Nat := 4503599627370496

def minExponent : Int := -1074

def maxExponent : Int := 971

def zero (negative : Bool) : Binary64 := ⟨negative, 0, minExponent⟩

/-- The quotient `num / den` in units of `2 ^ exponent`, rounded. -/
def scaled (num den : Nat) (exponent : Int) : Nat :=
  if 0 ≤ exponent then roundDiv num (den * Nat.pow 2 exponent.toNat)
  else roundDiv (num * Nat.pow 2 (-exponent).toNat) den

/-- The exponent that leaves 53 binary digits of `num / den`, as far as the format has one. -/
def unitExponent (num den : Nat) : Int :=
  let guess : Int := (num.log2 : Int) - (den.log2 : Int) - 53
  let fits := if 0 ≤ guess then num < den * Nat.pow 2 (guess.toNat + 53)
    else num * Nat.pow 2 (-guess).toNat < den * (2 * leastMantissa)
  max (if fits then guess else guess + 1) minExponent

/-- The number nearest to `num / den`, which has to be positive or zero with `0 < den`. -/
def ofRatio? (negative : Bool) (num den : Nat) : Option Binary64 :=
  if num = 0 then some (zero negative)
  else
    let exponent := unitExponent num den
    let mantissa := scaled num den exponent
    let (mantissa, exponent) :=
      if mantissa = 2 * leastMantissa then (leastMantissa, exponent + 1) else (mantissa, exponent)
    if mantissa = 0 then some (zero negative)
    else if exponent ≤ maxExponent then some ⟨negative, mantissa, exponent⟩
    else none

def ofNat? (n : Nat) : Option Binary64 := ofRatio? false n 1

/-- Numerator and denominator of the absolute value. -/
def ratio (x : Binary64) : Nat × Nat :=
  if 0 ≤ x.exponent then (x.mantissa * Nat.pow 2 x.exponent.toNat, 1)
  else (x.mantissa, Nat.pow 2 (-x.exponent).toNat)

def isZero (x : Binary64) : Bool := x.mantissa = 0

def withSign (x : Binary64) (negative : Bool) : Binary64 := { x with negative := negative }

def mul? (x y : Binary64) : Option Binary64 :=
  ofRatio? (x.negative != y.negative) (x.ratio.1 * y.ratio.1) (x.ratio.2 * y.ratio.2)

/-- The quotient; none for a zero divisor. -/
def div? (x y : Binary64) : Option Binary64 :=
  if y.isZero then none
  else ofRatio? (x.negative != y.negative) (x.ratio.1 * y.ratio.2) (x.ratio.2 * y.ratio.1)

/-- The number nearest to a power of ten, for powers up to the 308th. -/
def powerOfTen? (n : Nat) : Option Binary64 := if n ≤ 308 then ofNat? (Nat.pow 10 n) else none

/-- The number `n * 10 ^ power` with a rounding at every step: `n` first, then one product, or a
quotient by at most the 308th power of ten at a time. A result that is too large is none. -/
def ofDecimal? (n : Nat) (power : Int) : Option Binary64 :=
  match ofNat? n with
  | none => none
  | some x =>
    if x.isZero then some x
    else if 0 ≤ power then (powerOfTen? power.toNat).bind x.mul?
    else divide x power.natAbs
where
  divide (x : Binary64) (power : Nat) : Option Binary64 :=
    if x.isZero then some x
    else if power ≤ 308 then (powerOfTen? power).bind x.div?
    else ((powerOfTen? 308).bind x.div?).bind fun y => divide y (power - 308)
  termination_by power

end Binary64

end SqlConnector
