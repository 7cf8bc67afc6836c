import SqlConnector.Number.Binary64

/-!
The shortest decimal that reads back as a given binary64 number. Among the decimals of the least
number of digits that lie in the interval of reals rounding to the number, the nearest is taken,
and of two equally near ones the even.
-/

namespace SqlConnector.Binary64

/-- A positive decimal number `digits * 10 ^ power`. -/
structure Decimal where
  digits : Nat
  power : Int
  deriving DecidableEq, Repr

/-- The reals that round to a number, their ends included iff `closed`, all over one denominator. -/
structure Interval where
  low : Nat
  value : Nat
  high : Nat
  den : Nat
  closed : Bool

/-- The halves of the gaps to the neighbours; the gap below a power of two is the smaller one. -/
def interval (x : Binary64) : Interval :=
  let (num, den) := x.ratio
  let gap := num / x.mantissa
  let below := if x.mantissa = leastMantissa ∧ minExponent < x.exponent then gap else 2 * gap
  ⟨4 * num - below, 4 * num, 4 * num + 2 * gap, 4 * den, x.mantissa % 2 = 0⟩

/-- Whether `n * num / den` lies in the interval. -/
def Interval.holds (i : Interval) (n num den : Nat) : Bool :=
  let point := n * num * i.den
  if i.closed then i.low * den ≤ point && point ≤ i.high * den
  else i.low * den < point && point < i.high * den

/-- The exponent of the first digit of a positive quotient of at least `10 ^ (-330)`. -/
def decimalExponent (num den : Nat) : Int :=
  ((Text.digits (num * Nat.pow 10 330 / den)).length : Int) - 331

/-- The point of the grid `10 ^ power` in the interval that is nearest to the number. -/
def onGrid? (i : Interval) (power : Int) : Option Nat :=
  let (num, den) :=
    if 0 ≤ power then (Nat.pow 10 power.toNat, 1) else (1, Nat.pow 10 (-power).toNat)
  let below := i.value * den / (i.den * num)
  let gapBelow := i.value * den - below * (i.den * num)
  let gapAbove := (below + 1) * (i.den * num) - i.value * den
  match 0 < below && i.holds below num den, i.holds (below + 1) num den with
  | true, true =>
    if gapBelow < gapAbove ∨ (gapBelow = gapAbove ∧ below % 2 = 0) then some below
    else some (below + 1)
  | true, false => some below
  | false, true => some (below + 1)
  | false, false => none

/-- The shortest decimal of a number that is not zero; 17 digits always suffice. -/
def shortest (x : Binary64) : Decimal :=
  let i := x.interval
  let first := decimalExponent i.value i.den
  let tries := (List.range 17).map fun (n : Nat) => first - (n : Int)
  match tries.findSome? fun power => (onGrid? i power).map fun n => (⟨n, power⟩ : Decimal) with
  | some d => d
  | none => ⟨0, 0⟩

/-- The decimal without the zeros at its end. -/
def Decimal.trimmed (d : Decimal) : Decimal :=
  strip (Text.digits d.digits).length d
where
  strip : Nat → Decimal → Decimal
    | 0, d => d
    | n + 1, d => if d.digits % 10 = 0 then strip n ⟨d.digits / 10, d.power + 1⟩ else d

end SqlConnector.Binary64
