import SqlConnector.Number.Shortest

/-!
Numbers of a JSON text. An integer is kept as it is while it fits 64 bits, signed or not; any
other number becomes a binary64 number, from the digits that fit 64 bits and a power of ten for
the digits left out. A number beyond the range of binary64 is written correctly and yet has no
value.
-/

namespace SqlConnector.Json

inductive Number where
  | integer (n : Int)
  | real (x : Binary64)
  deriving DecidableEq, Repr

/-- The first natural that 64 bits do not hold. -/
def Number.unsignedBound : Nat := 18446744073709551616

/-- The first natural that 64 bits with a sign do not hold. -/
def Number.signedBound : Nat := 9223372036854775808

/-- A number as it is written: whole digits, fraction digits, and an exponent. -/
structure Numeral where
  negative : Bool
  whole : List Char
  fraction : List Char
  exponent : Option (Bool × List Char)
  hasFraction : Bool

namespace Numeral

/-- Takes digits into `n` while it fits 64 bits; the digits from the first that does not fit are
left over. -/
def fill (n : Nat) : List Char → Nat × List Char
  | [] => (n, [])
  | d :: ds =>
    if 10 * n + Text.digitValue d < Number.unsignedBound then fill (10 * n + Text.digitValue d) ds
    else (n, d :: ds)

def power (numeral : Numeral) : Int :=
  match numeral.exponent with
  | none => 0
  | some (negative, ds) => if negative then -(Text.ofDigits ds : Int) else Text.ofDigits ds

def real? (numeral : Numeral) : Option Binary64 :=
  let (n, wholeLeft) := fill 0 numeral.whole
  let (n, fractionLeft) := fill n numeral.fraction
  let shift : Int := wholeLeft.length - (numeral.fraction.length - fractionLeft.length : Nat)
  (Binary64.ofDecimal? n (shift + numeral.power)).map (·.withSign numeral.negative)

def isWhole (numeral : Numeral) : Bool := !numeral.hasFraction && numeral.exponent.isNone

def number? (numeral : Numeral) : Option Number :=
  let n := Text.ofDigits numeral.whole
  if numeral.isWhole && !numeral.negative && n < Number.unsignedBound then some (.integer n)
  else if numeral.isWhole && numeral.negative && 0 < n && n ≤ Number.signedBound then
    some (.integer (-n))
  else numeral.real?.map .real

/-- The whole digits: a lone zero, or digits that begin with another one. -/
def readWhole (s : List Char) : Option (List Char × List Char) :=
  let (ds, rest) := Text.spanDigits s
  match ds with
  | [] => none
  | ['0'] => some (ds, rest)
  | '0' :: _ => none
  | _ => some (ds, rest)

def readFraction : List Char → Option (Bool × List Char × List Char)
  | '.' :: s =>
    let (ds, rest) := Text.spanDigits s
    if ds.isEmpty then none else some (true, ds, rest)
  | s => some (false, [], s)

def readPower (s : List Char) : Option (Option (Bool × List Char) × List Char) :=
  let (negative, s) :=
    match s with
    | '+' :: s => (false, s)
    | '-' :: s => (true, s)
    | s => (false, s)
  let (ds, rest) := Text.spanDigits s
  if ds.isEmpty then none else some (some (negative, ds), rest)

def readExponent : List Char → Option (Option (Bool × List Char) × List Char)
  | 'e' :: s => readPower s
  | 'E' :: s => readPower s
  | s => some (none, s)

def readUnsigned (negative : Bool) (s : List Char) : Option (Numeral × List Char) := do
  let (whole, s) ← readWhole s
  let (hasFraction, fraction, s) ← readFraction s
  let (exponent, s) ← readExponent s
  return (⟨negative, whole, fraction, exponent, hasFraction⟩, s)

def read : List Char → Option (Numeral × List Char)
  | '-' :: s => readUnsigned true s
  | s => readUnsigned false s

end Numeral

namespace Number

/-- Digits with the point after the first `point` of them, zeros filling up either side. -/
def positional (ds : List Char) (point : Int) : List Char :=
  if point ≤ 0 then '0' :: '.' :: List.replicate point.natAbs '0' ++ ds
  else if ds.length ≤ point.toNat then
    ds ++ List.replicate (point.toNat - ds.length) '0' ++ ['.', '0']
  else ds.take point.toNat ++ '.' :: ds.drop point.toNat

/-- One digit before the point, and the exponent with its sign. -/
def scientific (ds : List Char) (exponent : Int) : List Char :=
  let fraction := if ds.length ≤ 1 then [] else '.' :: ds.drop 1
  ds.take 1 ++ fraction ++ 'e' :: (if exponent < 0 then '-' else '+') ::
    Text.digits exponent.natAbs

/-- The shortest text of a real number: positional for values from 0.00001 up to below 1e16. -/
def realText (x : Binary64) : List Char :=
  let sign := if x.negative then ['-'] else []
  if x.isZero then sign ++ ['0', '.', '0']
  else
    let d := x.shortest.trimmed
    let ds := Text.digits d.digits
    let exponent := d.power + ds.length - 1
    sign ++ if -5 ≤ exponent ∧ exponent ≤ 15 then positional ds (exponent + 1)
      else scientific ds exponent

def integerText (n : Int) : List Char :=
  (if n < 0 then ['-'] else []) ++ Text.digits n.natAbs

def text : Number → List Char
  | integer n => integerText n
  | real x => realText x

end Number

end SqlConnector.Json
