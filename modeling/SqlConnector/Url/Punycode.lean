import SqlConnector.Text.Numeral
import SqlConnector.Text.Cut
import SqlConnector.Text.Ranges
import SqlConnector.Text.Utf8

/-!
Punycode: text as ASCII letters, digits and hyphens. The ASCII characters of the text come first,
then, behind a hyphen, where the others go: they are put in one after the other, in the order of
their code points and then of their positions, and for each it is written how many positions were
passed over since the last one. At the end of the text the positions go on at its front, with the
next code point. The numbers have digits of base 36, the lowest first; a digit below its place's
threshold ends a number, and the thresholds follow the size of the numbers before.
-/

namespace SqlConnector.Url.Punycode

def firstPoint : Nat := 0x80
def firstBias : Nat := 72
def base : Nat := 36
/-- Numbers stay below this. -/
def limit : Nat := 0x100000000

def digitValue? (c : Char) : Option Nat :=
  if c.isDigit then some (26 + Text.digitValue c)
  else if c.toLower.isLower then some (c.toLower.toNat - 'a'.toNat)
  else none

def digitChar (n : Nat) : Char :=
  if n < 26 then Char.ofNat ('a'.toNat + n) else Char.ofNat ('0'.toNat + (n - 26))

/-- The threshold of a place, which is counted in steps of the base: from 1 to 26. -/
def threshold (place bias : Nat) : Nat := min 26 (max 1 (place - bias))

/-- How often a number has to be divided to become small, and what is left of it. -/
def scaled (steps n : Nat) : Nat × Nat :=
  if n ≤ 455 then (steps, n) else scaled (steps + 1) (n / 35)
termination_by n
decreasing_by omega

/-- The bias after a number, in a text that has then got `count` characters. -/
def adapted (number count : Nat) (isFirst : Bool) : Nat :=
  let n := number / if isFirst then 700 else 2
  let (steps, n) := scaled 0 (n + n / count)
  base * steps + base * n / (n + 38)

/-! Reading. -/

/-- The text so far, with the code point, the position and the bias that were reached. -/
structure Reading where
  text : List Char
  point : Nat
  position : Nat
  bias : Nat

/-- Puts in the character that is `number` positions further on. -/
def Reading.insert? (r : Reading) (number : Nat) : Option Reading :=
  let count := r.text.length + 1
  let passed := r.position + number
  let point := r.point + passed / count
  (Text.charOf? point).map fun c =>
    { text := r.text.insertIdx (passed % count) c
      point
      position := passed % count + 1
      bias := adapted number count (r.position = 0) }

/-- Goes on at some place of a number, whose digits so far come to `number`. -/
def readFrom? (r : Reading) (place weight number : Nat) : List Char → Option (List Char)
  | [] => if place = base then some r.text else none
  | c :: rest => do
    let digit ← digitValue? c
    let number := number + digit * weight
    let weight' := weight * (base - threshold place r.bias)
    if limit ≤ r.position + number then none
    else if digit < threshold place r.bias then readFrom? (← r.insert? number) base 1 0 rest
    else if limit ≤ weight' then none
    else readFrom? r (place + base) weight' number rest

/-- The text of a code, unless it is none; a code that begins with its only hyphen is none. -/
def decode? (code : List Char) : Option (List Char) :=
  let (plain, numbers) := (Text.cutLast '-' code).getD ([], code)
  if plain.all Text.isAscii ∧ (plain ≠ [] ∨ numbers = code) then
    readFrom? ⟨plain, firstPoint, 0, firstBias⟩ base 1 0 numbers
  else none

/-! Writing. -/

/-- The digits of a number from some place on. -/
def numberDigits (bias place number : Nat) : List Char :=
  if number < threshold place bias then [digitChar number]
  else
    let excess := number - threshold place bias
    let width := base - threshold place bias
    digitChar (threshold place bias + excess % width) ::
      numberDigits bias (place + base) (excess / width)
termination_by number
decreasing_by
  have : 1 ≤ threshold place bias := by simp only [threshold]; omega
  exact Nat.lt_of_le_of_lt (Nat.div_le_self _ _) (by omega)

/-- What was written so far, with the positions passed over since, how many characters of the text
are known, and the bias. -/
structure Writing where
  digits : List Char
  passed : Nat
  count : Nat
  bias : Nat

/-- Passes a character of a text with `plain` ASCII characters, while those of one code point are
written. -/
def Writing.pass (plain point : Nat) (w : Writing) (c : Char) : Writing :=
  if c.toNat < point then { w with passed := w.passed + 1 }
  else if c.toNat = point then
    { digits := w.digits ++ numberDigits w.bias base w.passed
      passed := 0
      count := w.count + 1
      bias := adapted w.passed (w.count + 1) (w.count = plain) }
  else w

/-- Writes the characters of the given code points, which are in order; `point` comes after the
last one that was written. -/
def writePoints (text : List Char) (plain : Nat) : Nat → Writing → List Nat → List Char
  | _, w, [] => w.digits
  | point, w, next :: rest =>
    let w := { w with passed := w.passed + (next - point) * (w.count + 1) }
    let w := text.foldl (Writing.pass plain next) w
    writePoints text plain (next + 1) { w with passed := w.passed + 1 } rest

/-- Puts a number into a list in order, unless it is there. -/
def insertPoint (n : Nat) : List Nat → List Nat
  | [] => [n]
  | m :: rest =>
    if n < m then n :: m :: rest
    else if n = m then m :: rest
    else m :: insertPoint n rest

def encode (text : List Char) : List Char :=
  let plain := text.filter Text.isAscii
  let points := (text.filter (!Text.isAscii ·)).foldr (fun c => insertPoint c.toNat) []
  let lead := if plain = [] then [] else plain ++ ['-']
  lead ++ writePoints text plain.length firstPoint ⟨[], 0, plain.length, firstBias⟩ points

end SqlConnector.Url.Punycode
