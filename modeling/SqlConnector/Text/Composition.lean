import SqlConnector.Text.CompositionData
import SqlConnector.Text.Mark

/-!
Composed text: of the ways to write letters with their marks, the one in which a letter and its
marks are one character where there is one. Text is taken apart, the marks of each letter are put in
order, and then each letter takes up what it can. Only characters of domain names are known.
-/

namespace SqlConnector.Text

/-! Korean syllables: a leading consonant and a vowel, with or without a trailing consonant. -/

def leadBase : Nat := 0x1100
def vowelBase : Nat := 0x1161
/-- One before the first trailing consonant, so that zero stands for none. -/
def tailBase : Nat := 0x11A7
def syllableBase : Nat := 0xAC00
def leadCount : Nat := 19
def vowelCount : Nat := 21
def tailCount : Nat := 28

/-- The parts of a syllable. -/
def syllableParts? (c : Char) : Option (List Char) :=
  let n := c.toNat - syllableBase
  if c.toNat < syllableBase ∨ leadCount * vowelCount * tailCount ≤ n then none
  else
    let tail := n % tailCount
    let two := [Char.ofNat (leadBase + n / tailCount / vowelCount),
      Char.ofNat (vowelBase + n / tailCount % vowelCount)]
    some (if tail = 0 then two else two ++ [Char.ofNat (tailBase + tail)])

/-- The syllable of a leading consonant and a vowel, or of an open syllable and a trailing
consonant. -/
def syllable? (a b : Char) : Option Char :=
  let lead := a.toNat - leadBase
  let vowel := b.toNat - vowelBase
  let syllable := a.toNat - syllableBase
  let tail := b.toNat - tailBase
  if leadBase ≤ a.toNat ∧ lead < leadCount ∧ vowelBase ≤ b.toNat ∧ vowel < vowelCount then
    some (Char.ofNat (syllableBase + (lead * vowelCount + vowel) * tailCount))
  else if syllableBase ≤ a.toNat ∧ syllable < leadCount * vowelCount * tailCount ∧
      syllable % tailCount = 0 ∧ tailBase < b.toNat ∧ tail < tailCount then
    some (Char.ofNat (a.toNat + tail))
  else none

/-! Taking apart. -/

def parts? (c : Char) : Option (Char × Char) :=
  (composites.find? (·.1 == c.toNat)).map fun (_, a, b) => (Char.ofNat a, Char.ofNat b)

/-- The letter that a character begins with, and its marks; no character holds more than four of
them. -/
def takenApart : Nat → Char → List Char
  | 0, c => [c]
  | depth + 1, c =>
    match parts? c with
    | some (a, b) => takenApart depth a ++ [b]
    | none => [c]

def decomposed (c : Char) : List Char :=
  if isAscii c then [c] else (syllableParts? c).getD (takenApart 4 c)

/-! Putting together. -/

/-- Puts a mark before the marks that follow it, behind those of a lower class. -/
def placeMark (c : Char) : List Char → List Char
  | [] => [c]
  | d :: rest =>
    if combiningClass d ≠ 0 ∧ combiningClass d < combiningClass c then d :: placeMark c rest
    else c :: d :: rest

/-- The marks of each letter by their classes, those of one class as they were. -/
def orderMarks (s : List Char) : List Char := s.foldr placeMark []

def whole? (a b : Char) : Option Char :=
  if isAscii b then none
  else
    match composites.find? fun (_, x, y) => x == a.toNat && y == b.toNat with
    | some (c, _, _) => some (Char.ofNat c)
    | none => syllable? a b

/-- A letter, and the marks that it has not taken up, the last one first, before the rest of the
text. It takes up a character unless a mark of the same class or of a higher one stands between. -/
def joinFrom (letter : Char) (marks : List Char) : List Char → List Char
  | [] => letter :: marks.reverse
  | c :: rest =>
    let isNear :=
      match marks with
      | [] => true
      | mark :: _ => combiningClass mark < combiningClass c
    match if isNear then whole? letter c else none with
    | some joined => joinFrom joined marks rest
    | none =>
      if combiningClass c = 0 then letter :: marks.reverse ++ joinFrom c [] rest
      else joinFrom letter (c :: marks) rest

def joined : List Char → List Char
  | [] => []
  | c :: rest => if combiningClass c = 0 then joinFrom c [] rest else c :: joined rest

/-- The composed form of a text; ASCII text is its own. -/
def composed (s : List Char) : List Char :=
  if s.all isAscii then s else joined (orderMarks (s.flatMap decomposed))

end SqlConnector.Text
