/-!
UTF-8: the bytes of a character, and the text that bytes stand for, if they stand for one. Only the
shortest form of a character is read.
-/

namespace SqlConnector.Text

def utf8Bytes (c : Char) : List Nat :=
  let n := c.toNat
  if n < 0x80 then [n]
  else if n < 0x800 then [0xC0 + n / 0x40, 0x80 + n % 0x40]
  else if n < 0x10000 then [0xE0 + n / 0x1000, 0x80 + n / 0x40 % 0x40, 0x80 + n % 0x40]
  else [0xF0 + n / 0x40000, 0x80 + n / 0x1000 % 0x40, 0x80 + n / 0x40 % 0x40, 0x80 + n % 0x40]

/-- The character of a code point, which no surrogate has. -/
def charOf? (n : Nat) : Option Char := if n.isValidChar then some (Char.ofNat n) else none

/-- A character under way: `owed` more bytes of six bits each, and no less a code point than
`least`. -/
structure Partial where
  owed : Nat
  least : Nat
  value : Nat

/-- What a first byte begins. -/
def Partial.ofByte? (b : Nat) : Option Partial :=
  if b < 0x80 then some ⟨0, 0, b⟩
  else if b < 0xC0 then none
  else if b < 0xE0 then some ⟨1, 0x80, b - 0xC0⟩
  else if b < 0xF0 then some ⟨2, 0x800, b - 0xE0⟩
  else if b < 0xF8 then some ⟨3, 0x10000, b - 0xF0⟩
  else none

def Partial.next? (p : Partial) (b : Nat) : Option Partial :=
  if 0x80 ≤ b ∧ b < 0xC0 then some ⟨p.owed - 1, p.least, 0x40 * p.value + (b - 0x80)⟩ else none

def Partial.char? (p : Partial) : Option Char := if p.value < p.least then none else charOf? p.value

/-- Goes on with the character under way, if there is one. -/
def utf8From? : Option Partial → List Nat → Option (List Char)
  | none, [] => some []
  | some _, [] => none
  | waiting, b :: rest => do
    let p ← match waiting with
      | none => Partial.ofByte? b
      | some p => p.next? b
    if p.owed = 0 then
      return (← p.char?) :: (← utf8From? none rest)
    else utf8From? (some p) rest

def utf8? (bytes : List Nat) : Option (List Char) := utf8From? none bytes

end SqlConnector.Text
