/-!
Unsigned decimal numerals: runs of ASCII digits. A reader takes the bound that the number has to
stay below and accepts leading zeros; `digits` writes without them, `padded` to a least width.
-/

namespace SqlConnector.Text

def digitValue (c : Char) : Nat := c.toNat - '0'.toNat

/-- The value of a hexadecimal digit of either case. -/
def hexValue? (c : Char) : Option Nat :=
  if c.isDigit then some (digitValue c)
  else if 'a' ≤ c ∧ c ≤ 'f' then some (c.toNat - 'a'.toNat + 10)
  else if 'A' ≤ c ∧ c ≤ 'F' then some (c.toNat - 'A'.toNat + 10)
  else none

def ofDigits (s : List Char) : Nat :=
  s.foldl (fun n c => 10 * n + digitValue c) 0

/-- One or more ASCII digits. -/
def isNumeral (s : List Char) : Bool := !s.isEmpty && s.all Char.isDigit

/-- The value of a numeral that stays below `bound`. -/
def unsigned? (bound : Nat) (s : List Char) : Option Nat :=
  if isNumeral s ∧ ofDigits s < bound then some (ofDigits s) else none

/-- The value of a numeral below `bound` that one plus sign may precede. -/
def plusUnsigned? (bound : Nat) : List Char → Option Nat
  | '+' :: s => unsigned? bound s
  | s => unsigned? bound s

def digits (n : Nat) : List Char := Nat.toDigits 10 n

/-- The digits of `n`, with zeros in front up to the given width. -/
def padded (width n : Nat) : List Char :=
  List.replicate (width - (digits n).length) '0' ++ digits n

/-- The leading run of ASCII digits and the rest of the text. -/
def spanDigits (s : List Char) : List Char × List Char :=
  (s.takeWhile Char.isDigit, s.dropWhile Char.isDigit)

end SqlConnector.Text
