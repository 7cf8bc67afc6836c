import SqlConnector.Text.Numeral
import SqlConnector.Text.Utf8

/-!
Percent-encoding: a character that may not stand in some part of a URL is written as its UTF-8
bytes, each as `%` and two hexadecimal digits. Only ASCII can stand for itself.
-/

namespace SqlConnector.Url

def hexDigit (n : Nat) : Char := "0123456789ABCDEF".toList.getD n '0'

def percentByte (b : Nat) : List Char := ['%', hexDigit (b / 16), hexDigit (b % 16)]

def isControl (c : Char) : Bool := c.toNat < 0x20 || c.toNat = 0x7F

/-! The parts of a URL, by the characters that are encoded in them beside the controls. -/

def plainMarks : List Char := []

def fragmentMarks : List Char := [' ', '"', '<', '>', '\x60']

def pathMarks : List Char := fragmentMarks ++ ['#', '?', '\x7b', '\x7d']

def queryMarks : List Char := [' ', '"', '#', '<', '>']

/-- A login ends at the last of its marks, a user name at its first colon. -/
def loginMarks : List Char := pathMarks ++ "/:;=@[\\]^|".toList

/-- In a query of the web's own schemes the single quote is encoded as well. -/
def specialQueryMarks : List Char := '\'' :: queryMarks

def encodeChar (marks : List Char) (c : Char) : List Char :=
  if 0x80 ≤ c.toNat ∨ isControl c ∨ c ∈ marks then (Text.utf8Bytes c).flatMap percentByte else [c]

def encode (marks : List Char) (s : List Char) : List Char := s.flatMap (encodeChar marks)

/-- The bytes of a text in which encoded bytes stand for themselves. A `%` without two digits
after it is a character like any other. -/
def decodeBytes : List Char → List Nat
  | '%' :: a :: b :: rest =>
    match Text.hexValue? a, Text.hexValue? b with
    | some high, some low => (16 * high + low) :: decodeBytes rest
    | _, _ => Text.utf8Bytes '%' ++ decodeBytes (a :: b :: rest)
  | c :: rest => Text.utf8Bytes c ++ decodeBytes rest
  | [] => []

/-- The text that is left when encoded bytes are read, if it is one. -/
def decode? (s : List Char) : Option (List Char) := Text.utf8? (decodeBytes s)

end SqlConnector.Url
