import SqlConnector.Text.Cut
import SqlConnector.Url.Domain
import SqlConnector.Url.Percent

/-!
Hosts of URLs. A host in brackets is an IPv6 address. Any other host of a web scheme is a domain,
or an IPv4 address when its last label is a number; the numbers of an address may be decimal, octal
or hexadecimal, and the last of fewer than four fills the bytes that are left. Hosts of other
schemes are kept as they are.
-/

namespace SqlConnector.Url

inductive Host where
  | domain (name : List Char)
  | ipv4 (address : Nat)
  | ipv6 (pieces : List Nat)
  | other (name : List Char)
  deriving DecidableEq, Repr

/-! IPv4 addresses. -/

/-- The value of digits in some base, none when one of them is no digit of it. -/
def ofBase? (base : Nat) (s : List Char) : Option Nat :=
  s.foldlM
    (fun n c => (Text.hexValue? c).bind fun d => if d < base then some (base * n + d) else none) 0

def number? : List Char → Option Nat
  | [] => none
  | ['0'] => some 0
  | '0' :: 'x' :: s => ofBase? 16 s
  | '0' :: 'X' :: s => ofBase? 16 s
  | '0' :: s => ofBase? 8 s
  | s => ofBase? 10 s

/-- The labels of a name, without an empty one at its end. -/
def labels (name : List Char) : List (List Char) :=
  let parts := Text.split '.' name
  if 1 < parts.length ∧ parts.getLast? = some [] then parts.dropLast else parts

def endsInNumber (name : List Char) : Bool :=
  match (labels name).getLast? with
  | some label => Text.isNumeral label || (number? label).isSome
  | none => false

/-- Numbers of one byte, then one number for all bytes that are left. -/
def addressOf? (numbers : List Nat) : Option Nat :=
  match numbers.reverse with
  | [] => none
  | last :: firsts =>
    let unit := Nat.pow 256 (4 - firsts.length)
    if firsts.length ≤ 3 ∧ firsts.all (· < 256) ∧ last < unit then
      some (firsts.reverse.foldl (fun n b => 256 * n + b) 0 * unit + last)
    else none

def ipv4? (name : List Char) : Option Nat := ((labels name).mapM number?).bind addressOf?

def ipv4Text (address : Nat) : List Char :=
  Text.join ['.'] (([16777216, 65536, 256, 1].map fun unit => Text.digits (address / unit % 256)))

/-! IPv6 addresses. -/

/-- One to four hexadecimal digits. -/
def piece? (s : List Char) : Option Nat :=
  if s = [] ∨ 4 < s.length then none else ofBase? 16 s

/-- A byte in decimal, without leading zeros. -/
def byte? (s : List Char) : Option Nat :=
  if s = ['0'] ∨ s.head? ≠ some '0' then Text.unsigned? 256 s else none

/-- Two pieces written as an IPv4 address of four decimal bytes. -/
def dotted? (s : List Char) : Option (List Nat) :=
  match (Text.split '.' s).mapM byte? with
  | some [a, b, c, d] => some [256 * a + b, 256 * c + d]
  | _ => none

/-- Pieces with colons between them; the last may be dotted where `tail` allows it. -/
def pieces? (tail : Bool) (s : List Char) : Option (List Nat) :=
  if s = [] then some []
  else
    match (Text.split ':' s).reverse with
    | [] => none
    | last :: firsts => do
      let firsts ← firsts.reverse.mapM piece?
      let last ← ((piece? last).map ([·])).orElse fun _ => if tail then dotted? last else none
      return firsts ++ last

/-- The texts before and after the first double colon. -/
def cutDouble : List Char → Option (List Char × List Char)
  | ':' :: ':' :: rest => some ([], rest)
  | c :: rest => (cutDouble rest).map fun (before, after) => (c :: before, after)
  | [] => none

/-- Eight pieces, or fewer with a double colon in the place of the zeros that are left out. -/
def ipv6? (s : List Char) : Option (List Nat) :=
  match cutDouble s with
  | some (before, after) => do
    let first ← pieces? false before
    let last ← pieces? true after
    let count := first.length + last.length
    if count ≤ 7 then some (first ++ List.replicate (8 - count) 0 ++ last) else none
  | none => (pieces? true s).bind fun pieces => if pieces.length = 8 then some pieces else none

/-- The length of the run of zeros that a list begins with. -/
def zeroRun (pieces : List Nat) : Nat := (pieces.takeWhile (· = 0)).length

/-- The first of the longest runs of zeros, as its start and its length. -/
def longestZeros (pieces : List Nat) : Nat × Nat :=
  (List.range pieces.length).foldl
    (fun best i =>
      let run := zeroRun (pieces.drop i)
      if best.2 < run then (i, run) else best)
    (0, 0)

def pieceText (n : Nat) : List Char := Nat.toDigits 16 n

/-- Lower-case pieces, with the longest run of two or more zeros left out. -/
def ipv6Text (pieces : List Nat) : List Char :=
  let (start, count) := longestZeros pieces
  if count < 2 then Text.join [':'] (pieces.map pieceText)
  else
    Text.join [':'] ((pieces.take start).map pieceText) ++ [':', ':'] ++
      Text.join [':'] ((pieces.drop (start + count)).map pieceText)

/-! Hosts. -/

/-- Characters that no other host holds. -/
def isForbiddenInHost (c : Char) : Bool := c ∈ "\x00\t\n\r #/:<>?@[\\]^|".toList

/-- The domain of a text with encoded bytes. -/
def domain? (s : List Char) : Option (List Char) :=
  ((decode? s).bind Domain.ascii?).filter (· ≠ [])

def bracketed? : List Char → Option (List Char)
  | '[' :: rest => some rest
  | _ => none

namespace Host

def parseIpv6? (s : List Char) : Option Host :=
  ((Text.dropEnd? [']'] s).bind ipv6?).map .ipv6

/-- The host of a web scheme. -/
def parseWeb? (s : List Char) : Option Host :=
  match bracketed? s with
  | some rest => parseIpv6? rest
  | none =>
    (domain? s).bind fun name =>
      if endsInNumber name then (ipv4? name).map .ipv4 else some (.domain name)

/-- The host of any other scheme, which may be empty. -/
def parseOther? (s : List Char) : Option Host :=
  match bracketed? s with
  | some rest => parseIpv6? rest
  | none => if s.any isForbiddenInHost then none else some (.other (encode plainMarks s))

def text : Host → List Char
  | domain name => name
  | ipv4 address => ipv4Text address
  | ipv6 pieces => '[' :: ipv6Text pieces ++ [']']
  | other name => name

end Host

end SqlConnector.Url
