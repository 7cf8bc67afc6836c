import SqlConnector.Json.Number

/-!
A JSON text as it is written. Members keep their order and may repeat a name. A number out of
range and a string or name with half a surrogate pair are written correctly but have no value:
they stand as `none`, which only matters to a reader that asks for them.
-/

namespace SqlConnector.Json

inductive Document where
  | null
  | bool (b : Bool)
  | number (n : Option Number)
  | string (s : Option String)
  | array (items : List Document)
  | object (members : List (Option String × Document))
  deriving Inhabited

namespace Document

/-! Strings: characters that stand for themselves, and escaped code units. -/

inductive Piece where
  | char (c : Char)
  | unit (n : Nat)

def codeUnit? (a b c d : Char) : Option Nat := do
  let a ← Text.hexValue? a
  let b ← Text.hexValue? b
  let c ← Text.hexValue? c
  let d ← Text.hexValue? d
  return 4096 * a + 256 * b + 16 * c + d

/-- The character that a backslash and this letter stand for. -/
def escaped? : Char → Option Char
  | '"' => some '"'
  | '\\' => some '\\'
  | '/' => some '/'
  | 'b' => some '\x08'
  | 'f' => some '\x0c'
  | 'n' => some '\n'
  | 'r' => some '\r'
  | 't' => some '\t'
  | _ => none

/-- The pieces up to the closing quote, and the text after it. -/
def readPieces : List Char → Option (List Piece × List Char)
  | [] => none
  | '"' :: rest => some ([], rest)
  | '\\' :: 'u' :: a :: b :: c :: d :: rest => do
    let n ← codeUnit? a b c d
    let (pieces, rest) ← readPieces rest
    return (.unit n :: pieces, rest)
  | '\\' :: e :: rest => do
    let c ← escaped? e
    let (pieces, rest) ← readPieces rest
    return (.char c :: pieces, rest)
  | c :: rest =>
    if c.toNat < 0x20 then none
    else do
      let (pieces, rest) ← readPieces rest
      return (.char c :: pieces, rest)

/-- The text of the pieces; a leading surrogate needs a trailing one right after it. -/
def join? : List Piece → Option (List Char)
  | [] => some []
  | .char c :: rest => (join? rest).map (c :: ·)
  | [.unit n] => if n < 0xD800 ∨ 0xE000 ≤ n then some [Char.ofNat n] else none
  | .unit n :: .char c :: rest =>
    if n < 0xD800 ∨ 0xE000 ≤ n then (join? (.char c :: rest)).map (Char.ofNat n :: ·) else none
  | .unit n :: .unit m :: rest =>
    if n < 0xD800 ∨ 0xE000 ≤ n then (join? (.unit m :: rest)).map (Char.ofNat n :: ·)
    else if n < 0xDC00 ∧ 0xDC00 ≤ m ∧ m < 0xE000 then
      (join? rest).map (Char.ofNat (0x10000 + (n - 0xD800) * 0x400 + (m - 0xDC00)) :: ·)
    else none

def stringOf (pieces : List Piece) : Option String := (join? pieces).map String.ofList

/-! Tokens. -/

inductive Token where
  | openArray
  | closeArray
  | openObject
  | closeObject
  | colon
  | comma
  | null
  | bool (b : Bool)
  | number (n : Option Number)
  | string (s : Option String)

def isSpace (c : Char) : Bool := c = ' ' || c = '\t' || c = '\n' || c = '\r'

/-- The first token of a text that does not begin with white space. -/
def readToken : List Char → Option (Token × List Char)
  | '[' :: rest => some (.openArray, rest)
  | ']' :: rest => some (.closeArray, rest)
  | '\x7b' :: rest => some (.openObject, rest)
  | '\x7d' :: rest => some (.closeObject, rest)
  | ':' :: rest => some (.colon, rest)
  | ',' :: rest => some (.comma, rest)
  | 'n' :: 'u' :: 'l' :: 'l' :: rest => some (.null, rest)
  | 't' :: 'r' :: 'u' :: 'e' :: rest => some (.bool true, rest)
  | 'f' :: 'a' :: 'l' :: 's' :: 'e' :: rest => some (.bool false, rest)
  | '"' :: rest => (readPieces rest).map fun (pieces, rest) => (.string (stringOf pieces), rest)
  | s => (Numeral.read s).map fun (numeral, rest) => (.number numeral.number?, rest)

/-- All tokens of a text. A token takes at least one character, so the length of the text bounds
their number. -/
def tokens (s : List Char) : Option (List Token) := go s.length (s.dropWhile isSpace)
where
  go : Nat → List Char → Option (List Token)
    | _, [] => some []
    | 0, _ :: _ => none
    | n + 1, c :: rest => do
      let (token, rest) ← readToken (c :: rest)
      let others ← go n (rest.dropWhile isSpace)
      return token :: others

/-! The tree of the tokens. -/

/-- A container that is open: what it holds so far, the latest first. -/
inductive Frame where
  | array (done : List Document)
  | member (done : List (Option String × Document)) (name : Option String)

/-- What has been read of the innermost value, or what has to come next. -/
inductive Phase where
  | value
  | firstItem
  | firstName
  | name (done : List (Option String × Document))
  | colon (done : List (Option String × Document)) (name : Option String)
  | filled (d : Document)

/-- What a token begins where a value has to come. -/
def Phase.start? : Token → Option Phase
  | .null => some (.filled .null)
  | .bool b => some (.filled (.bool b))
  | .number n => some (.filled (.number n))
  | .string s => some (.filled (.string s))
  | .openArray => some .firstItem
  | .openObject => some .firstName
  | _ => none

def step? : Phase → List Frame → Token → Option (Phase × List Frame)
  | .value, frames, t => (Phase.start? t).map (·, frames)
  | .firstItem, frames, .closeArray => some (.filled (.array []), frames)
  | .firstItem, frames, t => (Phase.start? t).map (·, .array [] :: frames)
  | .firstName, frames, .closeObject => some (.filled (.object []), frames)
  | .firstName, frames, .string name => some (.colon [] name, frames)
  | .name done, frames, .string name => some (.colon done name, frames)
  | .colon done name, frames, .colon => some (.value, .member done name :: frames)
  | .filled d, .array done :: frames, .comma => some (.value, .array (d :: done) :: frames)
  | .filled d, .array done :: frames, .closeArray =>
    some (.filled (.array (d :: done).reverse), frames)
  | .filled d, .member done name :: frames, .comma => some (.name ((name, d) :: done), frames)
  | .filled d, .member done name :: frames, .closeObject =>
    some (.filled (.object ((name, d) :: done).reverse), frames)
  | _, _, _ => none

def ofTokens? : Phase → List Frame → List Token → Option Document
  | .filled d, [], [] => some d
  | _, _, [] => none
  | phase, frames, t :: ts =>
    match step? phase frames t with
    | some (phase, frames) => ofTokens? phase frames ts
    | none => none

def read? (s : List Char) : Option Document := (tokens s).bind (ofTokens? .value [])

end Document

end SqlConnector.Json
