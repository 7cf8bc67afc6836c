import SqlConnector.Url.Host
import SqlConnector.Url.Path

/-!
Absolute URLs. A text is read into its parts, which are brought into their one written form: the
scheme in lower case, no default port, no `.` and `..` segments, everything else percent-encoded
where it has to be.
-/

namespace SqlConnector

namespace Url

/-- A user name, and a password if there is one, as they are written. -/
structure Login where
  name : List Char
  password : Option (List Char)
  deriving DecidableEq, Repr

end Url

structure Url where
  scheme : String
  login : Option Url.Login
  host : Option Url.Host
  port : Option Nat
  path : Url.Path
  query : Option (List Char)
  fragment : Option (List Char)
  deriving DecidableEq, Repr

namespace Url

/-- The schemes of the web, with their default ports. -/
def webPorts : List (String × Nat) :=
  [("http", 80), ("https", 443), ("ws", 80), ("wss", 443), ("ftp", 21)]

def isWeb (scheme : String) : Bool := (webPorts.lookup scheme).isSome || scheme = "file"

def defaultPort? (scheme : String) : Option Nat := webPorts.lookup scheme

/-! Logins. -/

/-- A password begins after the first colon; an empty one is none. -/
def Login.ofText? (s : List Char) : Option Login :=
  match Text.cut ':' s with
  | some ([], []) => none
  | some (name, []) => some ⟨encode loginMarks name, none⟩
  | some (name, password) => some ⟨encode loginMarks name, some (encode loginMarks password)⟩
  | none => if s = [] then none else some ⟨encode loginMarks s, none⟩

/-- A login is sent apart from the URL when its name is text, and there is a name or else a password
that is text. -/
def Login.isSentApart (login : Login) : Bool :=
  (decode? login.name).isSome &&
    (login.name ≠ [] || login.password.any fun password => (decode? password).isSome)

def Login.text (login : Login) : List Char :=
  match login.password with
  | some password => login.name ++ ':' :: password ++ ['@']
  | none => login.name ++ ['@']

/-! Reading. -/

/-- The text without control characters and spaces around it, and without tabs and line ends. -/
def cleaned (s : List Char) : List Char :=
  let outer (c : Char) : Bool := c.toNat ≤ 0x20
  let s := ((s.dropWhile outer).reverse.dropWhile outer).reverse
  s.filter fun c => c ≠ '\t' ∧ c ≠ '\n' ∧ c ≠ '\r'

def isSchemeChar (c : Char) : Bool := c.isAlphanum || c = '+' || c = '-' || c = '.'

/-- The scheme, and what follows its colon. -/
def splitScheme (s : List Char) : Option (String × List Char) :=
  match Text.cut ':' s with
  | some (scheme, rest) =>
    if (scheme.head?.any Char.isAlpha) && scheme.all isSchemeChar then
      some (String.ofList (scheme.map Char.toLower), rest)
    else none
  | none => none

/-- The path, the query after the first `?` and the fragment after the first `#`. -/
def splitTail (s : List Char) : List Char × Option (List Char) × Option (List Char) :=
  let (s, fragment) :=
    match Text.cut '#' s with
    | some (s, fragment) => (s, some fragment)
    | none => (s, none)
  match Text.cut '?' s with
  | some (path, query) => (path, some query, fragment)
  | none => (s, none, fragment)

/-- The text before the last `@`, if there is one, and the text after it. -/
def splitLogin (authority : List Char) : Option (List Char) × List Char :=
  match Text.cutLast '@' authority with
  | some (login, rest) => (some login, rest)
  | none => (none, authority)

/-- The host and what follows it, which begins with the colon of a port if there is one. Colons
in brackets belong to the host. -/
def splitHost (inBrackets : Bool) : List Char → List Char × List Char
  | [] => ([], [])
  | c :: rest =>
    if c = ':' ∧ !inBrackets then ([], c :: rest)
    else
      let (host, after) := splitHost ((inBrackets || c = '[') && c ≠ ']') rest
      (c :: host, after)

/-- The number of a port after its colon, and the text from a backslash on; a colon alone is no
port. -/
def port? : List Char → Option (Option Nat × List Char)
  | ':' :: s =>
    let (digits, after) := Text.spanDigits s
    if after.head?.getD '\\' ≠ '\\' then none
    else if digits = [] then some (none, after)
    else (Text.unsigned? UInt16.size digits).map fun n => (some n, after)
  | s => if s = [] then some (none, []) else none

def host? (web : Bool) (s : List Char) : Option Host :=
  if web then Host.parseWeb? s else Host.parseOther? s

/-- Outside the web a host may be left out when there is nothing that needs one: no port, no login,
and no login's mark with something else behind it. -/
def canLackHost (login : Option (List Char)) (port : List Char) (isEnd : Bool) : Bool :=
  port = [] && (login.bind Login.ofText?).isNone && (login ≠ some [] || isEnd)

/-- What follows the scheme: who asks, where, and for what. -/
structure Hierarchy where
  login : Option Login
  host : Option Host
  port : Option Nat
  path : Path

/-- The hierarchy that follows two slashes; `isEnd` when neither a query nor a fragment follows. -/
def ofAuthority? (scheme : String) (isEnd : Bool) (s : List Char) : Option Hierarchy := do
  let web := isWeb scheme
  let path := s.dropWhile (!isSlash web ·)
  let (login, place) := splitLogin (s.takeWhile (!isSlash web ·))
  let (hostText, portText) := splitHost false place
  if hostText = [] ∧ (web ∨ !canLackHost login portText (isEnd && path = [])) then none
  let host ← host? web hostText
  let (port, after) ← port? portText
  return {
    login := login.bind Login.ofText?
    host
    port := port.filter (some · ≠ defaultPort? scheme)
    path := Path.afterHost web (if after = [] then path else '/' :: after ++ path) }

/-- The place of files on no host in particular. -/
def noHost : Host := .domain []

/-- A file's host may be left out, and so may one or both of the slashes before it. A drive needs no
host, and the machine at hand is none. -/
def ofFile? (s : List Char) : Option Hierarchy :=
  let onHost (host : Host) (s : List Char) : Hierarchy :=
    let (path, hasDrive) := Path.ofFile s
    ⟨none, some (if hasDrive then noHost else host), none, path⟩
  match s with
  | a :: b :: rest =>
    if isSlash true a ∧ isSlash true b then
      let hostText := rest.takeWhile (!isSlash true ·)
      let path := rest.dropWhile (!isSlash true ·)
      if isDrive hostText then some (onHost noHost rest)
      else if hostText = [] then some (onHost noHost path)
      else
        (Host.parseWeb? hostText).map fun host =>
          if host = .domain "localhost".toList then onHost noHost path
          else onHost host (path.drop 1)
    else some (onHost noHost (if isSlash true a then s.drop 1 else s))
  | _ => some (onHost noHost (if s.any (isSlash true) then s.drop 1 else s))

def ofHierarchy? (scheme : String) (isEnd : Bool) (s : List Char) : Option Hierarchy :=
  if scheme = "file" then ofFile? s
  else if isWeb scheme then ofAuthority? scheme isEnd (s.dropWhile (isSlash true))
  else
    match Text.dropLead? ['/', '/'] s with
    | some rest => ofAuthority? scheme isEnd rest
    | none => some ⟨none, none, none, Path.hostless s⟩

def parse? (text : String) : Option Url := do
  let (scheme, s) ← splitScheme (cleaned text.toList)
  let (s, query, fragment) := splitTail s
  let ⟨login, host, port, path⟩ ← ofHierarchy? scheme (query.isNone && fragment.isNone) s
  let marks := if isWeb scheme then specialQueryMarks else queryMarks
  return { scheme, login, host, port, path
           query := query.map (encode marks)
           fragment := fragment.map (encode fragmentMarks) }

/-! Writing. -/

def loginText (login : Option Login) : List Char :=
  match login with
  | some login => login.text
  | none => []

def portText (port : Option Nat) : List Char :=
  match port with
  | some n => ':' :: Text.digits n
  | none => []

/-- A path of two slashes has a dot before it, so that it is not read as a host. -/
def hierarchyText (u : Url) : List Char :=
  match u.host with
  | some host => ['/', '/'] ++ loginText u.login ++ host.text ++ portText u.port ++ u.path.text
  | none =>
    match u.path.text with
    | '/' :: '/' :: rest => ['/', '.', '/', '/'] ++ rest
    | path => path

def queryText (query : Option (List Char)) : List Char :=
  match query with
  | some query => '?' :: query
  | none => []

def fragmentText (fragment : Option (List Char)) : List Char :=
  match fragment with
  | some fragment => '#' :: fragment
  | none => []

def withoutFragment (u : Url) : Url := { u with fragment := none }

/-- The URL without a login that is sent apart from it. -/
def withoutLogin (u : Url) : Url := { u with login := u.login.filter (!·.isSentApart) }

def text (u : Url) : String :=
  String.ofList (u.scheme.toList ++ ':' :: u.hierarchyText ++ queryText u.query ++
    fragmentText u.fragment)

/-! Requests. -/

/-- What a request asks its server for. -/
def target (u : Url) : String := String.ofList (u.path.text ++ queryText u.query)

def maxLength : Nat := 65534

/-- Characters of hosts that no request can name. -/
def isRefusedInHost (c : Char) : Bool := c ∈ "\"\x60\x7b\x7d".toList

/-- Whether a request can be made of a URL: it is not too long, and its host can be named. -/
def isRequestable (u : Url) : Bool :=
  (u.scheme = "http" || u.scheme = "https") && u.text.length ≤ maxLength &&
    u.host.any (!·.text.any isRefusedInHost)

end Url

end SqlConnector
