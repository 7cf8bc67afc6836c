import SqlConnector.Text.Cut
import SqlConnector.Url.Percent

/-!
Paths of URLs. A path that begins with a slash is a list of segments, and `.` and `..` lead through
them; any other is a text as it stands. A segment such as `C:` is a drive, which `..` does not lead
out of. A file's path has a colon after the drive that it begins with, and no empty segments in
front.
-/

namespace SqlConnector.Url

inductive Path where
  | rooted (segments : List (List Char))
  | plain (text : List Char)
  deriving DecidableEq, Repr

/-- Web schemes have two slashes. -/
def isSlash (web : Bool) (c : Char) : Bool := c = '/' || (web && c = '\\')

def isSingleDot (segment : List Char) : Bool :=
  String.ofList (segment.map Char.toLower) ∈ [".", "%2e"]

def isDoubleDot (segment : List Char) : Bool :=
  String.ofList (segment.map Char.toLower) ∈ ["..", ".%2e", "%2e.", "%2e%2e"]

/-- A letter and a colon or a bar, and no more before the next backslash. -/
def isDrive : List Char → Bool
  | c :: d :: rest => c.isAlpha && (d = ':' || d = '|') && rest.head?.getD '\\' = '\\'
  | _ => false

/-- One segment up, for segments in reverse. -/
def parent : List (List Char) → List (List Char)
  | [] => []
  | segment :: up => if isDrive segment then segment :: up else up

/-- Goes down to a segment. -/
def down (ofFile : Bool) (up : List (List Char)) (segment : List Char) : List (List Char) :=
  if ofFile ∧ up = [] ∧ isDrive segment then [segment.take 1 ++ [':']] else segment :: up

/-- Goes down the segments, the ones so far in reverse: a single dot stays, a double dot goes back
up. At the end both leave an empty segment. -/
def resolve (ofFile : Bool) (up : List (List Char)) : List (List Char) → List (List Char)
  | [] => up.reverse
  | [segment] =>
    if isDoubleDot segment then ([] :: parent up).reverse
    else if isSingleDot segment then ([] :: up).reverse
    else (down ofFile up segment).reverse
  | segment :: rest =>
    if isDoubleDot segment then resolve ofFile (parent up) rest
    else if isSingleDot segment then resolve ofFile up rest
    else resolve ofFile (down ofFile up segment) rest

/-- The segments of a text, as they are written. -/
def segmentsOf (web : Bool) (s : List Char) : List (List Char) :=
  Text.split '/' (encode pathMarks (if web then s.map fun c => if c = '\\' then '/' else c else s))

namespace Path

/-- The path of a text whose first slash has been taken off. -/
def below (web : Bool) (s : List Char) : Path := .rooted (resolve false [] (segmentsOf web s))

/-- The path after a host: a web URL has one in any case. -/
def afterHost (web : Bool) : List Char → Path
  | [] => if web then .rooted [[]] else .rooted []
  | _ :: rest => below web rest

/-- The path of a URL without a host. -/
def hostless : List Char → Path
  | '/' :: rest => below false rest
  | s => .plain (encode plainMarks s)

/-- The path of a file, and whether it begins with a drive. -/
def ofFile (s : List Char) : Path × Bool :=
  let segments := resolve true [] (segmentsOf true s)
  let kept := segments.dropWhile (· = [])
  (.rooted (if kept = [] then [[]] else kept), segments.head?.any isDrive)

def text : Path → List Char
  | rooted segments => segments.flatMap ('/' :: ·)
  | plain text => text

end Path

end SqlConnector.Url
