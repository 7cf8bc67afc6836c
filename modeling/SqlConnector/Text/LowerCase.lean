import SqlConnector.Text.CaseData

/-!
Lower-casing by Unicode's rules. Two letters need more than a partner: `İ` becomes an `i` with a
dot above, and a capital sigma becomes `ς` at the end of a word and `σ` elsewhere. A sigma ends a
word when the nearest letter before it is cased and the nearest after it is not, marks such as
accents and apostrophes being passed over.
-/

namespace SqlConnector.Text

def isCased (c : Char) : Bool := inRanges casedRanges c

def isCaseIgnorable (c : Char) : Bool := inRanges caseIgnorableRanges c

/-- The lower-case partner of a single letter, itself when it has none. -/
def lowerPartner (c : Char) : Char :=
  if isAscii c then c.toLower else (shifted? lowerRuns c).getD c

/-- Whether the first letter that is no mark is cased. -/
def meetsCased : List Char → Bool
  | [] => false
  | c :: rest => if isCaseIgnorable c then meetsCased rest else isCased c

/-- The lower-case form of one letter between the text before it, nearest letter first, and the
text after it. -/
def lowerIn (before : List Char) (c : Char) (after : List Char) : List Char :=
  if c = 'İ' then ['i', '\u0307']
  else if c = 'Σ' then
    if meetsCased before && !meetsCased after then ['ς'] else ['σ']
  else [lowerPartner c]

def lowerFrom (before : List Char) : List Char → List Char
  | [] => []
  | c :: rest => lowerIn before c rest ++ lowerFrom (c :: before) rest

def lower (s : List Char) : List Char := lowerFrom [] s

end SqlConnector.Text
