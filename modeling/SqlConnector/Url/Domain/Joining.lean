import SqlConnector.Text.Mark
import SqlConnector.Url.Domain.JoiningData

/-!
The two joiners, characters without a shape of their own that change how letters connect. In a
domain name they stand only where they can be seen: after a sign that leaves a consonant without its
vowel, or, the one that keeps letters apart, between letters that would connect.
-/

namespace SqlConnector.Url.Domain

/-- Keeps letters apart. -/
def nonJoiner : Char := '\u200C'

/-- Connects letters. -/
def joiner : Char := '\u200D'

/-- Marks do not come between letters; one other character counts as a mark here. -/
def isTransparent (c : Char) : Bool :=
  !Text.isAscii c && (Text.isNonspacing c || c.toNat == 0x1E94B)

def connectsToNext (c : Char) : Bool :=
  !Text.isAscii c && (Text.inRanges dualJoiningRanges c || Text.inRanges leftJoiningRanges c)

def connectsToPrevious (c : Char) : Bool :=
  !Text.isAscii c && (Text.inRanges dualJoiningRanges c || Text.inRanges rightJoiningRanges c)

/-- Whether the first character that is not transparent connects. -/
def meetsLetter (connects : Char → Bool) (s : List Char) : Bool :=
  (s.dropWhile isTransparent).head?.any connects

/-- Whether a joiner can stand between the text before it, nearest character first, and the text
after it. -/
def canStand (before : List Char) (c : Char) (after : List Char) : Bool :=
  before.head?.any Text.isVirama ||
    (c == nonJoiner && meetsLetter connectsToNext before && meetsLetter connectsToPrevious after)

def joinersStandFrom (before : List Char) : List Char → Bool
  | [] => true
  | c :: rest =>
    (if c = nonJoiner ∨ c = joiner then canStand before c rest else true) &&
      joinersStandFrom (c :: before) rest

def joinersStand (s : List Char) : Bool := joinersStandFrom [] s

end SqlConnector.Url.Domain
