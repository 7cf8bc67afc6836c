import SqlConnector.Text.MarkData
import SqlConnector.Text.Ranges

/-!
Combining marks, which belong to the letter before them.
-/

namespace SqlConnector.Text

def isNonspacing (c : Char) : Bool := inRanges nonspacingRanges c

def isMark (c : Char) : Bool := !isAscii c && (isNonspacing c || inRanges spacingRanges c)

/-- The class by which a mark is put in order among those of its letter; zero for letters. -/
def combiningClass (c : Char) : Nat :=
  if isAscii c then 0
  else
    match combiningRuns.find? fun (first, last, _) => first ≤ c.toNat && c.toNat ≤ last with
    | some (_, _, mark) => mark
    | none => 0

/-- The class of the signs that leave a consonant without its vowel. -/
def viramaClass : Nat := 9

def isVirama (c : Char) : Bool := combiningClass c == viramaClass

end SqlConnector.Text
