import SqlConnector.Text.Composition
import SqlConnector.Url.Domain.FoldingData

/-!
Folding: the one form of a domain name among those that are taken for the same. Letters are in lower
case, variants of a character are that character, and letters and marks are composed. Every ASCII
character can be folded, and of the others those that a name may hold.
-/

namespace SqlConnector.Url.Domain

/-- The one other character that a character stands for. -/
def foldedLetter? (c : Char) : Option Char :=
  (Text.shifted? foldRuns c).orElse fun _ =>
    ([foldLetters, foldIdeographs, foldRareIdeographs].findSome? (Text.listed? · c)).map Char.ofNat

/-- The several characters that a character stands for. -/
def foldedText? (c : Char) : Option (List Char) := (Text.listed? foldTexts c).map (·.map Char.ofNat)

/-- What a character stands for, nothing perhaps; none when it can not be used. -/
def foldChar? (c : Char) : Option (List Char) :=
  if Text.isAscii c then some [c.toLower]
  else if Text.inRanges droppedRanges c then some []
  else
    match foldedLetter? c, foldedText? c with
    | some d, _ => some [d]
    | none, some text => some text
    | none, none => if Text.inRanges allowedRanges c then some [c] else none

def fold? (s : List Char) : Option (List Char) :=
  (s.mapM foldChar?).map fun parts => Text.composed parts.flatten

/-- Whether folding leaves a text as it is. -/
def isFolded (s : List Char) : Bool :=
  s.all (fun c => foldChar? c == some [c]) && Text.composed s == s

end SqlConnector.Url.Domain
