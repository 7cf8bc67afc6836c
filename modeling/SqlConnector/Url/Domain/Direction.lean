import SqlConnector.Text.Mark
import SqlConnector.Url.Domain.DirectionData

/-!
Writing directions in domain names. When some character of a name is written from right to left,
each of its labels has to begin with a letter, which gives the direction of the label, and may hold
only what can be read in one way in that direction.
-/

namespace SqlConnector.Url.Domain

inductive Direction where
  | rightward
  | leftward
  | european
  | arabic
  | neutral
  | mark
  deriving DecidableEq, Repr

/-- Nonspacing marks that count as letters all the same. -/
def letterMarks : List Char :=
  ['\u0CBF', '\u0CC6', Char.ofNat 0x11A07, Char.ofNat 0x11A08, Char.ofNat 0x11C3F]

def Direction.ofChar (c : Char) : Direction :=
  if Text.isAscii c then
    if c.isAlpha then rightward else if c.isDigit then european else neutral
  else if Text.inRanges leftwardRanges c then leftward
  else if Text.inRanges arabicNumberRanges c then arabic
  else if Text.inRanges europeanNumberRanges c then european
  else if Text.inRanges neutralRanges c then neutral
  else if Text.isNonspacing c && c ∉ letterMarks then mark
  else rightward

/-- Whether a character makes the directions of a name matter. -/
def Direction.isTurn : Direction → Bool
  | leftward => true
  | arabic => true
  | _ => false

def dropEndMarks (s : List Direction) : List Direction :=
  (s.reverse.dropWhile (· == .mark)).reverse

/-- A label is read in one way: from left to right without anything that runs the other way, or
from right to left with digits of one kind. It ends in a letter or a digit, marks aside. -/
def isOneWay : List Direction → Bool
  | [] => true
  | .rightward :: rest =>
    let last := ((dropEndMarks rest).getLast?).getD .rightward
    rest.all (!·.isTurn) && (last == .rightward || last == .european)
  | .leftward :: rest =>
    let last := ((dropEndMarks rest).getLast?).getD .leftward
    rest.all (· != .rightward) && last != .neutral &&
      !(rest.contains .european && rest.contains .arabic)
  | _ => false

def hasOneWayLabels (labels : List (List Char)) : Bool :=
  let directions := labels.map (·.map Direction.ofChar)
  !directions.any (·.any Direction.isTurn) || directions.all isOneWay

end SqlConnector.Url.Domain
