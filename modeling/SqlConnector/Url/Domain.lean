import SqlConnector.Text.Cut
import SqlConnector.Url.Domain.Direction
import SqlConnector.Url.Domain.Folding
import SqlConnector.Url.Domain.Joining
import SqlConnector.Url.Percent
import SqlConnector.Url.Punycode

/-!
Domain names in any script. A name is folded and its labels are checked; a label outside ASCII is
then written as a mark and a code. A label that comes as a code is read, so that it has to be one
that would be written.
-/

namespace SqlConnector.Url.Domain

def codeMark : List Char := "xn--".toList

/-- The length of the longest code. -/
def maxCode : Nat := 2000

/-- The length of the longest label outside ASCII. -/
def maxLabel : Nat := 1000

/-- Characters that no domain holds. -/
def isForbidden (c : Char) : Bool := isControl c || c ∈ " %#/:<>?@[\\]^|".toList

/-- The text that a label stands for. -/
def readLabel? (label : List Char) : Option (List Char) :=
  match Text.dropLead? codeMark label with
  | none => some label
  | some code =>
    if code.getLast?.getD '-' = '-' ∨ maxCode < code.length then none
    else (Punycode.decode? code).filter isFolded

/-- Joiners, and marks that have no letter before them, are not everywhere; and a label outside
ASCII has a bound. -/
def isLabel (label : List Char) : Bool :=
  label.all Text.isAscii ||
    (!label.head?.any Text.isMark && joinersStand label && label.length ≤ maxLabel)

def writeLabel (label : List Char) : List Char :=
  if label.all Text.isAscii then label else codeMark ++ Punycode.encode label

/-- The ASCII form of a domain name. -/
def ascii? (name : List Char) : Option (List Char) := do
  let labels ← (Text.split '.' (← fold? name)).mapM readLabel?
  let areLabels := labels.all fun label => isLabel label && !label.any isForbidden
  if areLabels && hasOneWayLabels labels then
    return Text.join ['.'] (labels.map writeLabel)
  else none

end SqlConnector.Url.Domain
