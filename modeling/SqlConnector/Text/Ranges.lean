/-!
Sets and maps of characters, given by runs of code points.
-/

namespace SqlConnector.Text

def isAscii (c : Char) : Bool := c.toNat < 0x80

def inRanges (ranges : List (Nat × Nat)) (c : Char) : Bool :=
  ranges.any fun (first, last) => first ≤ c.toNat && c.toNat ≤ last

/-- The code points `first`, `first + step`, up to `last`, each of which goes with the one that
lies `shift` further on. -/
structure ShiftRun where
  first : Nat
  last : Nat
  step : Nat
  shift : Int

def ShiftRun.contains (r : ShiftRun) (n : Nat) : Bool :=
  r.first ≤ n && n ≤ r.last && (n - r.first) % r.step == 0

/-- The character that goes with `c` by the first run that has it. -/
def shifted? (runs : List ShiftRun) (c : Char) : Option Char :=
  (runs.find? (·.contains c.toNat)).map fun run => Char.ofNat ((c.toNat : Int) + run.shift).toNat

/-- What is listed for `c`, in runs of neighbouring characters by their first. -/
def listed? {α : Type} (runs : List (Nat × List α)) (c : Char) : Option α :=
  runs.findSome? fun (first, entries) =>
    if first ≤ c.toNat then entries[c.toNat - first]? else none

end SqlConnector.Text
