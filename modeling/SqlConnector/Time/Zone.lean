/-!
Names of time zones. `UTC` is known by two names and prints as one of them; any other name is
kept as it was given, and holds only letters, digits and the marks `/ _ + -`, so that it can stand
between quotes as it is.
-/

namespace SqlConnector

namespace Zone

def isNameChar (c : Char) : Bool :=
  c.isAlphanum || c = '/' || c = '_' || c = '+' || c = '-'

def utcNames : List String := ["UTC", "Etc/UTC"]

end Zone

inductive Zone where
  | utc
  | named (name : String) (not_empty : name ≠ "") (not_utc : name ∉ Zone.utcNames)
      (chars : ∀ c ∈ name.toList, Zone.isNameChar c)
  deriving DecidableEq

inductive ZoneError where
  | empty
  | invalidCharacter (name : String) (character : Char)
  deriving DecidableEq, Repr

def ZoneError.message : ZoneError → String
  | .empty => "time zone name is empty"
  | .invalidCharacter name c =>
    "invalid character '" ++ c.toString ++ "' in time zone '" ++ name ++ "'"

namespace Zone

theorem isNameChar_of_find?_eq_none {s : List Char} (h : s.find? (!isNameChar ·) = none) :
    ∀ c ∈ s, isNameChar c := by
  simpa using h

def ofName (name : String) : Except ZoneError Zone :=
  if he : name = "" then .error .empty
  else if hu : name ∈ utcNames then .ok .utc
  else
    match h : name.toList.find? (!isNameChar ·) with
    | some c => .error (.invalidCharacter name c)
    | none => .ok (.named name he hu (isNameChar_of_find?_eq_none h))

def name : Zone → String
  | utc => "UTC"
  | named name .. => name

end Zone

end SqlConnector
