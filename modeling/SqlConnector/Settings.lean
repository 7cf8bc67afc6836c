import SqlConnector.Json.Record
import SqlConnector.Location

/-!
Connection settings, and the session that they stand for. Empty settings count as missing ones.
-/

namespace SqlConnector

structure Settings where
  host : Option String := none
  user : Option String := none
  source : Option String := none
  catalog : Option String := none
  schema : Option String := none
  buffer : UInt64 := 16
  deriving DecidableEq, Repr

/-- Who asks, and what for. -/
structure Session where
  user : String
  source : String
  catalog : String
  schema : Option String
  deriving DecidableEq, Repr

namespace Settings

def names : List String := ["host", "user", "source", "catalog", "schema", "buffer"]

open Json.Record in
/-- Every field may be left out; of an array, the last ones. -/
def ofJson? (d : Json.Document) : Option Settings := do
  match ← fields? .optional names d with
  | [host, user, source, catalog, schema, buffer] =>
    let buffer ← orElse? 16 (integer? 0 (Json.Number.unsignedBound - 1)) buffer
    return {
      host := ← maybe? string? host
      user := ← maybe? string? user
      source := ← maybe? string? source
      catalog := ← maybe? string? catalog
      schema := ← maybe? string? schema
      buffer := UInt64.ofNat buffer.toNat }
  | _ => none

/-- A text that is there and not empty. -/
def filled (s : Option String) : Option String := s.filter (· ≠ "")

def session (s : Settings) : Session where
  user := (filled s.user).getD "default_user"
  source := (filled s.source).getD "default_source"
  catalog := (filled s.catalog).getD "hive"
  schema := filled s.schema

def defaultPort : UInt16 := 8889

end Settings

end SqlConnector
