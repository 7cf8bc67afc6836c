import SqlConnector.Proofs.Catalog.Inquiring
import SqlConnector.Proofs.Rehearsal
import SqlConnector.Proofs.Sql.Quoting

/-!
The texts that are sent for the calls of a table. Names come into them as quoted tokens, so that no
name can add a token to a text, take one away or change another: a text is the same tokens for all
names, but for those that say the names.
-/

namespace SqlConnector.Catalog

open Rehearsal (Script Sighting Log)
open Sql (EndsApart Lexeme Tokenizes)

/-! ### What is sent -/

/-- The texts that the client of a script is sent for a call. -/
def Table.sent (t : Table Sighting) (call : Call) : List String :=
  (Log.ofNotes (t.call call).1).queries

/-- For a call that asks one question the client is sent this question, and it once. -/
theorem Table.sent_eq {c : Connector} {location : Location}
    (hlocate : c.locator.locate = .ok location) (steps : List Rehearsal.Step) (name : String)
    {call : Call} {query : String}
    (h : Table.query? ⟨c, (Script.playing steps).client, name⟩ call = some query) :
    Table.sent ⟨c, (Script.playing steps).client, name⟩ call = [query] := by
  obtain ⟨⟨query', answer⟩, hinquiry, hquery⟩ := Option.map_eq_some_iff.mp h
  obtain rfl : query' = query := hquery
  have hends : (c.execute (Script.playing steps).client query').Ends
      (c.collect (Script.playing steps).client query').1 :=
    Execution.ends_drain_leave (Execution.sound_start _ _ c.capacity_pos)
  rw [Table.sent, Table.call_eq hinquiry, Rehearsal.log_of_ends hends]
  exact Log.queries_ofTexts hlocate steps [query'] _

/-! ### The tokens of the texts -/

/-- The tokens of the question for the columns of a table. -/
def columnsTokens (table : String) : List Lexeme :=
  [.word "SELECT", .word "c.column_name", .word "AS", .quoted .double "name", .mark ',',
    .word "c.data_type", .word "AS", .quoted .double "sqlType", .mark ',',
    .word "null", .word "AS", .quoted .double "arrayType",
    .word "FROM", .word "information_schema.columns", .word "c",
    .word "WHERE", .word "table_name", .mark '=', .quoted .single table]

/-- The tokens of the question for the tables of a schema. -/
def tablesTokens : Option String → List Lexeme
  | some schema => [.word "SHOW", .word "TABLES", .word "FROM", .quoted .double schema]
  | none => [.word "SHOW", .word "TABLES"]

/-- The tokens of the question for the latest time in a table. -/
def maxTimeTokens (column table : String) : List Lexeme :=
  [.word "SELECT", .word "MAX", .mark '(', .quoted .double column, .mark ')',
    .word "AS", .quoted .double maxTimeName, .word "FROM", .quoted .double table]

theorem tokenizes_columnsQuery (table : String) :
    Tokenizes (columnsQuery table) (columnsTokens table) := by
  let before :=
    "SELECT c.column_name AS \"name\", c.data_type AS \"sqlType\", null AS \"arrayType\" " ++
      "FROM information_schema.columns c WHERE table_name = "
  -- both facts at once, as it is going over the text that takes the time
  obtain ⟨hbefore, hends⟩ : Tokenizes before (columnsTokens "").dropLast ∧ EndsApart before := by
    decide +kernel
  exact hbefore.quote_last hends .single table

theorem tokenizes_tablesQuery (schema : Option String) :
    Tokenizes (tablesQuery schema) (tablesTokens schema) := by
  cases schema with
  | none => decide +kernel
  | some schema =>
      have hbefore : Tokenizes "SHOW TABLES FROM " (tablesTokens none ++ [.word "FROM"]) := by
        decide +kernel
      exact hbefore.quote_last (by decide +kernel) .double schema

theorem tokenizes_maxTimeQuery (column table : String) :
    Tokenizes (maxTimeQuery column table) (maxTimeTokens column table) := by
  -- the alias is a fixed name, so that all between the two names is one fixed text
  let middle := ") AS " ++ Sql.identifier maxTimeName ++ " FROM "
  have hmiddle : Tokenizes middle
      [.mark ')', .word "AS", .quoted .double maxTimeName, .word "FROM"] := by decide +kernel
  have hafter := hmiddle.quote_last (by decide +kernel) .double table
  have hapart : (middle ++ Sql.identifier table).toList.head? ≠ some '"' := by
    simp [middle]
  have hbefore : Tokenizes "SELECT MAX(" [.word "SELECT", .word "MAX", .mark '('] := by
    decide +kernel
  have hall := hbefore.quote (by decide +kernel) (q := .double) hafter hapart column
  have hquery : maxTimeQuery column table =
      "SELECT MAX(" ++ Sql.identifier column ++ (middle ++ Sql.identifier table) := by
    -- not by the equation of the query, which is slow to make
    delta maxTimeQuery
    simp only [middle, String.append_assoc]
  rw [hquery]
  exact hall

/-- A text in quotes of either kind is read back as it is, and no more is read, when no such quote
comes next. When a location is found and the client connects, each call of a table that asks with
names sends one text, whose tokens are the same for all names, but for those that say the names. -/
theorem names_stay_single_tokens :
    (∀ s rest : String, rest.toList.head? ≠ some '\'' →
      Sql.readQuoted? .single (Sql.literal s ++ rest) = some (s, rest)) ∧
    (∀ s rest : String, rest.toList.head? ≠ some '"' →
      Sql.readQuoted? .double (Sql.identifier s ++ rest) = some (s, rest)) ∧
    ∀ (c : Connector) (location : Location) (steps : List Rehearsal.Step) (name : String),
      c.locator.locate = .ok location →
      let t : Table Sighting := ⟨c, (Script.playing steps).client, name⟩
      (∃ sql, t.sent .attributes = [sql] ∧ Tokenizes sql (columnsTokens name)) ∧
      (∃ sql, t.sent .tables = [sql] ∧ Tokenizes sql (tablesTokens c.session.schema)) ∧
      ∀ column, ∃ sql, t.sent (.maxTime column) = [sql] ∧
        Tokenizes sql (maxTimeTokens column name) := by
  refine ⟨fun s rest h => Sql.readQuoted?_quote .single h,
    fun s rest h => Sql.readQuoted?_quote .double h, ?_⟩
  intro c location steps name hlocate t
  refine ⟨⟨_, ?_, tokenizes_columnsQuery name⟩, ⟨_, ?_, tokenizes_tablesQuery c.session.schema⟩,
    fun column => ⟨_, ?_, tokenizes_maxTimeQuery column name⟩⟩
  · exact Table.sent_eq hlocate steps name rfl
  · exact Table.sent_eq hlocate steps name rfl
  · exact Table.sent_eq hlocate steps name rfl

/-- Names that would end a query and begin another are no more than names. -/
theorem statements_stay_names :
    let c : Connector := ⟨.fixed ⟨"h", 80⟩, ⟨"u", "s", "c", some "\"; --"⟩, 1, Nat.one_pos⟩
    let t : Table Sighting := ⟨c, (Script.playing []).client, "'; DROP TABLE t; --"⟩
    Sql.readQuoted? .single (Sql.literal t.name ++ " OR") = some (t.name, " OR") ∧
      Sql.readQuoted? .double (Sql.identifier t.name ++ " OR") = some (t.name, " OR") ∧
      (∃ sql, t.sent .attributes = [sql] ∧ Tokenizes sql (columnsTokens t.name)) ∧
      (∃ sql, t.sent .tables = [sql] ∧
        Tokenizes sql [.word "SHOW", .word "TABLES", .word "FROM", .quoted .double "\"; --"]) ∧
      ∃ sql, t.sent (.maxTime "\"\"") = [sql] ∧ Tokenizes sql (maxTimeTokens "\"\"" t.name) := by
  intro c t
  obtain ⟨hliteral, hidentifier, hsent⟩ := names_stay_single_tokens
  obtain ⟨hcolumns, htables, hmaxTime⟩ := hsent c ⟨"h", 80⟩ [] t.name rfl
  exact ⟨hliteral _ _ (by decide), hidentifier _ _ (by decide), hcolumns, htables, hmaxTime _⟩

end SqlConnector.Catalog
