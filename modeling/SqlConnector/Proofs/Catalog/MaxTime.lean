import SqlConnector.Proofs.Catalog.Inquiring
import SqlConnector.Proofs.Rehearsal
import SqlConnector.Proofs.Sql.Operator
import SqlConnector.Proofs.Time.Reading

/-!
Times go to the engine as literals, and come back as the latest time of a table. Whichever of the
ways to write it the engine chooses, the same time is read: the text of the literal, a text of the
zoned form, or a number of milliseconds.
-/

namespace SqlConnector

/-! ### Literals -/

/-- What stands between the first quote and the next one. -/
def Text.betweenQuotes? (s : String) : Option String := do
  let (_, opened) ← Text.cut '\'' s.toList
  let (text, _) ← Text.cut '\'' opened
  return String.ofList text

theorem Sql.Presto.betweenQuotes?_timeLiteral (t : Instant) :
    Text.betweenQuotes? (timeLiteral (some t)) = some t.toText := by
  have hlead : '\'' ∉ "CAST(".toList := by decide
  have hliteral : (timeLiteral (some t)).toList =
      "CAST(".toList ++ '\'' :: (t.toText.toList ++ '\'' :: " AS TIMESTAMP)".toList) := by
    simp [timeLiteral, String.toList_append]
  simp only [Text.betweenQuotes?, hliteral, Text.cut_append_cons hlead,
    Text.cut_append_cons t.quote_not_mem_toText, Option.bind_eq_bind, Option.bind_some,
    String.ofList_toList]
  rfl

/-! ### Milliseconds -/

namespace Instant

/-- The milliseconds from the start of 1970 to an instant. -/
def epochMillis (t : Instant) : Int := t.seconds * 1000 + (t.nanos / 1000000 : Nat)

/-- Outside of leap seconds, an instant is read back from its milliseconds. -/
theorem ofMillis?_epochMillis {t : Instant} (h : t.nanos < 1000000000) :
    ofMillis? t.epochMillis = some t.truncated := by
  have hseconds : t.epochMillis / 1000 = t.seconds := by
    unfold epochMillis
    omega
  have hmillis : (t.epochMillis % 1000).toNat = t.nanos / 1000000 := by
    unfold epochMillis
    omega
  rw [ofMillis?, hseconds, hmillis]
  exact t.truncated.ofEpoch?_self

/-- The milliseconds of every instant fit 64 bits with a sign. -/
theorem epochMillis_lt (t : Instant) : t.epochMillis < Json.Number.signedBound := by
  have hto := t.to_max
  have hlast : Date.dayNumber ⟨Date.maxYear, 12, 31⟩ = 95026236 := by decide
  have hnanos := t.nanos_lt
  unfold epochMillis Json.Number.signedBound
  omega

end Instant

/-! ### The latest time -/

namespace Catalog

variable {ε : Type}

/-- The first row that comes for the latest time of a column has this cell in it. -/
def Table.Answers (table : Table ε) (column : String) (cell : Cell) : Prop :=
  ∃ row rows, (table.connector.collect table.client (maxTimeQuery column table.name)).2 =
    .ok (row :: rows) ∧ row.get? maxTimeName = some cell

theorem Table.Answers.maxTime {table : Table ε} {column : String} {cell : Cell} {t : Instant}
    (h : table.Answers column cell) (ht : timeOf? cell = some t) :
    (table.maxTime column).2 = .ok (some t) := by
  obtain ⟨row, rows, hrows, hcell⟩ := h
  have hread : maxTimeOf (row :: rows) = .ok (some t) := by
    cases cell with
    | null => cases ht
    | _ => simp [maxTimeOf, hcell, ht]
  simp only [Table.maxTime, Table.inquire, hrows]
  exact hread

/-- A client that answers every query with one row, of one cell. -/
def answering (cell : Cell) : Rehearsal.Script :=
  .playing [.send (.columns [maxTimeName] true), .send (.data [[cell]]), .send .success]

theorem answers_answering {c : Connector} {location : Location}
    (h : c.locator.locate = .ok location) (name column : String) (cell : Cell) :
    Table.Answers ⟨c, (answering cell).client, name⟩ column cell := by
  refine ⟨[(maxTimeName, cell)], [], ?_, by simp [Row.get?]⟩
  rw [Connector.collect_eq, Rehearsal.future_execute, h]
  rfl

/-- Any instant that the engine is given as a literal is read from the literal's text again, to the
millisecond. An instant of whole milliseconds outside of leap seconds is also read from the number
of its milliseconds, and from the texts that it has in the zoned form on every clock whose year has
four digits. -/
theorem times_read_back (table : Table ε) (column : String) (t : Instant) :
    (∃ text, Text.betweenQuotes? (Sql.Presto.timeLiteral (some t)) = some text ∧
      (table.Answers column (.string text) →
        (table.maxTime column).2 = .ok (some t.truncated))) ∧
    (t.nanos < 1000000000 → t.nanos % 1000000 = 0 →
      (table.Answers column (.number (.integer t.epochMillis)) →
        (table.maxTime column).2 = .ok (some t)) ∧
      (∀ text, Text.betweenQuotes? (Sql.Presto.timeLiteral (some t)) = some text →
        table.Answers column (.string text) → (table.maxTime column).2 = .ok (some t)) ∧
      ∀ minutes : Int, minutes.natAbs < 1440 →
        0 ≤ (t.localDate minutes).year ∧ (t.localDate minutes).year ≤ 9999 →
        (∃ text, Timestamp.ZonedText t minutes text) ∧
        ∀ text, Timestamp.ZonedText t minutes text → table.Answers column (.string text) →
          (table.maxTime column).2 = .ok (some t)) := by
  have hliteral := Sql.Presto.betweenQuotes?_timeLiteral t
  refine ⟨⟨t.toText, hliteral, fun h => h.maxTime (Timestamp.read?_toText t)⟩, ?_⟩
  intro hleap hwhole
  -- with nothing to cut off, what is read to the millisecond is the instant itself
  have htruncated := Instant.truncated_of_whole hwhole
  refine ⟨fun h => h.maxTime ?_, ?_, fun minutes hminutes hyear => ⟨?_, ?_⟩⟩
  · rw [timeOf?, if_pos t.epochMillis_lt, Instant.ofMillis?_epochMillis hleap, htruncated]
  · rintro text htext h
    obtain rfl : t.toText = text := Option.some.inj (hliteral.symm.trans htext)
    exact h.maxTime ((Timestamp.read?_toText t).trans (congrArg some htruncated))
  · exact Timestamp.exists_zonedText hminutes hyear
  · intro text htext h
    exact h.maxTime ((Timestamp.read?_of_zonedText htext).trans (congrArg some htruncated))

/-- Half a second before 1970, as it is read from a literal, a number and the clocks of India. -/
theorem half_second_before_epoch_read_back :
    let c : Connector := ⟨.fixed ⟨"h", 80⟩, ⟨"u", "s", "c", none⟩, 1, Nat.one_pos⟩
    let maxTime (cell : Cell) := (Table.maxTime ⟨c, (answering cell).client, "t"⟩ "time").2
    let t : Instant := ⟨-1, 500000000, by decide, by decide, by decide, by decide⟩
    maxTime (.string "1969-12-31 23:59:59.500") = .ok (some t) ∧
      maxTime (.number (.integer (-500))) = .ok (some t) ∧
      maxTime (.string "1970-01-01T05:29:59.5+05:30") = .ok (some t) := by
  intro c maxTime t
  have hanswers (cell : Cell) : Table.Answers ⟨c, (answering cell).client, "t"⟩ "time" cell :=
    answers_answering (show c.locator.locate = .ok ⟨"h", 80⟩ from rfl) "t" "time" cell
  have hread (cell : Cell) :=
    (times_read_back ⟨c, (answering cell).client, "t"⟩ "time" t).2 (by decide) (by decide)
  have hliteral : Text.betweenQuotes? (Sql.Presto.timeLiteral (some t)) =
      some "1969-12-31 23:59:59.500" := by
    rw [Sql.Presto.betweenQuotes?_timeLiteral]
    decide +kernel
  have hzoned : Timestamp.ZonedText t 330 "1970-01-01T05:29:59.5+05:30" := by
    let shown : Instant := ⟨19799, 500000000, by decide, by decide, by decide, by decide⟩
    have htext : "1970-01-01T05:29:59.5+05:30" = String.ofList
        (Instant.dateText shown.date ++ 'T' :: shown.timeText ++ ['.', '5'] ++
          ('+' :: Text.padded 2 5 ++ ':' :: Text.padded 2 30)) := by
      decide +kernel
    rw [htext]
    exact .mk rfl rfl (by decide) (.inl rfl) (.digits (by simp) (by simp) (by decide))
      (.ahead (show 5 < 24 by decide) (show 30 < 60 by decide))
  refine ⟨?_, ?_, ?_⟩
  · exact (hread _).2.1 _ hliteral (hanswers _)
  · have hmillis : t.epochMillis = -500 := by decide
    have h := (hread (.number (.integer t.epochMillis))).1 (hanswers _)
    rw [hmillis] at h
    exact h
  · exact ((hread _).2.2 330 (by decide) (by decide)).2 _ hzoned (hanswers _)

end Catalog

end SqlConnector
