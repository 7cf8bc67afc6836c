import SqlConnector.Connector
import SqlConnector.Proofs.Statement.Cancelling
import SqlConnector.Proofs.Stream.Answers
import SqlConnector.Proofs.Stream.Listening

/-!
What a query does from its submission to the last answer. The turns of the session tell it all: the
requests are theirs, and what is answered are the rows of their pages under the first columns there
are, as far as they fit, and then what the last turn says. Only when the rows themselves do not fit,
or the columns repeat a name, may the requests stop before the last turn.
-/

namespace SqlConnector.Statement

open Assembly (Call)

/-! ### What the turns say -/

/-- The names of the columns: those of the first page that has any. -/
def namesIn (pages : List Page) : Option (List String) :=
  (pages.findSome? Page.columns).map fun columns => columns.map Heading.name

/-- The rows of all pages. -/
def rowsIn (pages : List Page) : List (List Cell) := pages.flatMap fun page => page.data.getD []

/-- How the answers end after a last turn: with what went wrong in it, with the error that its page
reports, or well, unless there are rows without names. -/
def Turn.ending (stranded : Bool) (turn : Turn) : List Output :=
  match turn.result with
  | .error e => [.failed (.protocol e.message)]
  | .ok page =>
      match page.error with
      | some e => [.failed (.protocol e.text)]
      | none =>
          if stranded then [.failed (.protocol "rows delivered without column names")]
          else [.finished]

/-- What is answered after some turns. -/
def answered (ts : List Turn) : List Output :=
  let ending (stranded : Bool) := (ts.getLast?.map (Turn.ending stranded)).getD []
  match namesIn (pagesIn ts) with
  | none => ending (!(rowsIn (pagesIn ts)).isEmpty)
  | some names => Assembly.laidOutUnder names (rowsIn (pagesIn ts)) (ending false)

/-- Whether the rows of some turns fit under their names, and these do not repeat. -/
def Fits (ts : List Turn) : Prop := Assembly.Fits (namesIn (pagesIn ts)) (rowsIn (pagesIn ts))

/-- The requests of some turns, and the cancellation after the last. -/
def Link.requests (link : Link) (ts : List Turn) : List Request :=
  link.asked ts ++ (ts.getLast?.map link.closing).getD []

theorem Link.exists_requests_eq (link : Link) (ts : List Turn) :
    ∃ uri, link.requests ts = link.asked ts ++ link.cancellation uri := by
  unfold Link.requests Link.closing
  cases ts.getLast? with
  | none => exact ⟨none, rfl⟩
  | some last =>
      cases hlast : last.result with
      | ok page => exact ⟨none, by simp [hlast]⟩
      | error e => exact ⟨last.ask.cancelUri, by simp [hlast]⟩

/-! ### The parts of pages -/

/-- The calls that some deliveries are. -/
def callsOf (ds : List Delivery) : List Call := ds.map .deliver

@[simp] theorem callsOf_nil : callsOf [] = [] := rfl

@[simp] theorem callsOf_cons (d : Delivery) (ds : List Delivery) :
    callsOf (d :: ds) = .deliver d :: callsOf ds := rfl

@[simp] theorem callsOf_append (ds es : List Delivery) :
    callsOf (ds ++ es) = callsOf ds ++ callsOf es :=
  List.map_append

theorem isFinal_of_mem_parts (columnsSent : Bool) (page : Page) :
    ∀ c ∈ callsOf (page.parts columnsSent), c.isFinal = false := by
  intro c hc
  obtain ⟨d, hd, rfl⟩ := List.mem_map.mp hc
  rcases List.mem_append.mp hd with hcolumns | hrows
  · unfold Page.columnParts at hcolumns
    split at hcolumns
    · rw [List.mem_singleton.mp hcolumns]
      rfl
    · simp at hcolumns
  · unfold Page.rowParts at hrows
    split at hrows
    · rw [List.mem_singleton.mp hrows]
      rfl
    · simp at hrows

theorem isFinal_of_mem_partsOf (columnsSent : Bool) (pages : List Page) :
    ∀ c ∈ callsOf (partsOf columnsSent pages), c.isFinal = false := by
  induction pages generalizing columnsSent with
  | nil => simp
  | cons page rest ih =>
      intro c hc
      rw [partsOf, callsOf_append] at hc
      rcases List.mem_append.mp hc with hpage | hrest
      · exact isFinal_of_mem_parts columnsSent page c hpage
      · exact ih _ c hrest

theorem header?_partsOf (pages : List Page) :
    Call.header? (callsOf (partsOf false pages)) = namesIn pages := by
  induction pages with
  | nil => rfl
  | cons page rest ih =>
      cases hcolumns : page.columns with
      | some columns =>
          simp [Page.parts, Page.columnParts, hcolumns, namesIn]
      | none =>
          have hnames : namesIn (page :: rest) = namesIn rest := by simp [namesIn, hcolumns]
          rw [hnames, ← ih, partsOf, hcolumns, callsOf_append]
          cases hdata : page.data <;>
            simp [Page.parts, Page.columnParts, Page.rowParts, hcolumns, hdata]

theorem rows_partsOf (columnsSent : Bool) (pages : List Page) :
    Call.rows (callsOf (partsOf columnsSent pages)) = rowsIn pages := by
  induction pages generalizing columnsSent with
  | nil => rfl
  | cons page rest ih =>
      have hpage : Call.rows (callsOf (page.parts columnsSent)) = page.data.getD [] := by
        unfold Page.parts Page.columnParts Page.rowParts
        split <;> cases page.data <;> simp
      calc
        Call.rows (callsOf (partsOf columnsSent (page :: rest))) =
            Call.rows (callsOf (page.parts columnsSent)) ++ rowsIn rest := by
          rw [partsOf, callsOf_append, Call.rows, List.flatMap_append, ← Call.rows, ← Call.rows, ih]
        _ = rowsIn (page :: rest) := by
          rw [hpage]
          rfl

/-! ### The answers -/

/-- The last delivery of a query. -/
def Turn.final (turn : Turn) : Delivery :=
  match turn.result with
  | .error e => .failed (.protocol e.message)
  | .ok page => .event page.lastWord

theorem Turn.isFinal_final (turn : Turn) : (Call.deliver turn.final).isFinal = true := by
  unfold final Page.lastWord
  split
  · rfl
  · split <;> rfl

theorem Turn.ending_final (turn : Turn) (stranded : Bool) :
    (Call.deliver turn.final).ending stranded = turn.ending stranded := by
  obtain ⟨ask, retries, result⟩ := turn
  cases result with
  | error e => rfl
  | ok page =>
      cases herror : page.error <;> simp [final, ending, Page.lastWord, herror]

/-- What comes of the parts of the pages and the last delivery. -/
theorem outputsOf_partsOf {ts : List Turn} {last : Turn} (hlast : ts.getLast? = some last) :
    Assembly.empty.outputsOf (partsOf false (pagesIn ts) ++ [last.final]) = answered ts := by
  have hparts := isFinal_of_mem_partsOf false (pagesIn ts)
  have hcalls : (partsOf false (pagesIn ts) ++ [last.final]).map Call.deliver ++ [.disconnect] =
      callsOf (partsOf false (pagesIn ts)) ++ [.deliver last.final, .disconnect] := by
    simp [callsOf]
  have hleading : Call.leading [.deliver last.final, .disconnect] = [] :=
    Call.leading_cons_of_isFinal _ last.isFinal_final
  have hclosing (stranded : Bool) :
      Call.closing stranded [.deliver last.final, .disconnect] = last.ending stranded := by
    rw [Call.closing_cons_of_isFinal _ last.isFinal_final, last.ending_final]
  rw [Assembly.outputsOf, Assembly.callAll_empty, hcalls, Assembly.outputs,
    Call.leading_append hparts, hleading, List.append_nil, header?_partsOf, rows_partsOf,
    Call.closing_append hparts, Call.closing_append hparts, hclosing, hclosing]
  cases hnames : namesIn (pagesIn ts) <;> simp [answered, hlast, hnames]

/-! ### The session and its end -/

theorem reach_ne_disconnected (server : Server) (uri : String) :
    server.reach uri ≠ .error .disconnected := by
  unfold Server.reach
  split
  · simp
  · split
    · simp
    · split <;> simp

theorem page_ne_disconnected (reply : Reply) (u : Url) :
    reply.page u ≠ .error .disconnected := by
  cases reply with
  | closed => simp [Reply.page]
  | response status body cutShort =>
      simp only [Reply.page]
      split
      · simp
      · split
        · split <;> simp
        · simp

/-- No turn fails because of the listener. -/
theorem result_ne_disconnected (link : Link) (ask : Ask) (tried : Nat) (replies : List Reply) :
    ∀ turn ∈ link.turns ask tried replies, turn.result ≠ .error .disconnected := by
  have hresult (ask : Ask) (reply : Reply) :
      ((link.server.reach ask.uri).bind fun u => reply.page u) ≠ .error .disconnected := by
    cases hreach : link.server.reach ask.uri with
    | error e =>
        have := reach_ne_disconnected link.server ask.uri
        simpa [hreach, Except.bind] using this
    | ok u => exact page_ne_disconnected reply u
  induction replies generalizing ask tried with
  | nil => simpa [Link.turns] using hresult ask .exhausted
  | cons reply rest ih =>
      simp only [Link.turns]
      split
      · exact ih ask (tried + 1)
      · split
        · exact List.forall_mem_cons.mpr ⟨hresult ask reply, ih _ 0⟩
        · simpa using hresult ask reply

namespace Link

variable (link : Link) (location : Location) (query : String)

/-- Whoever listens to the end is handed the parts of all pages, and how it ended. -/
theorem deliveries_task : ∃ last, (link.turnsOf location query).getLast? = some last ∧
    (link.task location query).deliveries =
      partsOf false (pagesIn (link.turnsOf location query)) ++ [last.final] := by
  obtain ⟨rest, hrest, -, htaken, -⟩ :=
    Task.exists_course_bind Ended.conclude none (link.run location query)
  rw [hrest rfl, Task.taken_none] at htaken
  cases link.walked_run location query none with
  | stopped hstay => exact absurd rfl hstay
  | through last hlast hcourse htaken' =>
      refine ⟨last, hlast, ?_⟩
      have hfailed : last.result ≠ .error .disconnected :=
        result_ne_disconnected link _ 0 link.server.replies last (List.mem_of_getLast? hlast)
      rw [task, htaken, htaken', hcourse, List.append_assoc]
      congr 1
      obtain ⟨ask, retries, result⟩ := last
      cases result with
      | ok page =>
          rw [Task.taken_conclude (.inl rfl)]
          rfl
      | error e =>
          rw [Task.taken_conclude_of_error rfl fun he => hfailed (by rw [he])]
          rfl

/-- The requests of a query, whoever listens: those of the turns, or of the first few of them, which
all have a page, and the cancellation of the statement where these have left it. -/
theorem course_task (stay : Option Nat) :
    ((link.task location query).course stay).1 = link.requests (link.turnsOf location query) ∨
      stay ≠ none ∧ ∃ came uri, came <+: link.turnsOf location query ∧
        (∀ turn ∈ came, turn.page?.isSome) ∧
        ((link.task location query).course stay).1 = link.asked came ++ link.cancellation uri ∧
        LeftAt none false (pagesIn came) ((link.task location query).taken stay) uri := by
  obtain ⟨rest, -, hcourse, htaken, -⟩ :=
    Task.exists_course_bind Ended.conclude stay (link.run location query)
  rw [Task.course_conclude] at hcourse
  cases link.walked_run location query stay with
  | through last hlast hcourse' htaken' =>
      left
      rw [task, hcourse, hcourse', requests, hlast]
      rfl
  | stopped hstay came hcame hpages uri hcourse' hleft =>
      refine .inr ⟨hstay, came, uri, hcame, hpages, ?_, ?_⟩
      · rw [task, hcourse, hcourse']
      · rw [task, htaken, hcourse', Task.taken_conclude (.inr rfl), List.append_nil]
        exact hleft

end Link

/-! ### How far the requests go -/

/-- When the answers are over before the turns are: the first few turns, which all have a page,
came, and `handed` of their parts was handed over. These do not fit already, and the statement is
left at `uri`. -/
structure Stopped (ts came : List Turn) (handed : List Delivery) (uri : Option String) : Prop where
  among : came <+: ts
  pages : ∀ turn ∈ came, turn.page?.isSome
  misfit : ¬Assembly.Fits (Call.header? (callsOf handed)) (Call.rows (callsOf handed))
  left : LeftAt none false (pagesIn came) handed uri

/-- What a query may have requested whose session has these turns: all that they ask for, with the
cancellation after the last. Only when the rows do not fit may it be less: what the turns ask for
that came before the answers were over, and one cancellation of the statement where it was left
then. -/
structure Requested (link : Link) (ts : List Turn) (requests : List Request) : Prop where
  fitting : Fits ts → requests = link.requests ts
  course : requests = link.requests ts ∨ ∃ came handed uri, Stopped ts came handed uri ∧
    ¬Fits came ∧ requests = link.asked came ++ link.cancellation uri

@[simp] theorem pagesIn_append (ts us : List Turn) :
    pagesIn (ts ++ us) = pagesIn ts ++ pagesIn us :=
  List.filterMap_append

theorem Fits.of_leading {ts came : List Turn} (h : Fits ts) (hcame : came <+: ts) : Fits came := by
  obtain ⟨more, rfl⟩ := hcame
  intro names hnames
  have hmore : namesIn (pagesIn (came ++ more)) = some names := by
    obtain ⟨columns, hcolumns, rfl⟩ := Option.map_eq_some_iff.mp hnames
    simp [namesIn, hcolumns]
  obtain ⟨hnodup, hrows⟩ := h names hmore
  refine ⟨hnodup, fun cells hcells => hrows cells ?_⟩
  rw [pagesIn_append, rowsIn, List.flatMap_append]
  exact List.mem_append_left _ hcells

/-- Parts that end an assembly do not fit. -/
theorem not_fits_of_over {ds : List Delivery} (hfinal : ∀ c ∈ callsOf ds, c.isFinal = false)
    (hover : (Assembly.empty.callAll (callsOf ds)).1.isTerminal = true) :
    ¬Assembly.Fits (Call.header? (callsOf ds)) (Call.rows (callsOf ds)) := by
  intro hfits
  rw [Assembly.isTerminal_callAll_of_fits hfinal hfits] at hover
  contradiction

/-- Some parts of pages that end an assembly do not fit, and the pages do not fit with all their
parts. -/
theorem not_fits_of_taken {came : List Turn} {ds : List Delivery}
    (hds : ds <+: partsOf false (pagesIn came))
    (hover : (Assembly.empty.callAll (callsOf ds)).1.isTerminal = true) :
    ¬Assembly.Fits (Call.header? (callsOf ds)) (Call.rows (callsOf ds)) ∧ ¬Fits came := by
  have hparts := isFinal_of_mem_partsOf false (pagesIn came)
  obtain ⟨more, hmore⟩ := hds
  rw [← hmore, callsOf_append] at hparts
  refine ⟨not_fits_of_over (fun c hc => hparts c (List.mem_append_left _ hc)) hover, ?_⟩
  have hall : ¬Assembly.Fits (Call.header? (callsOf (ds ++ more)))
      (Call.rows (callsOf (ds ++ more))) :=
    not_fits_of_over (by rwa [callsOf_append])
      (by rw [callsOf_append, Assembly.isTerminal_callAll_append hover])
  rwa [hmore, header?_partsOf, rows_partsOf] at hall

/-- Whoever listens to the end, or until what was handed over has ended the answers. -/
theorem requested_task (link : Link) (location : Location) (query : String) {stay : Option Nat}
    (hstay : stay = none ∨ Execution.Exhausts (link.task location query) stay) :
    Requested link (link.turnsOf location query)
      ((link.task location query).course stay).1 := by
  rcases link.course_task location query stay with
    hall | ⟨hleft, came, uri, hcame, hpages, hcourse, hat⟩
  · exact ⟨fun _ => hall, .inl hall⟩
  · obtain ⟨hmisfit, hnot⟩ := not_fits_of_taken hat.handed_leading (hstay.resolve_left hleft)
    exact ⟨fun hfits => absurd (hfits.of_leading hcame) hnot,
      .inr ⟨came, _, uri, ⟨hcame, hpages, hmisfit, hat⟩, hnot, hcourse⟩⟩

/-- A repeated name ends the answers before the rows of its page are handed over, and the next page
is not asked for any more. -/
theorem requests_stop_at_repeated_name :
    let column := "\x7b\"name\": \"a\", \"type\": \"bigint\"\x7d"
    let page := "\x7b\"id\": \"q\", \"nextUri\": \"http://h/q/2\", " ++
      "\"columns\": [" ++ column ++ ", " ++ column ++ "], \"data\": [[1, 2]]\x7d"
    let next := "\x7b\"id\": \"q\"\x7d"
    let server : Server :=
      ⟨⟨.domain "h".toList, 80⟩, [.response 200 page false, .response 200 next false]⟩
    let link : Link := ⟨server, []⟩
    let y := ((Execution.start (link.task ⟨"h", 80⟩ "SELECT 1") 1 Nat.one_pos).run
      [.turn, .send, .send, .turn, .turn, .send]).1
    y.task.isDone = true ∧ y.notes = [⟨.post, "/v1/statement", [], "SELECT 1"⟩] ∧
      link.requests (link.turnsOf ⟨"h", 80⟩ "SELECT 1") =
        [⟨.post, "/v1/statement", [], "SELECT 1"⟩, ⟨.get, "/q/2", [], ""⟩] := by
  decide +kernel

/-! ### The whole query -/

theorem checkHeaders_of_all {headers : Headers}
    (h : (headers.all fun (_, value) => value.toList.all isHeaderChar) = true) :
    checkHeaders headers = .ok headers := by
  have hnone : headers.find? (fun (_, value) => !value.toList.all isHeaderChar) = none := by
    rw [List.find?_eq_none]
    intro header hheader
    have := List.all_eq_true.mp h header hheader
    simpa using this
  simp only [checkHeaders, hnone]

section Query

variable (c : Connector) (server : Server) (query : String) {location : Location}
  {headers : Headers}

/-- With a location and headers that can be sent, a query is what is done over the connection. -/
theorem task_eq (hlocate : c.locator.locate = .ok location)
    (hheaders : checkHeaders (sessionHeaders c.session) = .ok headers) :
    c.task server.client query =
      .note .asked ((Link.task ⟨server, headers⟩ location query).relabel .client) := by
  simp [Connector.task, hlocate, Client.converse, Server.client, hheaders, Except.map, Link.task]

theorem taken_task (hlocate : c.locator.locate = .ok location)
    (hheaders : checkHeaders (sessionHeaders c.session) = .ok headers) (stay : Option Nat) :
    (c.task server.client query).taken stay =
      (Link.task ⟨server, headers⟩ location query).taken stay := by
  rw [task_eq c server query hlocate hheaders]
  exact Task.taken_relabel _ stay _

/-- What is still to be answered when a query starts is all that its turns say. -/
theorem future_execute (hlocate : c.locator.locate = .ok location)
    (hheaders : checkHeaders (sessionHeaders c.session) = .ok headers) :
    (c.execute server.client query).future =
      Output.items (answered (Link.turnsOf ⟨server, headers⟩ location query)) := by
  obtain ⟨last, hlast, hdeliveries⟩ := Link.deliveries_task ⟨server, headers⟩ location query
  have htask : (c.task server.client query).deliveries = partsOf false
      (pagesIn (Link.turnsOf ⟨server, headers⟩ location query)) ++ [last.final] := by
    rw [← Task.taken_none, taken_task c server query hlocate hheaders, Task.taken_none,
      hdeliveries]
  calc
    (c.execute server.client query).future =
        Output.items (Assembly.empty.outputsOf (c.task server.client query).deliveries) :=
      Execution.future_start _ _ _
    _ = _ := by rw [htask, outputsOf_partsOf hlast]

/-- What is noted when the sending side is done. -/
theorem requested_of_run (hlocate : c.locator.locate = .ok location)
    (hheaders : checkHeaders (sessionHeaders c.session) = .ok headers)
    (ms : List Execution.Move)
    (hdone : ((c.execute server.client query).run ms).1.task.isDone = true) :
    ∃ requests, ((c.execute server.client query).run ms).1.notes = .asked :: requests.map .client ∧
      Requested ⟨server, headers⟩ (Link.turnsOf ⟨server, headers⟩ location query) requests := by
  obtain ⟨stay, hnotes, hstay⟩ := Execution.exists_course_of_run _ _ _ ms hdone
  refine ⟨((Link.task ⟨server, headers⟩ location query).course stay).1, ?_, ?_⟩
  · rw [← show _ = ((c.execute server.client query).run ms).1.notes from hnotes.symm,
      task_eq c server query hlocate hheaders]
    simp
  · refine requested_task _ location query (hstay.imp_right fun hover => ?_)
    rwa [Execution.Exhausts, taken_task c server query hlocate hheaders] at hover

/-- Whatever the order in which the two sides of a query move, its answers are those that the turns
of its session say, and in the end it has requested what these turns ask for; it has requested less
only when the rows that came do not fit, and has then cancelled the statement where it was left.
Draining the answers is one of these orders. -/
theorem answers_of_query (hlocate : c.locator.locate = .ok location)
    (hheaders : checkHeaders (sessionHeaders c.session) = .ok headers)
    (ms : List Execution.Move) :
    let link : Link := ⟨server, headers⟩
    let ts := link.turnsOf location query
    let items := Output.items (answered ts)
    let x := c.execute server.client query
    let y := (x.run ms).1
    (∃ k, Execution.answersOf (x.run ms).2 = (List.range k).map (items[·]?)) ∧
      (y.task.isDone = true → ∃ requests, y.notes = .asked :: requests.map .client ∧
        Requested link ts requests) ∧
      (c.answers server.client query none).2 = items ∧
      ∃ requests, (c.answers server.client query none).1 = .asked :: requests.map .client ∧
        Requested link ts requests := by
  intro link ts items x y
  have hx : Execution.Sound x := Execution.sound_start _ _ c.capacity_pos
  have hfuture : x.future = items := future_execute c server query hlocate hheaders
  obtain ⟨k, hanswers, -⟩ := Execution.answersOf_run hx ms
  obtain ⟨⟨moves, hmoves, -⟩, hdone⟩ := Execution.reaches_drain_leave hx
  refine ⟨⟨k, by rw [hanswers, hfuture]⟩, requested_of_run c server query hlocate hheaders ms, ?_,
    ?_⟩
  · exact (Execution.reaches_drain hx).1.trans hfuture
  · rw [← hmoves] at hdone
    have hnotes : (c.answers server.client query none).1 = (x.run moves).1.notes := by
      rw [hmoves]
      rfl
    rw [hnotes]
    exact requested_of_run c server query hlocate hheaders moves hdone

end Query

/-- Two rows of one page. -/
theorem answers_of_one_page :
    let column := "\x7b\"name\": \"a\", \"type\": \"bigint\"\x7d"
    let page := "\x7b\"id\": \"q\", \"columns\": [" ++ column ++ "], \"data\": [[1], [2]]\x7d"
    let c : Connector := ⟨.fixed ⟨"h", 80⟩, ⟨"u", "s", "c", none⟩, 1, Nat.one_pos⟩
    let server : Server := ⟨⟨.domain "h".toList, 80⟩, [.response 200 page false]⟩
    c.locator.locate = .ok ⟨"h", 80⟩ ∧
      checkHeaders (sessionHeaders c.session) = .ok (sessionHeaders c.session) ∧
      (c.answers server.client "SELECT 1" none).2.map Except.isOk = [true, true] := by
  intro column page c server
  have hheaders : checkHeaders (sessionHeaders c.session) = .ok (sessionHeaders c.session) :=
    checkHeaders_of_all (by decide +kernel)
  refine ⟨rfl, hheaders, ?_⟩
  rw [(answers_of_query c server "SELECT 1" rfl hheaders []).2.2.1]
  decide +kernel

end SqlConnector.Statement
