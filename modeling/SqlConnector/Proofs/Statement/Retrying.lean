import SqlConnector.Proofs.Statement.Waiting

/-!
Whole queries to a server that is busy now and then. A few busy replies in each place leave what is
answered as it is, and only repeat requests; one too many ends the query with what it says, unless
the rows before it have ended the answers already.
-/

namespace SqlConnector.Statement

open Output (items)

/-! ### Rows that fit and rows that do not -/

/-- The rows of some pages, under the names of their columns. -/
def rowsUnder (pages : List Page) : List Row :=
  match namesIn pages with
  | none => []
  | some names => (rowsIn pages).map names.zip

/-- Rows that fit are all answered, and then the end. -/
theorem answered_of_fits {ts : List Turn} (hfits : Fits ts) :
    ∃ stranded, answered ts =
      (rowsUnder (pagesIn ts)).map .row ++ (ts.getLast?.map (Turn.ending stranded)).getD [] := by
  unfold Fits at hfits
  unfold answered rowsUnder
  cases hnames : namesIn (pagesIn ts) with
  | none => exact ⟨_, rfl⟩
  | some names =>
      rw [hnames] at hfits
      refine ⟨false, ?_⟩
      simp only [Assembly.laidOutUnder_of_fits hfits, List.map_map]
      rfl

/-- After rows that do not fit, the last turn makes no difference. -/
theorem exists_answered_of_not_fits {ts : List Turn} (hfits : ¬Fits ts) :
    ∃ outs e, e.isMisfit = true ∧
      ∀ us, pagesIn us = pagesIn ts → answered us = outs ++ [.failed e] := by
  unfold Fits at hfits
  cases hnames : namesIn (pagesIn ts) with
  | none => exact absurd (fun names h => by rw [hnames] at h; contradiction) hfits
  | some names =>
      rw [hnames] at hfits
      obtain ⟨outs, e, he, hout⟩ := Assembly.exists_laidOutUnder_of_not_fits hfits
      refine ⟨outs, e, he, fun us hus => ?_⟩
      simp only [answered, hus, hnames, hout]

theorem isMisfit_of_mem_ending {turn : Turn} {stranded : Bool} {e : Failure}
    (h : .failed e ∈ turn.ending stranded) : e.isMisfit = false := by
  unfold Turn.ending at h
  repeat' split at h
  all_goals simp at h
  all_goals rw [h]; rfl

/-- Whether rows fit can be seen from the answers. -/
theorem fits_iff_items (ts : List Turn) :
    Fits ts ↔ ∀ e, .error e ∈ items (answered ts) → e.isMisfit = false := by
  constructor
  · intro hfits e he
    obtain ⟨stranded, hanswered⟩ := answered_of_fits hfits
    rw [hanswered, items, List.mem_filterMap] at he
    obtain ⟨output, houtput, hitem⟩ := he
    rcases List.mem_append.mp houtput with hrow | hend
    · obtain ⟨row, -, rfl⟩ := List.mem_map.mp hrow
      simp at hitem
    · cases hlast : ts.getLast? with
      | none => simp [hlast] at hend
      | some last =>
          rw [hlast] at hend
          cases output with
          | failed e' =>
              obtain rfl : e' = e := by simpa using hitem
              exact isMisfit_of_mem_ending hend
          | _ => simp at hitem
  · intro hitems
    refine Classical.byContradiction fun hfits => ?_
    obtain ⟨outs, e, he, hanswered⟩ := exists_answered_of_not_fits hfits
    have hmem : .error e ∈ items (answered ts) := by
      rw [hanswered ts rfl]
      simp
    rw [hitems e hmem] at he
    contradiction

/-- Rows that fit are answered before what went wrong in the last turn. -/
theorem items_answered_of_error {ts : List Turn} {last : Turn} {e : ClientError}
    (hlast : ts.getLast? = some last) (he : last.result = .error e) (hfits : Fits ts) :
    items (answered ts) =
      (rowsUnder (pagesIn ts)).map .ok ++ [.error (.protocol e.message)] := by
  obtain ⟨stranded, hanswered⟩ := answered_of_fits hfits
  have hrows (rows : List Row) : (rows.map Output.row).filterMap Output.item? = rows.map .ok := by
    rw [List.filterMap_map]
    exact congrFun List.filterMap_eq_map rows
  have hending : ((ts.getLast?.map (Turn.ending stranded)).getD []) =
      [.failed (.protocol e.message)] := by
    simp [hlast, Turn.ending, he]
  rw [hanswered, hending, items, List.filterMap_append, hrows]
  rfl

theorem pagesIn_concat_of_error {ts : List Turn} {last : Turn} {e : ClientError}
    (he : last.result = .error e) : pagesIn (ts ++ [last]) = pagesIn ts := by
  rw [pagesIn_append, pagesIn, pagesIn, List.filterMap_cons, Turn.page?_of_error he]
  simp

/-- Rows that do not fit are answered alike, whatever the turns without a page. -/
theorem answered_eq_of_not_fits {ts us : List Turn} (hpages : pagesIn us = pagesIn ts)
    (hfits : ¬Fits ts) : answered us = answered ts := by
  obtain ⟨outs, e, -, hanswered⟩ := exists_answered_of_not_fits hfits
  rw [hanswered us hpages, hanswered ts rfl]

/-! ### Answers that are over early -/

/-- What a query to a busy server has requested when its answers are over before its turns `ts` are:
the requests of the turns that came, all of them among the `first`, each repeated for the busy
replies of its place, and one cancellation of the statement where it was left. -/
def Link.BrokenOff (link : Link) (waits : Nat → List Reply) (ts : List Turn)
    (first requests : List Request) : Prop :=
  ∃ came handed uri, Stopped ts came handed uri ∧ ¬Fits came ∧ link.asked came <+: first ∧
    requests = repeated waits 0 (link.asked came) ++ link.cancellation uri

theorem Link.brokenOff_of_stopped {link : Link} {waits : Nat → List Reply} {before ts : List Turn}
    (hbefore : before <+: ts) (honce : link.AtOnce before) {came : List Turn}
    {handed : List Delivery} {uri : Option String}
    (h : Stopped (retried waits 0 before) came handed uri) (hnot : ¬Fits came) :
    link.BrokenOff waits ts (link.asked before) (link.asked came ++ link.cancellation uri) := by
  obtain ⟨hcame, hpages, hmisfit, hleft⟩ := h
  obtain ⟨first, hfirst, rfl⟩ := exists_retried_of_prefix hcame
  rw [pagesIn_retried] at hleft
  rw [Fits, pagesIn_retried] at hnot
  rw [Link.asked_retried (honce.of_leading hfirst)]
  exact ⟨first, handed, uri, ⟨hfirst.trans hbefore, forall_page?_retried.mp hpages, hmisfit, hleft⟩,
    hnot, link.asked_leading hfirst, rfl⟩

/-! ### Whole queries -/

section Query

variable (c : Connector) (query : String) {location : Location} {headers : Headers}

/-- A query gets to a session, or fails before it whoever the server is. -/
theorem connects_or_fails :
    (∃ location headers, c.locator.locate = .ok location ∧
      checkHeaders (sessionHeaders c.session) = .ok headers) ∨
    ∃ e, ∀ server : Server, c.task server.client query = .note .asked (.report (.failed e)) := by
  cases hlocate : c.locator.locate with
  | error reason =>
      exact .inr ⟨.locatorUnavailable reason, fun server => by simp [Connector.task, hlocate]⟩
  | ok location =>
      cases hheaders : checkHeaders (sessionHeaders c.session) with
      | ok headers => exact .inl ⟨location, headers, rfl, rfl⟩
      | error e =>
          refine .inr ⟨.protocol e.message, fun server => ?_⟩
          simp [Connector.task, hlocate, Client.converse, Server.client, hheaders, Except.map]

variable (server : Server)

/-- A query that fails before a session only asks for the location. -/
theorem notes_of_failing {e : Failure} {notes : List (Note Request)}
    (hfails : c.task server.client query = .note .asked (.report (.failed e)))
    (h : (c.execute server.client query).Ends notes) : notes = [.asked] := by
  obtain ⟨ms, hdone, rfl⟩ := h
  obtain ⟨stay, hcourse, -⟩ := Execution.exists_course_of_run _ _ _ ms hdone
  rw [show ((c.execute server.client query).run ms).1.notes = _ from hcourse, hfails]
  simp only [Task.course, Task.report]
  split <;> rfl

theorem ends_answers :
    (c.execute server.client query).Ends (c.answers server.client query none).1 :=
  Execution.ends_drain_leave (Execution.sound_start _ _ c.capacity_pos)

theorem answersOf_execute (ms : List Execution.Move) :
    ∃ k, Execution.answersOf ((c.execute server.client query).run ms).2 =
      (List.range k).map ((c.answers server.client query none).2[·]?) := by
  have hx : Execution.Sound (c.execute server.client query) :=
    Execution.sound_start _ _ c.capacity_pos
  obtain ⟨k, hanswers, -⟩ := Execution.answersOf_run hx ms
  refine ⟨k, ?_⟩
  rw [hanswers, ← (Execution.reaches_drain hx).1]
  rfl

section Session

variable (hlocate : c.locator.locate = .ok location)
  (hheaders : checkHeaders (sessionHeaders c.session) = .ok headers)

include hlocate hheaders

theorem items_answers :
    (c.answers server.client query none).2 =
      items (answered (Link.turnsOf ⟨server, headers⟩ location query)) := by
  have hx : Execution.Sound (c.execute server.client query) :=
    Execution.sound_start _ _ c.capacity_pos
  exact (Execution.reaches_drain hx).1.trans (future_execute c server query hlocate hheaders)

/-- What a query that is over has requested. -/
theorem requested_of_ends {notes : List (Note Request)}
    (h : (c.execute server.client query).Ends notes) :
    ∃ requests, notes = .asked :: requests.map .client ∧
      Requested ⟨server, headers⟩ (Link.turnsOf ⟨server, headers⟩ location query) requests := by
  obtain ⟨ms, hdone, rfl⟩ := h
  exact requested_of_run c server query hlocate hheaders ms hdone

/-- What the requests are when all rows fit. -/
theorem notes_of_fits {notes : List (Note Request)}
    (h : (c.execute server.client query).Ends notes)
    (hfits : Fits (Link.turnsOf ⟨server, headers⟩ location query)) :
    notes = .asked ::
      (Link.requests ⟨server, headers⟩ (Link.turnsOf ⟨server, headers⟩ location query)).map
        .client := by
  obtain ⟨requests, hnotes, hrequested⟩ := requested_of_ends c query server hlocate hheaders h
  rw [hnotes, hrequested.fitting hfits]

/-- What a query that is over has requested when its last turn fails: all that its turns ask for,
with the cancellation after the last, or, when the rows do not fit, what some of the turns before
the last ask for. -/
theorem exists_requests_of_error {before : List Turn} {last : Turn} {e : ClientError}
    (hts : Link.turnsOf ⟨server, headers⟩ location query = before ++ [last])
    (he : last.result = .error e) {notes : List (Note Request)}
    (h : (c.execute server.client query).Ends notes) :
    let link : Link := ⟨server, headers⟩
    ∃ requests, notes = .asked :: requests.map .client ∧
      (requests = link.asked before ++ link.asked [last] ++ link.closing last ∨
        ∃ came handed uri, Stopped before came handed uri ∧ ¬Fits came ∧
          requests = link.asked came ++ link.cancellation uri) := by
  intro link
  obtain ⟨requests, hnotes, -, hall | ⟨came, handed, uri, hstopped, hnot, hsome⟩⟩ :=
    requested_of_ends c query server hlocate hheaders h
  · refine ⟨requests, hnotes, .inl ?_⟩
    rw [hall, hts, Link.requests, Link.asked_append, List.getLast?_concat]
    rfl
  · obtain ⟨hcame, hpages, hmisfit, hleft⟩ := hstopped
    -- the last turn has no page, so that those that came are some of the turns before it
    have hbefore : came <+: before := by
      rw [hts] at hcame
      refine (List.prefix_concat_iff.mp hcame).resolve_left ?_
      rintro rfl
      have := hpages last (by simp)
      simp [Turn.page?_of_error he] at this
    exact ⟨requests, hnotes,
      .inr ⟨came, handed, uri, ⟨hbefore, hpages, hmisfit, hleft⟩, hnot, hsome⟩⟩

end Session

section Busy

variable {waits : Nat → List Reply}
  (hreplies : ∀ reply ∈ server.replies, reply.isBusy = false)
  (hbusy : ∀ i, ∀ reply ∈ waits i, reply.isBusy)

include hreplies hbusy

/-- A few busy replies in each place change neither the answers nor the requests, except that each
request is repeated for those of its place. -/
theorem answers_of_few_busy (hfew : ∀ i, (waits i).length ≤ maxRetries) :
    let busy : Server := { server with replies := delayed waits 0 server.replies }
    let answers := (c.answers server.client query none).2
    (c.answers busy.client query none).2 = answers ∧
      ((∀ e, .error e ∈ answers → e.isMisfit = false) →
        ∃ asked cancelled, (∀ request ∈ asked, request.cancels = false) ∧
          (∀ request ∈ cancelled, request.cancels = true) ∧
          (∀ notes, (c.execute server.client query).Ends notes →
            notes = .asked :: (asked ++ cancelled).map .client) ∧
          ∀ notes, (c.execute busy.client query).Ends notes →
            notes = .asked :: (repeated waits 0 asked ++ cancelled).map .client) := by
  intro busy answers
  rcases connects_or_fails c query with ⟨location, headers, hlocate, hheaders⟩ | ⟨e, hfails⟩
  · let link : Link := ⟨server, headers⟩
    let ts := link.turnsOf location query
    let us := Link.turnsOf ⟨busy, headers⟩ location query
    have hus : us = retried waits 0 ts :=
      (Link.turns_replies server _ headers _ 0 _).trans (Link.turns_delayed hbusy hfew hreplies _ 0)
    have hpages : pagesIn us = pagesIn ts := by rw [hus, pagesIn_retried]
    have hanswers : answers = items (answered ts) :=
      items_answers c query server hlocate hheaders
    refine ⟨?_, fun hproper => ?_⟩
    · rw [items_answers c query busy hlocate hheaders, show Link.turnsOf _ _ _ = _ from hus,
        answered_retried, hanswers]
    · have hfits : Fits ts := by
        rw [fits_iff_items, ← hanswers]
        exact hproper
      have hfits' : Fits us := by rwa [Fits, hpages]
      obtain ⟨uri, huri⟩ := link.exists_requests_eq ts
      refine ⟨link.asked ts, link.cancellation uri, fun _ => link.cancels_of_mem_asked,
        fun _ => link.cancels_of_mem_cancellation, fun notes h => ?_, fun notes h => ?_⟩
      · rw [notes_of_fits c query server hlocate hheaders h hfits]
        exact congrArg (fun requests : List Request => Note.asked :: requests.map Note.client) huri
      · have hasked : link.asked us = repeated waits 0 (link.asked ts) := by
          rw [hus]
          exact Link.asked_retried (Link.atOnce_turns hreplies _) 0
        have hclosing : (us.getLast?.map link.closing).getD [] = link.cancellation uri := by
          rw [hus, ← link.closing_map_prompt, map_prompt_retried, link.closing_map_prompt]
          exact List.append_cancel_left huri
        have hsame : link.requests us =
            repeated waits 0 (link.asked ts) ++ link.cancellation uri := by
          rw [Link.requests, hasked, hclosing]
        rw [notes_of_fits c query busy hlocate hheaders h hfits', Link.requests_replies]
        exact congrArg (fun requests : List Request => Note.asked :: requests.map Note.client) hsame
  · have htask : c.task busy.client query = c.task server.client query := by
      rw [hfails busy, hfails server]
    have hexecute : c.execute busy.client query = c.execute server.client query := by
      simp only [Connector.execute, htask]
    have hnotes (notes : List (Note Request))
        (h : (c.execute server.client query).Ends notes) : notes = [.asked] :=
      notes_of_failing c query server (hfails server) h
    refine ⟨by simp only [Connector.answers, hexecute, answers], fun _ => ⟨[], [], ?_⟩⟩
    rw [hexecute]
    exact ⟨by simp, by simp, hnotes, hnotes⟩

/-- The turns of a query that gets to its last place, when that has one busy reply too many: all but
the last only have other retries, and the last fails, as it does without the busy replies. -/
theorem turnsOf_of_too_many (headers : Headers) (location : Location) {body : String}
    {cutShort : Bool}
    (hfew : ∀ i < server.replies.length, (waits i).length ≤ maxRetries)
    (hlong : (waits server.replies.length)[maxRetries]? = some (.response 503 body cutShort))
    (more : List Reply) {first : List Request} {request : Request}
    (hasked : Link.asked ⟨server, headers⟩ (Link.turnsOf ⟨server, headers⟩ location query) =
      first ++ [request])
    (hfirst : first.length = server.replies.length) :
    let link : Link := ⟨server, headers⟩
    let busy : Server := { server with replies := delayed waits 0 server.replies ++ more }
    ∃ before last last',
      link.turnsOf location query = before ++ [last] ∧
      Link.turnsOf ⟨busy, headers⟩ location query = retried waits 0 before ++ [last'] ∧
      link.asked before = first ∧
      last.result = .error (.status 500 "script exhausted") ∧
      last'.result = .error (.status 503 (if cutShort then "" else body)) ∧
      link.asked [last'] = List.replicate (maxRetries + 1) request ∧
      link.closing last' = request.cancelling := by
  intro link busy
  have hreached : (link.asked (link.turnsOf location query)).length =
      server.replies.length + 1 := by
    rw [hasked, List.length_append, hfirst]
    rfl
  obtain ⟨before, ask, u, hreach, hts, hus⟩ :=
    Link.turns_delayed_append hbusy hlong hfew more hreplies _ (Nat.zero_add _) hreached
  have hus' : Link.turnsOf ⟨busy, headers⟩ location query = _ :=
    (Link.turns_replies server _ headers _ 0 _).trans hus
  have hlast : link.asked [link.turn ask 0 .exhausted] = [ask.request u headers] := by
    simp [link, Link.asking_of_reach _ hreach]
  obtain ⟨hbefore, hrequest⟩ : link.asked before = first ∧ [ask.request u headers] = [request] := by
    rw [Link.turnsOf, hts, Link.asked_append] at hasked
    exact List.append_inj' (hlast ▸ hasked) rfl
  obtain rfl := List.singleton_inj.mp hrequest
  have hresult := Link.result_turn_of_response hreach maxRetries (by simp : 503 ∈ [500, 503]) body
    cutShort
  refine ⟨before, _, _, hts, hus', hbefore, ?_, hresult, ?_, ?_⟩
  · exact Link.result_turn_of_response hreach 0 (by simp) "script exhausted" false
  · simp [link, Link.asking_of_reach _ hreach]
  · rw [Link.closing, hresult]
    exact Link.cancellation_of_reach hreach

/-- One busy reply too many ends the query with what it says, after the last of its requests and, if
this asked for a page, one cancellation. When the rows that came before do not fit, the answers are
over, and the requests may not get there. -/
theorem answers_of_too_many_busy (hlocate : c.locator.locate = .ok location)
    (hheaders : checkHeaders (sessionHeaders c.session) = .ok headers) {body : String}
    {cutShort : Bool} (hfew : ∀ i < server.replies.length, (waits i).length ≤ maxRetries)
    (hlong : (waits server.replies.length)[maxRetries]? = some (.response 503 body cutShort))
    (more : List Reply) {first : List Request} {request : Request}
    (hasked : Link.asked ⟨server, headers⟩ (Link.turnsOf ⟨server, headers⟩ location query) =
      first ++ [request])
    (hfirst : first.length = server.replies.length) :
    let link : Link := ⟨server, headers⟩
    let busy : Server := { server with replies := delayed waits 0 server.replies ++ more }
    let answers := (c.answers server.client query none).2
    let proper := ∀ e, .error e ∈ answers → e.isMisfit = false
    let all := repeated waits 0 first ++ List.replicate (maxRetries + 1) request
    (proper → ∃ rows : List Row,
      answers = rows.map .ok ++ [.error (.protocol "server responded 500: script exhausted")] ∧
        (c.answers busy.client query none).2 = rows.map .ok ++
          [.error (.protocol ("server responded 503: " ++ if cutShort then "" else body))]) ∧
      (¬proper → (c.answers busy.client query none).2 = answers) ∧
      ∀ notes, (c.execute busy.client query).Ends notes →
        ∃ requests, notes = .asked :: requests.map .client ∧
          (requests = all ++ request.cancelling ∨
            ¬proper ∧ link.BrokenOff waits (link.turnsOf location query) first requests) := by
  intro link busy answers proper all
  let ts := link.turnsOf location query
  let us := Link.turnsOf ⟨busy, headers⟩ location query
  obtain ⟨before, last, last', hts, hus, hbefore, hresult, hresult', hlast, hclosing⟩ :=
    turnsOf_of_too_many query server hreplies hbusy headers location hfew hlong more hasked hfirst
  have htslast : ts.getLast? = some last := by
    rw [show ts = _ from hts, List.getLast?_concat]
  have huslast : us.getLast? = some last' := by
    rw [show us = _ from hus, List.getLast?_concat]
  have hpages : pagesIn us = pagesIn ts := by
    rw [show us = _ from hus, show ts = _ from hts, pagesIn_concat_of_error hresult,
      pagesIn_concat_of_error hresult', pagesIn_retried]
  have hfits : Fits us ↔ Fits ts := by rw [Fits, hpages, Fits]
  have hanswers : answers = items (answered ts) :=
    items_answers c query server hlocate hheaders
  have hanswers' : (c.answers busy.client query none).2 = items (answered us) :=
    items_answers c query busy hlocate hheaders
  have hproper : proper ↔ Fits ts := by
    rw [fits_iff_items, ← hanswers]
  refine ⟨fun h => ⟨rowsUnder (pagesIn ts), ?_, ?_⟩, fun h => ?_, fun notes h => ?_⟩
  · rw [hanswers, items_answered_of_error htslast hresult (hproper.mp h)]
    rfl
  · rw [hanswers', items_answered_of_error huslast hresult' (hfits.mpr (hproper.mp h)), hpages]
    rfl
  · rw [hanswers', hanswers, answered_eq_of_not_fits hpages fun h' => h (hproper.mpr h')]
  · have hall : before <+: ts := ⟨[last], hts.symm⟩
    have honce : link.AtOnce before := (Link.atOnce_turns hreplies _).of_leading hall
    obtain ⟨requests, rfl, hrequested | ⟨came, handed, uri, hstopped, hnot, hrequested⟩⟩ :=
      exists_requests_of_error c query busy hlocate hheaders hus hresult' h
    · refine ⟨requests, rfl, .inl ?_⟩
      rw [hrequested, Link.asked_replies, Link.asked_retried honce, hbefore, Link.asked_replies,
        hlast, Link.closing_replies, hclosing]
    · rw [Link.asked_replies, Link.cancellation_replies] at hrequested
      refine ⟨requests, rfl, .inr ⟨fun h => ?_, ?_⟩⟩
      · have hcame : came <+: us := by
          rw [show us = _ from hus]
          exact hstopped.among.trans (List.prefix_append _ _)
        exact hnot ((hfits.mpr (hproper.mp h)).of_leading hcame)
      · rw [hrequested, ← hbefore]
        exact Link.brokenOff_of_stopped hall honce hstopped hnot

end Busy

end Query

/-! ### Retries cannot be seen -/

/-- Up to ten busy replies in each place leave all answers as they are, in every order in which the
two sides move, and when the assembly itself finds nothing wrong, the requests are the same but for
their repetitions. When a place that is reached has eleven busy replies or more, and the assembly
finds nothing wrong, the eleventh is the end: the rows before it are answered and then what it says,
after eleven requests of that place and nothing but a cancellation where it was asked for a page.
When the assembly does find something wrong, the answers are those without the busy replies, and the
requests either get there as well or break off before, with one cancellation where the statement was
left. -/
theorem busy_replies_are_retries (c : Connector) (query : String) (server : Server)
    (waits : Nat → List Reply) (hreplies : ∀ reply ∈ server.replies, reply.isBusy = false)
    (hbusy : ∀ i, ∀ reply ∈ waits i, reply.isBusy) :
    let x := c.execute server.client query
    let answers := (c.answers server.client query none).2
    let proper := ∀ e, .error e ∈ answers → e.isMisfit = false
    let last := server.replies.length
    ((∀ i, (waits i).length ≤ 10) →
      let busy : Server := { server with replies := delayed waits 0 server.replies }
      let y := c.execute busy.client query
      (c.answers busy.client query none).2 = answers ∧
        (∀ ms, ∃ k, Execution.answersOf (y.run ms).2 = (List.range k).map (answers[·]?)) ∧
        (proper → ∃ asked cancelled, (∀ request ∈ asked, request.cancels = false) ∧
          (∀ request ∈ cancelled, request.cancels = true) ∧
          (∀ notes, x.Ends notes ↔ notes = .asked :: (asked ++ cancelled).map .client) ∧
          ∀ notes, y.Ends notes ↔
            notes = .asked :: (repeated waits 0 asked ++ cancelled).map .client)) ∧
    ∀ (location : Location) (headers : Headers) (body : String) (cutShort : Bool)
      (more : List Reply) (first : List Request) (request : Request),
      c.locator.locate = .ok location → checkHeaders (sessionHeaders c.session) = .ok headers →
      (∀ i < last, (waits i).length ≤ 10) →
      (waits last)[10]? = some (.response 503 body cutShort) →
      let link : Link := ⟨server, headers⟩
      let ts := link.turnsOf location query
      link.asked ts = first ++ [request] → first.length = last →
      let busy : Server := { server with replies := delayed waits 0 server.replies ++ more }
      let y := c.execute busy.client query
      let all := repeated waits 0 first ++ List.replicate 11 request
      (proper →
        (∃ rows : List Row,
          answers = rows.map .ok ++ [.error (.protocol "server responded 500: script exhausted")] ∧
            (c.answers busy.client query none).2 = rows.map .ok ++
              [.error (.protocol ("server responded 503: " ++ if cutShort then "" else body))]) ∧
          ∀ notes, y.Ends notes ↔ notes = .asked :: (all ++ request.cancelling).map .client) ∧
        (¬proper → (c.answers busy.client query none).2 = answers ∧
          ∀ notes, y.Ends notes → ∃ requests, notes = .asked :: requests.map .client ∧
            (requests = all ++ request.cancelling ∨ link.BrokenOff waits ts first requests)) := by
  intro x answers proper last
  -- what every end of a query notes is what it notes, as there is such an end
  have hends {busy : Server} {notes : List (Note Request)}
      (h : ∀ notes', (c.execute busy.client query).Ends notes' → notes' = notes) (notes' : List _) :
      (c.execute busy.client query).Ends notes' ↔ notes' = notes := by
    refine ⟨h notes', ?_⟩
    rintro rfl
    exact h _ (ends_answers c query busy) ▸ ends_answers c query busy
  constructor
  · intro hfew busy y
    obtain ⟨hsame, hnotes⟩ := answers_of_few_busy c query server hreplies hbusy hfew
    refine ⟨hsame, fun ms => ?_, fun hproper => ?_⟩
    · rw [show answers = _ from hsame.symm]
      exact answersOf_execute c query busy ms
    · obtain ⟨asked, cancelled, hasked, hcancelled, hplain, hdelayed⟩ := hnotes hproper
      exact ⟨asked, cancelled, hasked, hcancelled, hends hplain, hends hdelayed⟩
  · intro location headers body cutShort more first request hlocate hheaders hfew hlong link ts
      hasked hfirst busy y all
    obtain ⟨hproper, himproper, hnotes⟩ := answers_of_too_many_busy c query server hreplies hbusy
      hlocate hheaders hfew hlong more hasked hfirst
    refine ⟨fun h => ⟨hproper h, hends fun notes hy => ?_⟩,
      fun h => ⟨himproper h, fun notes hy => ?_⟩⟩
    · obtain ⟨requests, rfl, rfl | ⟨hnot, -⟩⟩ := hnotes notes hy
      · rfl
      · exact absurd h hnot
    · obtain ⟨requests, hnotes', hall⟩ := hnotes notes hy
      exact ⟨requests, hnotes', hall.imp_right And.right⟩

/-- A query of one page that is followed to a second, with one busy reply before that, and with
eleven. -/
theorem retries_of_second_page :
    let column := "\x7b\"name\": \"a\", \"type\": \"bigint\"\x7d"
    let page := "\x7b\"id\": \"q\", \"nextUri\": \"http://h/q/2\", \"columns\": [" ++ column ++
      "], \"data\": [[1]]\x7d"
    let c : Connector := ⟨.fixed ⟨"h", 80⟩, ⟨"u", "s", "c", none⟩, 1, Nat.one_pos⟩
    let server : Server := ⟨⟨.domain "h".toList, 80⟩, [.response 200 page false]⟩
    let waits (n i : Nat) : List Reply :=
      if i = 1 then List.replicate n (.response 503 "b" false) else []
    let busy (n : Nat) : Server := { server with replies := delayed (waits n) 0 server.replies }
    (∀ reply ∈ server.replies, reply.isBusy = false) ∧
      (∀ n i, ∀ reply ∈ waits n i, reply.isBusy) ∧
      (c.answers (busy 1).client "SELECT 1" none).2 = (c.answers server.client "SELECT 1" none).2 ∧
      (c.answers (busy 11).client "SELECT 1" none).2.getLast? =
        some (.error (.protocol "server responded 503: b")) := by
  intro column page c server waits busy
  have hreplies : ∀ reply ∈ server.replies, reply.isBusy = false := by decide
  have hbusy (n i : Nat) : ∀ reply ∈ waits n i, reply.isBusy := by
    intro reply hreply
    simp only [waits] at hreply
    split at hreply
    · rw [List.eq_of_mem_replicate hreply]
      rfl
    · simp at hreply
  have hlength (n i : Nat) : (waits n i).length = if i = 1 then n else 0 := by
    simp only [waits]
    split <;> simp
  have hproper : ∀ e, .error e ∈ (c.answers server.client "SELECT 1" none).2 →
      e.isMisfit = false := by
    have hall : (c.answers server.client "SELECT 1" none).2.all
        (fun answer => match answer with
          | .ok _ => true
          | .error e => !e.isMisfit) = true := by
      decide +kernel
    intro e he
    simpa using List.all_eq_true.mp hall _ he
  refine ⟨hreplies, hbusy, ?_, ?_⟩
  · refine ((busy_replies_are_retries c "SELECT 1" server (waits 1) hreplies (hbusy 1)).1 ?_).1
    intro i
    rw [hlength]
    split <;> decide
  · let headers := sessionHeaders c.session
    let post : Request := ⟨.post, "/v1/statement", headers, "SELECT 1"⟩
    let get : Request := ⟨.get, "/q/2", headers, ""⟩
    have hheaders : checkHeaders (sessionHeaders c.session) = .ok headers :=
      checkHeaders_of_all (by decide +kernel)
    have hasked :
        Link.asked ⟨server, headers⟩ (Link.turnsOf ⟨server, headers⟩ ⟨"h", 80⟩ "SELECT 1") =
          [post] ++ [get] := by
      decide +kernel
    have hfew : ∀ i < server.replies.length, (waits 11 i).length ≤ 10 := by
      intro i hi
      have hi' : i ≠ 1 := Nat.ne_of_lt hi
      simp [hlength, hi']
    have hlong : (waits 11 server.replies.length)[10]? = some (.response 503 "b" false) := rfl
    obtain ⟨⟨rows, -, hrows⟩, -⟩ :=
      ((busy_replies_are_retries c "SELECT 1" server (waits 11) hreplies (hbusy 11)).2 ⟨"h", 80⟩
        headers "b" false [] [post] get rfl hheaders hfew hlong hasked rfl).1 hproper
    rw [List.append_nil] at hrows
    rw [show (c.answers (busy 11).client "SELECT 1" none).2 = _ from hrows, List.getLast?_concat]
    rfl

/-- A page whose columns repeat a name, and eleven busy replies where it says to go on: the answers
are over at the name, and nothing is asked for there. -/
theorem repeated_name_before_busy_replies :
    let column := "\x7b\"name\": \"a\", \"type\": \"bigint\"\x7d"
    let page := "\x7b\"id\": \"q\", \"nextUri\": \"http://h/q/2\", " ++
      "\"columns\": [" ++ column ++ ", " ++ column ++ "], \"data\": [[1, 2]]\x7d"
    let c : Connector := ⟨.fixed ⟨"h", 80⟩, ⟨"u", "s", "c", none⟩, 1, Nat.one_pos⟩
    let busy := List.replicate 11 (.response 503 "b" false)
    let server : Server := ⟨⟨.domain "h".toList, 80⟩, .response 200 page false :: busy⟩
    c.answers server.client "SELECT 1" none =
      ([.asked, .client ⟨.post, "/v1/statement", sessionHeaders c.session, "SELECT 1"⟩],
        [.error (.duplicateColumn "a")]) := by
  intro column page c busy server
  let failure? : Except Failure Row → Option Failure
    | .ok _ => none
    | .error e => some e
  have hanswers : (c.answers server.client "SELECT 1" none).2.map failure? =
      [some (.duplicateColumn "a")] := by
    decide +kernel
  obtain ⟨answer, hanswer, hfailure⟩ := List.map_eq_singleton_iff.mp hanswers
  refine Prod.ext (by decide +kernel) (hanswer.trans ?_)
  cases answer with
  | ok row => contradiction
  | error e => rw [Option.some.inj hfailure]

end SqlConnector.Statement
