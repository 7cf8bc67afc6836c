import SqlConnector.Proofs.Statement.Turns

/-!
What closing a statement cancels. A statement is still running when the last page that came says
where it goes on and reports no error. It is cancelled there, except when the listener was lost
while the columns or the rows of that very page were handed over: then what is cancelled is what
the page before said, and nothing when there was none.
-/

namespace SqlConnector.Statement

/-! ### Pages in replies -/

/-- The page in a reply, whatever it was asked for at. -/
def Reply.page? : Reply → Option Page
  | closed => none
  | response status body cutShort =>
      if 200 ≤ status ∧ status < 300 then Page.read? (arriving status body cutShort) else none

/-- The pages in some replies. -/
def pagesOf (replies : List Reply) : List Page := replies.filterMap Reply.page?

theorem Reply.page_eq_ok {reply : Reply} {u : Url} {page : Page} :
    reply.page u = .ok page ↔ reply.page? = some page := by
  cases reply with
  | closed => simp [Reply.page, Reply.page?]
  | response status body cutShort =>
      by_cases h : 200 ≤ status ∧ status < 300
      · have hfinal : isFinal status = true := by
          simp [isFinal]
          omega
        simp only [Reply.page, Reply.page?, hfinal, h, if_true, Bool.not_true, Bool.false_eq_true,
          if_false, and_self]
        cases Page.read? (arriving status body cutShort) <;> simp
      · simp only [Reply.page, Reply.page?, h, if_false]
        split <;> simp

theorem Reply.page?_of_error {reply : Reply} {u : Url} {e : ClientError}
    (h : reply.page u = .error e) : reply.page? = none := by
  cases hpage : reply.page? with
  | none => rfl
  | some page => simp [Reply.page_eq_ok.mpr hpage] at h

theorem Reply.page?_of_isBusy {reply : Reply} (h : reply.isBusy = true) : reply.page? = none := by
  cases reply with
  | closed => rfl
  | response status body cutShort =>
      have hstatus : status = 503 := by simpa [isBusy] using h
      simp [page?, hstatus]

theorem Reply.exhausted_page? : exhausted.page? = none := by
  simp [exhausted, page?]

/-! ### Where a session cancels -/

namespace Link

variable (link : Link) (ask : Ask)

/-- Whether a session cancels as it should after the pages that came. When columns or rows of the
last page found nobody, it cancels what the pages before that one said. -/
structure CancelsAfter (t : Task Request (Ended Request)) (stay : Option Nat)
    (pages : List Page) : Prop where
  closing : (t.course stay).2.closing = link.cancellation
    (cancelAfter ask.cancelUri (if lostPart (t.lost? stay) then pages.dropLast else pages))
  nonempty : lostPart (t.lost? stay) = true → pages ≠ []

theorem cancelsAfter_ended (outcome : Except ClientError Unit) (stay : Option Nat) :
    CancelsAfter link ask (link.ended outcome ask.cancelUri) stay [] :=
  ⟨rfl, by simp⟩

theorem cancelsAfter_note {request : Request} {t : Task Request (Ended Request)}
    {stay : Option Nat} {pages : List Page} (h : CancelsAfter link ask t stay pages) :
    CancelsAfter link ask (.note request t) stay pages :=
  ⟨h.closing, h.nonempty⟩

/-- A page that is handed over is one more that came. -/
theorem cancelsAfter_deliver (columnsSent : Bool) (page : Page)
    {next : String → Bool → Task Request (Ended Request)} (came : Nat → List Page)
    (hcame : came 0 = [])
    (hnext : ∀ uri sent stay, CancelsAfter link (.page uri) (next uri sent) stay
      (came ((next uri sent).course stay).1.length)) (stay : Option Nat) :
    CancelsAfter link ask (link.deliver ask columnsSent page next) stay
      (page :: came ((link.deliver ask columnsSent page next).course stay).1.length) := by
  refine ⟨?_, fun _ => by simp⟩
  -- only when parts were lost is the page itself not what the cancellation goes by
  cases handed_deliver link ask columnsSent page next stay with
  | lost hcourse hlost htaken hshort => simp [hcourse, hlost, hcame]
  | refused hpage hcourse hlost htaken =>
      simp [hcourse, hlost, hcame, hpage]
  | ended hpage hcourse hlost htaken =>
      simp [hcourse, hlost, hcame, hpage]
  | gone uri hpage hcourse hlost htaken =>
      simp [hcourse, hlost, hcame, hpage]
  | followed uri rest hrest hpage hcourse hlost htaken =>
      have h := hnext uri (columnsSent || page.columns.isSome) rest
      rw [hcourse, hlost, h.closing]
      split
      · next hpart =>
          rw [List.dropLast_cons_of_ne_nil (h.nonempty hpart), cancelAfter_cons, hpage]
          rfl
      · rw [cancelAfter_cons, hpage]
        rfl

/-! ### A whole session -/

theorem pagesOf_cons_of_page? {reply : Reply} {page : Page} (h : reply.page? = some page)
    (replies : List Reply) : pagesOf (reply :: replies) = page :: pagesOf replies := by
  simp [pagesOf, h]

theorem pagesOf_cons_of_none {reply : Reply} (h : reply.page? = none) (replies : List Reply) :
    pagesOf (reply :: replies) = pagesOf replies := by
  simp [pagesOf, h]

/-- A session cancels as it should after the pages in the replies to its requests. -/
theorem cancelsAfter_exchange (retries : Nat) (columnsSent : Bool) (replies : List Reply)
    (stay : Option Nat) :
    let session := link.exchange ask retries columnsSent replies
    CancelsAfter link ask session stay
      (pagesOf (replies.take (session.course stay).1.length)) := by
  -- each request has taken one reply, so that the pages are those of as many replies
  induction replies generalizing ask retries columnsSent stay with
  | nil =>
      simp only [List.take_nil, exchange, sent]
      cases link.server.reach ask.uri with
      | error e => exact cancelsAfter_ended link ask (.error e) stay
      | ok u =>
          apply cancelsAfter_note
          cases hpage : Reply.exhausted.page u with
          | ok page => simp [Reply.page_eq_ok, Reply.exhausted_page?] at hpage
          | error e =>
              simp only [replied, hpage]
              exact cancelsAfter_ended link ask (.error e) stay
  | cons reply rest ih =>
      simp only [exchange, sent]
      cases link.server.reach ask.uri with
      | error e => exact cancelsAfter_ended link ask (.error e) stay
      | ok u =>
          apply cancelsAfter_note
          simp only [Task.course, List.length_cons, List.take_succ_cons]
          split
          · next hbusy =>
              rw [pagesOf_cons_of_none (Reply.page?_of_isBusy hbusy.1)]
              exact ih ask (retries - 1) columnsSent stay
          · simp only [replied]
            cases hpage : reply.page u with
            | error e =>
                rw [pagesOf_cons_of_none (Reply.page?_of_error hpage)]
                exact cancelsAfter_ended link ask (.error e) stay
            | ok page =>
                rw [pagesOf_cons_of_page? (Reply.page_eq_ok.mp hpage)]
                exact cancelsAfter_deliver link ask columnsSent page
                  (fun n => pagesOf (rest.take n)) rfl
                  (fun uri sent stay => ih (.page uri) maxRetries sent stay) stay

/-! ### Requests of a session -/

/-- What is done for a query once there is a connection: the session, a failure that is told, and
the close. -/
def task (location : Location) (query : String) : Task Request Unit :=
  (link.run location query).bind Ended.conclude

end Link

/-- What comes after a session is no part of a page. -/
theorem lostPart_lost?_conclude (session : Task Request (Ended Request)) (stay : Option Nat) :
    lostPart ((session.bind Ended.conclude).lost? stay) = lostPart (session.lost? stay) := by
  obtain ⟨rest, -, -, -, hlost⟩ := Task.exists_course_bind Ended.conclude stay session
  rw [hlost]
  cases session.lost? stay with
  | some contact => rfl
  | none =>
      rcases Task.lost?_conclude rest (session.course stay).2 with h | ⟨e, h⟩ <;> simp [h]

/-- The requests of a query whose listener may go away at any point: those that submit and ask for
pages, and then the cancellation of the statement, if it is one that still runs. When columns or
rows of the last page found nobody, it is the page before that says where. So the statement that
still runs is cancelled, and no other, exactly when no columns or rows were lost, or both pages say
the same. -/
theorem cancelled_of_run (link : Link) (location : Location) (query : String)
    (stay : Option Nat) :
    let requests := ((link.task location query).course stay).1
    let asked := requests.filter (!·.cancels)
    let pages := pagesOf (link.server.replies.take asked.length)
    let lost := lostPart ((link.task location query).lost? stay)
    requests = asked ++ link.cancellation (runningUri? (if lost then pages.dropLast else pages)) ∧
      (lost = true → pages ≠ []) ∧
      (requests.filter (·.cancels) = link.cancellation (runningUri? pages) ↔
        lost = false ∨ link.cancellation (runningUri? pages.dropLast) =
          link.cancellation (runningUri? pages)) := by
  intro requests asked pages lost
  let session := link.run location query
  obtain ⟨hclosing, hnonempty⟩ : link.CancelsAfter _ session stay
      (pagesOf (link.server.replies.take (session.course stay).1.length)) :=
    link.cancelsAfter_exchange _ maxRetries false link.server.replies stay
  obtain ⟨came, -, hcame⟩ := link.exists_asked_run location query stay
  obtain ⟨rest, -, hrequests, -, -⟩ := Task.exists_course_bind Ended.conclude stay session
  change requests = _ at hrequests
  have hlost : lostPart (session.lost? stay) = lost := (lostPart_lost?_conclude session stay).symm
  rw [Task.course_conclude, hclosing, Ask.cancelUri, cancelAfter_none, hlost, hcame] at hrequests
  have hasked : asked = link.asked came := by
    simp only [asked, hrequests, link.filter_asked]
  have hpages : pages = pagesOf (link.server.replies.take (link.asked came).length) := by
    simp only [pages, hasked]
  rw [hlost, hcame, ← hpages] at hnonempty
  rw [← hpages] at hrequests
  refine ⟨by rw [hasked, hrequests], hnonempty, ?_⟩
  rw [hrequests, link.filter_cancellation]
  cases lost <;> simp

/-- When the columns of the second page find nobody, the statement is cancelled where this page was
asked for. -/
theorem second_page_cancelled :
    let column := "\x7b\"name\": \"a\", \"type\": \"bigint\"\x7d"
    let page := "\x7b\"id\": \"q\", \"nextUri\": \"http://h/q/2\"\x7d"
    let next := "\x7b\"id\": \"q\", \"nextUri\": \"http://h/q/3\", \"columns\": [" ++ column ++
      "]\x7d"
    let link : Link :=
      ⟨⟨⟨.domain "h".toList, 80⟩, [.response 200 page false, .response 200 next false]⟩, []⟩
    let task := link.task ⟨"h", 80⟩ "SELECT 1"
    let pages := pagesOf link.server.replies
    lostPart (task.lost? (some 1)) = true ∧ pages ≠ [] ∧
      (task.course (some 1)).1 =
        [⟨.post, "/v1/statement", [], "SELECT 1"⟩, ⟨.get, "/q/2", [], ""⟩] ++
          link.cancellation (runningUri? pages.dropLast) := by
  intro column page next link task pages
  have hlost : lostPart (task.lost? (some 1)) = true := by decide +kernel
  have hasked : (task.course (some 1)).1.filter (!·.cancels) =
      [⟨.post, "/v1/statement", [], "SELECT 1"⟩, ⟨.get, "/q/2", [], ""⟩] := by
    decide +kernel
  obtain ⟨hrequests, hnonempty, -⟩ := cancelled_of_run link ⟨"h", 80⟩ "SELECT 1" (some 1)
  rw [show (link.task _ _).course _ = task.course (some 1) from rfl, hasked] at hrequests hnonempty
  rw [show lostPart ((link.task _ _).lost? _) = true from hlost] at hrequests
  exact ⟨hlost, hnonempty hlost, hrequests⟩

/-- A listener that takes the columns of the first page and not its rows leaves the statement
running. -/
theorem running_statement_left :
    let page := "\x7b\"id\": \"q\", \"nextUri\": \"http://h/q/2\", " ++
      "\"columns\": [\x7b\"name\": \"a\", \"type\": \"bigint\"\x7d], \"data\": [[1]]\x7d"
    let link : Link := ⟨⟨⟨.domain "h".toList, 80⟩, [.response 200 page false]⟩, []⟩
    ((link.task ⟨"h", 80⟩ "SELECT 1").course (some 1)).1 =
        [⟨.post, "/v1/statement", [], "SELECT 1"⟩] ∧
      link.cancellation (runningUri? (pagesOf link.server.replies)) =
        [⟨.delete, "/q/2", [], ""⟩] := by
  decide +kernel

end SqlConnector.Statement
