import SqlConnector.Proofs.Statement.Handing

/-!
The turns of a session. In each turn one page is asked for, again and again while the server is
busy, and the first turn without a page, or with one that says nothing about where to go on, is the
last. The turns are read off the replies alone. A session goes through them while somebody listens,
and then stops between two of them: it hands over the parts of the pages in order, and what it asks
for are the requests of the turns it has begun. Then it cancels the statement, if the pages that
came say where it goes on.
-/

namespace SqlConnector.Statement

/-- What is asked for, how often it is asked for again, and what comes of it. -/
structure Turn where
  ask : Ask
  retries : Nat
  result : Except ClientError Page

namespace Turn

def page? (turn : Turn) : Option Page := turn.result.toOption

/-- Where the next page is. -/
def next? (turn : Turn) : Option String := turn.page?.bind Page.runningUri

def outcome (turn : Turn) : Except ClientError Unit := turn.result.map fun _ => ()

/-- What is handed over of a last turn after its parts. -/
def words (turn : Turn) : List Delivery :=
  (turn.page?.map fun page => Delivery.event page.lastWord).toList

section Result

variable (ask : Ask) (n : Nat) (page : Page) (e : ClientError)

@[simp] theorem page?_ok : (⟨ask, n, .ok page⟩ : Turn).page? = some page := rfl
@[simp] theorem next?_error : (⟨ask, n, .error e⟩ : Turn).next? = none := rfl
@[simp] theorem outcome_ok : (⟨ask, n, .ok page⟩ : Turn).outcome = .ok () := rfl
@[simp] theorem outcome_error : (⟨ask, n, .error e⟩ : Turn).outcome = .error e := rfl
@[simp] theorem words_ok : (⟨ask, n, .ok page⟩ : Turn).words = [.event page.lastWord] := rfl
@[simp] theorem words_error : (⟨ask, n, .error e⟩ : Turn).words = [] := rfl

end Result

theorem page?_of_ok {turn : Turn} {page : Page} (h : turn.result = .ok page) :
    turn.page? = some page := by
  rw [page?, h]
  rfl

theorem page?_of_error {turn : Turn} {e : ClientError} (h : turn.result = .error e) :
    turn.page? = none := by
  rw [page?, h]
  rfl

end Turn

def Request.cancels (request : Request) : Bool := request.method = .delete

/-- The pages of some turns. -/
def pagesIn (turns : List Turn) : List Page := turns.filterMap Turn.page?

/-- The parts of some pages, with the columns of the first page that has any. -/
@[simp] def partsOf (columnsSent : Bool) : List Page → List Delivery
  | [] => []
  | page :: rest => page.parts columnsSent ++ partsOf (columnsSent || page.columns.isSome) rest

/-! ### Where to cancel -/

/-- Where a statement goes on after some pages, if it is still running then. -/
def runningUri? (pages : List Page) : Option String := pages.getLast?.bind Page.runningUri

/-- Where to cancel after some pages: where the last of them says, and at `first` before any of
them. -/
def cancelAfter (first : Option String) (pages : List Page) : Option String :=
  (pages.getLast?.map Page.runningUri).getD first

@[simp] theorem cancelAfter_nil (first : Option String) : cancelAfter first [] = first := rfl

@[simp] theorem cancelAfter_cons (first : Option String) (page : Page) (pages : List Page) :
    cancelAfter first (page :: pages) = cancelAfter page.runningUri pages := by
  cases pages with
  | nil => rfl
  | cons p rest => simp [cancelAfter, List.getLast?_cons]

theorem cancelAfter_none (pages : List Page) : cancelAfter none pages = runningUri? pages := by
  unfold cancelAfter runningUri?
  cases pages.getLast? <;> rfl

/-- Where a session cancels whose listener goes away after some pages, `handed` of their parts:
where the last page says, or, when a part of this page found nobody, where it was asked for. -/
inductive LeftAt (first : Option String) (columnsSent : Bool) (pages : List Page)
    (handed : List Delivery) : Option String → Prop where
  | after (hall : handed = partsOf columnsSent pages) :
      LeftAt first columnsSent pages handed (cancelAfter first pages)
  | within (hbefore : partsOf columnsSent pages.dropLast <+: handed)
      (hhanded : handed <+: partsOf columnsSent pages)
      (hshort : handed ≠ partsOf columnsSent pages) :
      LeftAt first columnsSent pages handed (cancelAfter first pages.dropLast)

theorem LeftAt.handed_leading {first uri : Option String} {columnsSent : Bool} {pages : List Page}
    {handed : List Delivery} (h : LeftAt first columnsSent pages handed uri) :
    handed <+: partsOf columnsSent pages := by
  cases h with
  | after hall => exact hall ▸ List.prefix_rfl
  | within hbefore hhanded hshort => exact hhanded

/-- One more page, before the others. -/
theorem LeftAt.cons {page : Page} {uri : Option String} {columnsSent : Bool} {pages : List Page}
    {handed : List Delivery}
    (h : LeftAt page.runningUri (columnsSent || page.columns.isSome) pages handed uri)
    (first : Option String) :
    LeftAt first columnsSent (page :: pages) (page.parts columnsSent ++ handed) uri := by
  cases h with
  | after hall =>
      rw [← cancelAfter_cons first]
      exact .after (by rw [hall, partsOf])
  | within hbefore hhanded hshort =>
      have hne : pages ≠ [] := by
        rintro rfl
        exact hshort (List.prefix_nil.mp hhanded)
      rw [← cancelAfter_cons first, ← List.dropLast_cons_of_ne_nil hne]
      refine .within ?_ ?_ ?_
      · rw [List.dropLast_cons_of_ne_nil hne, partsOf]
        exact (List.prefix_append_right_inj _).mpr hbefore
      · exact (List.prefix_append_right_inj _).mpr hhanded
      · exact fun hall => hshort (List.append_cancel_left hall)

/-- After all parts of one page. -/
theorem LeftAt.of_page {page : Page} {columnsSent : Bool} {handed : List Delivery}
    (hall : handed = page.parts columnsSent) (first : Option String) :
    LeftAt first columnsSent [page] handed page.runningUri := by
  have h : LeftAt page.runningUri (columnsSent || page.columns.isSome) [] [] page.runningUri :=
    .after rfl
  simpa [hall] using h.cons first

/-- After some parts of one page. -/
theorem LeftAt.of_parts {page : Page} {columnsSent : Bool} {handed : List Delivery}
    (hhanded : handed <+: page.parts columnsSent) (hshort : handed ≠ page.parts columnsSent)
    (first : Option String) : LeftAt first columnsSent [page] handed first := by
  have hparts : partsOf columnsSent [page] = page.parts columnsSent := List.append_nil _
  rw [← hparts] at hhanded hshort
  exact .within List.nil_prefix hhanded hshort

namespace Link

variable (link : Link)

/-- The turns from an ask on, which was sent `tried` times already. -/
def turns (ask : Ask) (tried : Nat) : List Reply → List Turn
  | [] => [⟨ask, tried, (link.server.reach ask.uri).bind fun u => Reply.exhausted.page u⟩]
  | reply :: rest =>
      if reply.isBusy ∧ tried < maxRetries then turns ask (tried + 1) rest
      else
        let turn : Turn := ⟨ask, tried, (link.server.reach ask.uri).bind fun u => reply.page u⟩
        match turn.next? with
        | some uri => turn :: turns (.page uri) 0 rest
        | none => [turn]

/-- Some requests for the same, if they can be sent. -/
def asking (ask : Ask) (n : Nat) : List Request :=
  match link.server.reach ask.uri with
  | .ok u => List.replicate n (ask.request u link.headers)
  | .error _ => []

@[simp] theorem asking_zero (ask : Ask) : link.asking ask 0 = [] := by
  unfold asking
  split <;> rfl

theorem asking_of_reach {ask : Ask} {u : Url} (h : link.server.reach ask.uri = .ok u) (n : Nat) :
    link.asking ask n = List.replicate n (ask.request u link.headers) := by
  rw [asking, h]

theorem asking_of_unreachable {ask : Ask} {e : ClientError}
    (h : link.server.reach ask.uri = .error e) (n : Nat) : link.asking ask n = [] := by
  rw [asking, h]

/-- The requests of some turns. -/
def asked (turns : List Turn) : List Request :=
  turns.flatMap fun turn => link.asking turn.ask (turn.retries + 1)

@[simp] theorem asked_nil : link.asked [] = [] := rfl

@[simp] theorem asked_cons (turn : Turn) (ts : List Turn) :
    link.asked (turn :: ts) = link.asking turn.ask (turn.retries + 1) ++ link.asked ts :=
  List.flatMap_cons

/-- The cancellation after a last turn: what failed to come is cancelled where it was asked for. -/
def closing (turn : Turn) : List Request :=
  match turn.result with
  | .ok _ => []
  | .error _ => link.cancellation turn.ask.cancelUri

@[simp] theorem closing_ok (ask : Ask) (n : Nat) (page : Page) :
    link.closing ⟨ask, n, .ok page⟩ = [] := rfl

@[simp] theorem closing_error (ask : Ask) (n : Nat) (e : ClientError) :
    link.closing ⟨ask, n, .error e⟩ = link.cancellation ask.cancelUri := rfl

theorem turns_of_unreachable {ask : Ask} {e : ClientError}
    (h : link.server.reach ask.uri = .error e) (tried : Nat) (replies : List Reply) :
    ∃ n, link.turns ask tried replies = [⟨ask, n, .error e⟩] := by
  induction replies generalizing tried with
  | nil => exact ⟨tried, by simp [turns, h, Except.bind]⟩
  | cons reply rest ih =>
      simp only [turns]
      split
      · exact ih (tried + 1)
      · exact ⟨tried, by simp [h, Except.bind]⟩

/-! ### Going through the turns -/

/-- The ways through some turns: all of them, or some that all have a page, when the listener goes
away. Before any page the statement would be cancelled at `first`. -/
inductive Walked (ts : List Turn) (first : Option String) (columnsSent : Bool)
    (t : Task Request (Ended Request)) (stay : Option Nat) : Prop where
  | through (last : Turn) (hlast : ts.getLast? = some last)
      (hcourse : t.course stay = (link.asked ts, ⟨last.outcome, link.closing last⟩))
      (htaken : t.taken stay = partsOf columnsSent (pagesIn ts) ++ last.words)
  | stopped (hstay : stay ≠ none) (came : List Turn) (hcame : came <+: ts)
      (hpages : ∀ turn ∈ came, turn.page?.isSome) (uri : Option String)
      (hcourse : t.course stay = (link.asked came, ⟨.error .disconnected, link.cancellation uri⟩))
      (hleft : LeftAt first columnsSent (pagesIn came) (t.taken stay) uri)

theorem pagesIn_cons {turn : Turn} {page : Page} (h : turn.result = .ok page) (ts : List Turn) :
    pagesIn (turn :: ts) = page :: pagesIn ts := by
  rw [pagesIn, List.filterMap_cons, Turn.page?_of_ok h, pagesIn]

theorem noteAll_asking {ask : Ask} {u : Url} (h : link.server.reach ask.uri = .ok u) (n : Nat)
    (t : Task Request (Ended Request)) :
    Task.noteAll (link.asking ask n) (.note (ask.request u link.headers) t) =
      Task.noteAll (link.asking ask (n + 1)) t := by
  simp [link.asking_of_reach h, List.replicate_succ']

/-- A last turn without a page. -/
theorem walked_error (ask : Ask) (n : Nat) (e : ClientError) (columnsSent : Bool)
    (stay : Option Nat) :
    Walked link [⟨ask, n, .error e⟩] ask.cancelUri columnsSent
      (Task.noteAll (link.asking ask (n + 1)) (link.ended (.error e) ask.cancelUri)) stay := by
  refine .through _ rfl ?_ ?_
  · simp [asked]
  · have hpages : pagesIn [⟨ask, n, .error e⟩] = [] := rfl
    simp [hpages]

section Walked

variable {link : Link} {turn : Turn} {page : Page} {columnsSent : Bool} {stay : Option Nat}
  {t : Task Request (Ended Request)}

/-- The listener goes away in the first turn. -/
theorem Walked.of_first (hturn : turn.result = .ok page) {ts : List Turn}
    {first : Option String} (uri : Option String) (hstay : stay ≠ none)
    (hcourse : t.course stay =
      (link.asking turn.ask (turn.retries + 1), ⟨.error .disconnected, link.cancellation uri⟩))
    (hleft : LeftAt first columnsSent [page] (t.taken stay) uri) :
    Walked link (turn :: ts) first columnsSent t stay := by
  refine .stopped hstay [turn] ⟨ts, rfl⟩ ?_ uri ?_ ?_
  · simp [Turn.page?_of_ok hturn]
  · simp [hcourse]
  · rwa [pagesIn_cons hturn]

/-- A turn with a page goes before the turns of the next page, however far these go. -/
theorem Walked.cons (hturn : turn.result = .ok page) {ts : List Turn}
    {rest : Task Request (Ended Request)} {left : Option Nat}
    (h : Walked link ts page.runningUri (columnsSent || page.columns.isSome) rest left)
    (hstays : stay = none → left = none)
    (hcourse : t.course stay =
      (link.asking turn.ask (turn.retries + 1) ++ (rest.course left).1, (rest.course left).2))
    (htaken : t.taken stay = page.parts columnsSent ++ rest.taken left) (first : Option String) :
    Walked link (turn :: ts) first columnsSent t stay := by
  cases h with
  | through last hlast hcourse' htaken' =>
      refine .through last ?_ ?_ ?_
      · simp [List.getLast?_cons, hlast]
      · simp [hcourse, hcourse']
      · simp [htaken, htaken', pagesIn_cons hturn]
  | stopped hstay came hcame hpages uri hcourse' hleft =>
      refine .stopped (fun h => hstay (hstays h)) (turn :: came) ?_ ?_ uri ?_ ?_
      · exact (List.prefix_cons_inj turn).mpr hcame
      · exact List.forall_mem_cons.mpr ⟨by simp [Turn.page?_of_ok hturn], hpages⟩
      · simp [hcourse, hcourse']
      · rw [htaken, pagesIn_cons hturn]
        exact hleft.cons first

end Walked

/-- A turn whose page is handed over, and the turns after it. -/
theorem walked_deliver (ask : Ask) (n : Nat) (page : Page) (columnsSent : Bool)
    {next : String → Bool → Task Request (Ended Request)} {later : String → List Turn}
    (hnext : ∀ uri columnsSent stay,
      Walked link (later uri) (some uri) columnsSent (next uri columnsSent) stay)
    (stay : Option Nat) :
    Walked link
      (match page.runningUri with
        | some uri => ⟨ask, n, .ok page⟩ :: later uri
        | none => [⟨ask, n, .ok page⟩])
      ask.cancelUri columnsSent
      (Task.noteAll (link.asking ask (n + 1)) (link.deliver ask columnsSent page next)) stay := by
  let turn : Turn := ⟨ask, n, .ok page⟩
  obtain ⟨ts, hts⟩ : ∃ ts, (match page.runningUri with
      | some uri => turn :: later uri
      | none => [turn]) = turn :: ts := by
    split
    · exact ⟨_, rfl⟩
    · exact ⟨_, rfl⟩
  cases handed_deliver link ask columnsSent page next stay with
  | lost hcourse hlost htaken hshort =>
      rw [hts]
      refine .of_first rfl ask.cancelUri ?_ ?_ ?_
      · rintro rfl
        simp at hlost
      · simp [hcourse, turn]
      · simpa using LeftAt.of_parts htaken hshort ask.cancelUri
  | refused hpage hcourse hlost htaken =>
      rw [hts]
      refine .of_first rfl none (Task.stay_ne_none_of_lost? hlost) ?_ ?_
      · simp [hcourse, turn]
      · simpa [hpage] using LeftAt.of_page htaken ask.cancelUri
  | ended hpage hcourse hlost htaken =>
      have hpages : pagesIn [turn] = [page] := pagesIn_cons rfl []
      simp only [hpage]
      refine .through turn rfl ?_ ?_
      · simp [hcourse, turn]
      · simp [hpages, htaken, turn]
  | gone uri hpage hcourse hlost htaken =>
      rw [hts]
      refine .of_first rfl (some uri) (Task.stay_ne_none_of_lost? hlost) ?_ ?_
      · simp [hcourse, turn]
      · simpa [hpage] using LeftAt.of_page htaken ask.cancelUri
  | followed uri left hleft hpage hcourse hlost htaken =>
      have hrest : Walked link (later uri) page.runningUri (columnsSent || page.columns.isSome)
          (next uri (columnsSent || page.columns.isSome)) left := by
        rw [hpage]
        exact hnext uri _ left
      simp only [hpage]
      refine hrest.cons rfl hleft ?_ ?_ ask.cancelUri
      · simp [hcourse]
      · simp [htaken]

/-- A turn whose request can not be sent. -/
theorem walked_unreachable {ask : Ask} {e : ClientError}
    (h : link.server.reach ask.uri = .error e) (tried : Nat) (columnsSent : Bool)
    (replies : List Reply) (stay : Option Nat) :
    Walked link (link.turns ask tried replies) ask.cancelUri columnsSent
      (Task.noteAll (link.asking ask tried) (link.ended (.error e) ask.cancelUri)) stay := by
  obtain ⟨n, hturns⟩ := link.turns_of_unreachable h tried replies
  rw [hturns, link.asking_of_unreachable h, ← link.asking_of_unreachable h (n + 1)]
  exact walked_error link ask n e columnsSent stay

/-- A session goes through the turns that are read off the replies. -/
theorem walked_exchange (ask : Ask) {tried : Nat} (htried : tried ≤ maxRetries)
    (columnsSent : Bool) (replies : List Reply) (stay : Option Nat) :
    Walked link (link.turns ask tried replies) ask.cancelUri columnsSent
      (Task.noteAll (link.asking ask tried)
        (link.exchange ask (maxRetries - tried) columnsSent replies)) stay := by
  induction replies generalizing ask tried columnsSent stay with
  | nil =>
      cases hreach : link.server.reach ask.uri with
      | error e =>
          simp only [exchange, sent, hreach]
          exact link.walked_unreachable hreach tried columnsSent [] stay
      | ok u =>
          obtain ⟨e, hpage⟩ : ∃ e, Reply.exhausted.page u = .error e := ⟨_, rfl⟩
          simp only [exchange, sent, hreach, replied, hpage, turns, Except.bind]
          rw [link.noteAll_asking hreach]
          exact link.walked_error ask tried e columnsSent stay
  | cons reply rest ih =>
      cases hreach : link.server.reach ask.uri with
      | error e =>
          simp only [exchange, sent, hreach]
          exact link.walked_unreachable hreach tried columnsSent (reply :: rest) stay
      | ok u =>
          simp only [exchange, sent, hreach]
          rw [link.noteAll_asking hreach]
          -- a busy reply is one more try in the same turn, any other reply is its result
          by_cases hbusy : reply.isBusy ∧ tried < maxRetries
          · have hretry : reply.isBusy ∧ 0 < maxRetries - tried := ⟨hbusy.1, by omega⟩
            simp only [turns, hbusy, hretry, and_self, if_true]
            exact ih ask hbusy.2 columnsSent stay
          · have hlast : ¬(reply.isBusy ∧ 0 < maxRetries - tried) := by
              rintro ⟨hreply, hretries⟩
              exact hbusy ⟨hreply, by omega⟩
            simp only [turns, hbusy, hlast, if_false, hreach, Except.bind, replied]
            cases hpage : reply.page u with
            | error e => exact link.walked_error ask tried e columnsSent stay
            | ok page =>
                have hnext (uri : String) (columnsSent : Bool) (stay : Option Nat) :
                    Walked link (link.turns (.page uri) 0 rest) (some uri) columnsSent
                      (link.exchange (.page uri) maxRetries columnsSent rest) stay := by
                  have h := ih (.page uri) (Nat.zero_le maxRetries) columnsSent stay
                  rwa [asking_zero] at h
                exact link.walked_deliver ask tried page columnsSent hnext stay

/-- The turns of a query. -/
def turnsOf (location : Location) (query : String) : List Turn :=
  link.turns (.submit ("http://" ++ location.toText ++ statementPath) query) 0 link.server.replies

/-- The session of a query goes through the turns from its submission on. -/
theorem walked_run (location : Location) (query : String) (stay : Option Nat) :
    Walked link (link.turnsOf location query) none false (link.run location query) stay := by
  have h := link.walked_exchange (.submit ("http://" ++ location.toText ++ statementPath) query)
    (Nat.zero_le maxRetries) false link.server.replies stay
  rwa [asking_zero] at h

/-! ### Requests and cancellations -/

theorem cancels_of_mem_cancellation {uri : Option String} {request : Request}
    (h : request ∈ link.cancellation uri) : request.cancels = true := by
  unfold cancellation at h
  split at h
  · rw [List.mem_singleton.mp h]
    rfl
  · simp at h

/-- Turns only submit and ask for pages. -/
theorem cancels_of_mem_asked {ts : List Turn} {request : Request} (h : request ∈ link.asked ts) :
    request.cancels = false := by
  obtain ⟨turn, -, hturn⟩ := List.mem_flatMap.mp h
  unfold asking at hturn
  split at hturn
  · rw [List.eq_of_mem_replicate hturn]
    cases turn.ask <;> rfl
  · simp at hturn

theorem filter_asked (ts : List Turn) (uri : Option String) :
    (link.asked ts ++ link.cancellation uri).filter (!·.cancels) = link.asked ts := by
  have hasked : ∀ request ∈ link.asked ts, request.cancels = false :=
    fun request => link.cancels_of_mem_asked
  have hcancelled : ∀ request ∈ link.cancellation uri, request.cancels = true :=
    fun request => link.cancels_of_mem_cancellation
  rw [List.filter_append, List.filter_eq_self.mpr (by simpa using hasked),
    List.filter_eq_nil_iff.mpr (by simpa using hcancelled), List.append_nil]

theorem filter_cancellation (ts : List Turn) (uri : Option String) :
    (link.asked ts ++ link.cancellation uri).filter (·.cancels) = link.cancellation uri := by
  have hasked : ∀ request ∈ link.asked ts, request.cancels = false :=
    fun request => link.cancels_of_mem_asked
  have hcancelled : ∀ request ∈ link.cancellation uri, request.cancels = true :=
    fun request => link.cancels_of_mem_cancellation
  rw [List.filter_append, List.filter_eq_nil_iff.mpr (by simpa using hasked),
    List.filter_eq_self.mpr hcancelled, List.nil_append]

/-- A session asks for the turns it goes through, and for nothing else. -/
theorem exists_asked_run (location : Location) (query : String) (stay : Option Nat) :
    ∃ came, came <+: link.turnsOf location query ∧
      ((link.run location query).course stay).1 = link.asked came := by
  cases link.walked_run location query stay with
  | through last hlast hcourse htaken => exact ⟨_, List.prefix_rfl, by rw [hcourse]⟩
  | stopped hstay came hcame hpages uri hcourse hleft => exact ⟨came, hcame, by rw [hcourse]⟩

end Link

end SqlConnector.Statement
