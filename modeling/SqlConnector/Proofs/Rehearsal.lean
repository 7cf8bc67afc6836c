import SqlConnector.Proofs.Stream.Conduct
import SqlConnector.Rehearsal

/-!
Several streams against one script. Each is answered with the items of the script, whatever happens
to the others, and the log has, for each stream that was polled, what its query comes to: a call of
the locator, an attempt to connect if there is a location, and a query that is run and closed if the
attempt succeeds. Whatever acts are carried out, they are moves of the streams in company.
-/

namespace SqlConnector.Rehearsal

open Company (enrol)

/-! ### What a script hands over -/

/-- What is handed over of some steps, up to the first that fails. -/
def deliveriesOf : List Step → List Delivery
  | [] => []
  | .send e :: rest => .event e :: deliveriesOf rest
  | .fail code body :: _ => [.failed (.protocol (ClientError.status code body).message)]

/-- What a query hands over, given what comes of its call of the locator. -/
def Script.deliveries (script : Script) : Except String Location → List Delivery
  | .error reason => [.failed (.locatorUnavailable reason)]
  | .ok _ =>
      match script with
      | .refusing body => [.failed (.protocol (ClientError.status 502 body).message)]
      | .playing steps => deliveriesOf steps

/-- The answers to a query, up to the end. -/
def Script.items (script : Script) (located : Except String Location) :
    List (Except Failure Row) :=
  Output.items (Assembly.empty.outputsOf (script.deliveries located))

/-- Playing some steps, and closing. -/
def performed (steps : List Step) : Task Sighting Unit :=
  (play steps).bind fun outcome => Ended.conclude ⟨outcome, [.closed]⟩

theorem bind_perform (steps : List Step) (query : String) :
    (perform steps query).bind Ended.conclude = .note (.queried query) (performed steps) := by
  rw [perform, Task.bind, Task.bind_assoc]
  rfl

theorem deliveries_performed (steps : List Step) :
    (performed steps).deliveries = deliveriesOf steps := by
  induction steps with
  | nil => rfl
  | cons step rest ih =>
      cases step with
      | send e => exact congrArg (Delivery.event e :: ·) ih
      | fail code body => rfl

theorem deliveries_relabel {ε ι α : Type} (f : ε → ι) (t : Task ε α) :
    (t.relabel f).deliveries = t.deliveries := by
  rw [← Task.taken_none, Task.taken_relabel, Task.taken_none]

/-- The answers do not depend on the query, nor on how many deliveries may wait. -/
theorem future_execute (c : Connector) (script : Script) (query : String) :
    (c.execute script.client query).future = script.items c.locator.locate := by
  rw [Connector.execute, Execution.future_start, Script.items]
  congr 1
  cases hlocate : c.locator.locate with
  | error reason => simp [Connector.task, hlocate, Script.deliveries]
  | ok location =>
      simp only [Connector.task, hlocate, Task.deliveries, deliveries_relabel, Client.converse,
        Script.client, Script.deliveries]
      cases script with
      | refusing body => rfl
      | playing steps =>
          simp only [Script.conversation, bind_perform, Task.noteAll, List.foldr, Task.deliveries,
            deliveries_performed]

/-! ### What the client sees -/

/-- What is seen of a query before anything is handed over. -/
def isOpening : Note Sighting → Bool
  | .asked => true
  | .client (.connected _ _) => true
  | .client (.queried _) => true
  | .client .stoppedEarly => false
  | .client .closed => false

def isClosed : Note Sighting → Bool
  | .client .closed => true
  | _ => false

def opening (c : Connector) (script : Script) (query : String) : List (Note Sighting) :=
  .asked ::
    match c.locator.locate with
    | .error _ => []
    | .ok location =>
        .client (.connected location c.session) ::
          match script with
          | .refusing _ => []
          | .playing _ => [.client (.queried query)]

/-- How often the client is closed for a query. -/
def closings (c : Connector) (script : Script) : Nat :=
  match c.locator.locate, script with
  | .ok _, .playing _ => 1
  | _, _ => 0

/-- However a script is left, only an early stop is seen of it. -/
theorem counts_play {p : Sighting → Bool} (hp : p .stoppedEarly = false) (steps : List Step) :
    (play steps).Counts p 0 := by
  induction steps with
  | nil => rfl
  | cons step rest ih =>
      cases step with
      | send e => exact ⟨ih, 0, by simp [hp], rfl⟩
      | fail code body => rfl

theorem counts_conclude {ε : Type} (p : ε → Bool) (ended : Ended ε) :
    ended.conclude.Counts p (ended.closing.countP p) := by
  have hclose : (Task.noteAll ended.closing (.done ())).Counts p (ended.closing.countP p) :=
    Task.counts_noteAll (t := .done ()) rfl ended.closing
  unfold Ended.conclude
  split
  · exact hclose
  · exact hclose
  · exact ⟨hclose, hclose⟩

/-- There is one closing, whichever way a script goes. -/
theorem counts_performed {p : Sighting → Bool} (hp : p .stoppedEarly = false) (steps : List Step) :
    (performed steps).Counts p ([Sighting.closed].countP p) := by
  have hbind := Task.counts_bind (counts_play hp steps) fun outcome =>
    counts_conclude p ⟨outcome, [.closed]⟩
  rwa [Nat.zero_add] at hbind

/-- What follows the opening of a query. -/
theorem exists_body (c : Connector) (script : Script) (query : String) :
    ∃ body, c.task script.client query = Task.noteAll (opening c script query) body ∧
      ∀ p : Note Sighting → Bool, p (.client .stoppedEarly) = false →
        body.Counts p (closings c script * [Note.client Sighting.closed].countP p) := by
  cases hlocate : c.locator.locate with
  | error reason =>
      refine ⟨.report (.failed (.locatorUnavailable reason)), ?_, fun p _ => ?_⟩
      · simp [Connector.task, opening, hlocate]
      · simp [closings, hlocate]
  | ok location =>
      cases script with
      | refusing body =>
          refine ⟨.report (.failed (.protocol (ClientError.status 502 body).message)), ?_,
            fun p _ => ?_⟩
          · simp [Connector.task, opening, hlocate, Client.converse, Script.client,
              Script.conversation]
          · simp [closings, hlocate]
      | playing steps =>
          refine ⟨(performed steps).relabel .client, ?_, fun p hp => ?_⟩
          · simp [Connector.task, opening, hlocate, Client.converse, Script.client,
              Script.conversation, bind_perform]
          · have hcounts := counts_performed (p := p ∘ Note.client) hp steps
            simpa [closings, hlocate] using Task.counts_relabel hcounts

theorem opens_task (c : Connector) (script : Script) (query : String) :
    (c.task script.client query).Opens isOpening (opening c script query) := by
  obtain ⟨body, htask, hbody⟩ := exists_body c script query
  refine ⟨?_, body, htask, by simpa [isOpening] using hbody isOpening rfl⟩
  unfold opening
  split
  · simp [isOpening]
  · split <;> simp [isOpening]

theorem counts_task (c : Connector) (script : Script) (query : String) :
    (c.task script.client query).Counts isClosed (closings c script) := by
  obtain ⟨body, htask, hbody⟩ := exists_body c script query
  have hopening : (opening c script query).countP isClosed = 0 := by
    unfold opening
    split
    · rfl
    · split <;> rfl
  have hcounts := Task.counts_noteAll (hbody isClosed rfl) (opening c script query)
  rw [← htask, hopening, Nat.zero_add] at hcounts
  simpa [isClosed] using hcounts

/-! ### The log -/

namespace Log

/-- The log of queries with these texts, each of which was carried out to its end. -/
def ofTexts (c : Connector) (script : Script) (texts : List String) (stoppedEarly : Bool) : Log :=
  let n := texts.length
  match c.locator.locate with
  | .error _ => ⟨[], [], [], 0, stoppedEarly, n⟩
  | .ok location =>
      match script with
      | .refusing _ =>
          ⟨List.replicate n location, List.replicate n c.session, [], 0, stoppedEarly, n⟩
      | .playing _ =>
          ⟨List.replicate n location, List.replicate n c.session, texts, n, stoppedEarly, n⟩

theorem queries_ofTexts {c : Connector} {location : Location} (h : c.locator.locate = .ok location)
    (steps : List Step) (texts : List String) (stoppedEarly : Bool) :
    (ofTexts c (.playing steps) texts stoppedEarly).queries = texts := by
  simp only [ofTexts, h]

/-- A log without what is seen of the ends of queries. -/
def opened (log : Log) : Log := { log with closes := 0, stoppedEarly := false }

theorem opened_foldl (log : Log) (notes : List (Note Sighting)) :
    (notes.foldl add log).opened = (notes.filter isOpening).foldl add log.opened := by
  induction notes generalizing log with
  | nil => rfl
  | cons e rest ih =>
      rw [List.foldl_cons, ih]
      match e with
      | .asked => rfl
      | .client (.connected _ _) => rfl
      | .client (.queried _) => rfl
      | .client .stoppedEarly => rfl
      | .client .closed => rfl

theorem closes_foldl (log : Log) (notes : List (Note Sighting)) :
    (notes.foldl add log).closes = log.closes + notes.countP isClosed := by
  induction notes generalizing log with
  | nil => rfl
  | cons e rest ih =>
      rw [List.foldl_cons, ih, List.countP_cons]
      match e with
      | .asked => rfl
      | .client (.connected _ _) => rfl
      | .client (.queried _) => rfl
      | .client .stoppedEarly => rfl
      | .client .closed => simp [add, isClosed, Nat.add_assoc, Nat.add_comm]

/-- What the openings of some queries come to. -/
theorem foldl_openings (c : Connector) (script : Script) (texts : List String) (log : Log) :
    (texts.flatMap (opening c script)).foldl add log =
      let new := ofTexts c script texts false
      { log with
        locations := log.locations ++ new.locations
        sessions := log.sessions ++ new.sessions
        queries := log.queries ++ new.queries
        asked := log.asked + new.asked } := by
  induction texts generalizing log with
  | nil =>
      cases hlocate : c.locator.locate with
      | error reason => simp [ofTexts, hlocate]
      | ok location => cases script <;> simp [ofTexts, hlocate]
  | cons text rest ih =>
      rw [List.flatMap_cons, List.foldl_append, ih]
      cases hlocate : c.locator.locate with
      | error reason => simp [ofTexts, opening, add, hlocate, Nat.add_assoc, Nat.add_comm 1]
      | ok location =>
          cases script <;>
            simp [ofTexts, opening, add, hlocate, Nat.add_assoc, Nat.add_comm 1,
              List.replicate_succ]

/-- A log is told by the openings and the number of closings. -/
theorem ofNotes_eq {c : Connector} {script : Script} {notes : List (Note Sighting)}
    {texts : List String}
    (hopening : notes.filter isOpening = texts.flatMap (opening c script))
    (hcloses : notes.countP isClosed = texts.length * closings c script) :
    ofNotes notes = ofTexts c script texts (ofNotes notes).stoppedEarly := by
  have hopened : (ofNotes notes).opened = _ := opened_foldl empty notes
  have hcount : (ofNotes notes).closes = _ := closes_foldl empty notes
  rw [hopening, foldl_openings] at hopened
  rw [hcloses] at hcount
  generalize ofNotes notes = log at hopened hcount ⊢
  obtain ⟨locations, sessions, queries, closes, stoppedEarly, asked⟩ := log
  simp only [opened, empty, ofTexts, closings, Log.mk.injEq, List.nil_append, Nat.zero_add]
    at hopened hcount ⊢
  cases hlocate : c.locator.locate with
  | error reason => simp_all
  | ok location => cases script <;> simp_all

end Log

/-- Once a query is over, the log is that of its text. -/
theorem log_of_ends {c : Connector} {script : Script} {query : String}
    {notes : List (Note Sighting)} (h : (c.execute script.client query).Ends notes) :
    let log := Log.ofNotes notes
    log = Log.ofTexts c script [query] log.stoppedEarly := by
  obtain ⟨ms, hdone, rfl⟩ := h
  obtain ⟨stay, hcourse, -⟩ := Execution.exists_course_of_run _ _ _ ms hdone
  have hnotes : ((c.execute script.client query).run ms).1.notes =
      ((c.task script.client query).course stay).1 := hcourse
  refine Log.ofNotes_eq ?_ ?_
  · rw [hnotes, Task.filter_course (opens_task c script query)]
    simp
  · rw [hnotes, Task.countP_course (counts_task c script query)]
    simp

/-! ### Acts -/

namespace Act

def query? : Act → Option String
  | .execute query => some query
  | _ => none

@[simp] theorem query?_execute (query : String) : (execute query).query? = some query := rfl
@[simp] theorem query?_poll (i : Nat) : (poll i).query? = none := rfl
@[simp] theorem query?_drain (i : Nat) : (drain i).query? = none := rfl
@[simp] theorem query?_drop (i : Nat) : (drop i).query? = none := rfl

/-- The stream that an act polls. -/
def polled? : Act → Option Nat
  | .poll i => some i
  | .drain i => some i
  | _ => none

@[simp] theorem polled?_execute (query : String) : (execute query).polled? = none := rfl
@[simp] theorem polled?_poll (i : Nat) : (poll i).polled? = some i := rfl
@[simp] theorem polled?_drain (i : Nat) : (drain i).polled? = some i := rfl
@[simp] theorem polled?_drop (i : Nat) : (drop i).polled? = none := rfl

def dropped? : Act → Option Nat
  | .drop i => some i
  | _ => none

@[simp] theorem dropped?_execute (query : String) : (execute query).dropped? = none := rfl
@[simp] theorem dropped?_poll (i : Nat) : (poll i).dropped? = none := rfl
@[simp] theorem dropped?_drain (i : Nat) : (drain i).dropped? = none := rfl
@[simp] theorem dropped?_drop (i : Nat) : (drop i).dropped? = some i := rfl

/-- The stream that something is done with. -/
def stream? (act : Act) : Option Nat := act.polled?.or act.dropped?

end Act

/-- Nothing is done with a stream after it was dropped. -/
def Orderly (acts : List Act) : Prop :=
  acts.Pairwise fun act later => ∀ i ∈ act.dropped?, later.stream? ≠ some i

instance (acts : List Act) : Decidable (Orderly acts) :=
  inferInstanceAs (Decidable (acts.Pairwise _))

/-- The streams that some acts poll, in the order in which they first do. -/
def firstPolls (acts : List Act) : List Nat := (acts.filterMap Act.polled?).foldl enrol []

/-- The answers in the outcome of an act. Those of a stream that is drained are over. -/
def Outcome.told : Act → Outcome → List (Nat × Answer)
  | .poll i, .item answer => [(i, answer)]
  | .drain i, .items all => (all.map some ++ [none]).map fun answer => (i, answer)
  | _, _ => []

@[simp] theorem Outcome.told_item (i : Nat) (answer : Answer) :
    (item answer).told (.poll i) = [(i, answer)] := rfl

@[simp] theorem Outcome.told_items (i : Nat) (all : List (Except Failure Row)) :
    (items all).told (.drain i) = (all.map some ++ [none]).map fun answer => (i, answer) := rfl

@[simp] theorem Outcome.told_execute (query : String) (outcome : Outcome) :
    outcome.told (.execute query) = [] := by
  cases outcome <;> rfl

@[simp] theorem Outcome.told_drop (i : Nat) (outcome : Outcome) : outcome.told (.drop i) = [] := by
  cases outcome <;> rfl

def told (acts : List Act) (outcomes : List Outcome) : List (Nat × Answer) :=
  (acts.zip outcomes).flatMap fun (act, outcome) => outcome.told act

section Acts

variable {z : Company Sighting} {b : Bundle Sighting}

/-- An act is some moves. -/
theorem exists_run_act (hz : z.Sound) (hawaited : z.awaited = none) {act : Act}
    (hact : ∀ i ∈ z.dropped, act.stream? ≠ some i) {outcome : Outcome}
    (h : act? z.bundle act = some (b, outcome)) :
    ∃ ms, z.run ms =
      { bundle := b, queries := z.queries ++ act.query?.toList, awaited := none
        polled := act.polled?.toList.foldl enrol z.polled
        dropped := act.dropped?.toList ++ z.dropped, answers := z.answers ++ outcome.told act } := by
  -- the lemmas about a company's moves start from a stream that has just been stored
  have hstored {i : Nat} {x : Execution (Note Sighting)} (hx : z.bundle.executions[i]? = some x) :
      z.bundle = z.bundle.store i x := by
    obtain ⟨query, -, hmember⟩ := hz.member i x hx
    exact (Bundle.store_self hx hmember.notes).symm
  have hi {i : Nat} {x : Execution (Note Sighting)} (hx : z.bundle.executions[i]? = some x) :
      i < z.bundle.executions.length := (List.getElem?_eq_some_iff.mp hx).1
  have hsound {i : Nat} {x : Execution (Note Sighting)} (hx : z.bundle.executions[i]? = some x)
      (hgone : i ∉ z.dropped) : x.Sound := by
    obtain ⟨query, -, hmember⟩ := hz.member i x hx
    exact hmember.sound hgone
  cases act with
  | execute query =>
      obtain ⟨rfl, rfl⟩ := Prod.mk.inj (Option.some.inj h)
      refine ⟨[.add query], ?_⟩
      simp [Company.run, Company.move, hawaited]
  | poll i =>
      obtain ⟨⟨b', answer⟩, hnext, hb⟩ := Option.map_eq_some_iff.mp h
      obtain ⟨x, hx, hanswer⟩ := Option.map_eq_some_iff.mp hnext
      obtain ⟨rfl, rfl⟩ : z.bundle.store i x.next.1 = b' ∧ x.next.2 = answer :=
        Prod.mk.inj hanswer
      obtain ⟨rfl, rfl⟩ := Prod.mk.inj hb
      have hgone : i ∉ z.dropped := fun hdropped => hact i hdropped rfl
      obtain ⟨ms, hms⟩ :=
        Company.exists_run_next hawaited (hstored hx) (hi hx) hgone (hsound hx hgone)
      refine ⟨ms, hms.trans ?_⟩
      simp [Company.after]
  | drain i =>
      obtain ⟨⟨b', items⟩, hdrain, hb⟩ := Option.map_eq_some_iff.mp h
      obtain ⟨x, hx, hitems⟩ := Option.map_eq_some_iff.mp hdrain
      obtain ⟨rfl, rfl⟩ : z.bundle.store i x.drain.1 = b' ∧ x.drain.2 = items :=
        Prod.mk.inj hitems
      obtain ⟨rfl, rfl⟩ := Prod.mk.inj hb
      have hgone : i ∉ z.dropped := fun hdropped => hact i hdropped rfl
      obtain ⟨ms, hms⟩ :=
        Company.exists_run_drain hawaited (hstored hx) (hi hx) hgone (hsound hx hgone)
      refine ⟨ms, hms.trans ?_⟩
      simp [Company.after]
  | drop i =>
      obtain ⟨b', hleave, hb⟩ := Option.map_eq_some_iff.mp h
      obtain ⟨x, hx, rfl⟩ := Option.map_eq_some_iff.mp hleave
      obtain ⟨rfl, rfl⟩ := Prod.mk.inj hb
      obtain ⟨ms, hms⟩ := Company.exists_run_leave hawaited (hstored hx) (hi hx)
      refine ⟨ms, hms.trans ?_⟩
      simp [hawaited]

/-- Acts are moves too. -/
theorem exists_run_actAll (hz : z.Sound) (hawaited : z.awaited = none) {acts : List Act}
    (horderly : Orderly acts) (hacts : ∀ act ∈ acts, ∀ i ∈ z.dropped, act.stream? ≠ some i)
    {outcomes : List Outcome} (h : actAll? z.bundle acts = some (b, outcomes)) :
    ∃ ms dropped, z.run ms =
      { bundle := b, queries := z.queries ++ acts.filterMap Act.query?, awaited := none
        polled := (acts.filterMap Act.polled?).foldl enrol z.polled, dropped := dropped
        answers := z.answers ++ told acts outcomes } := by
  induction acts generalizing z outcomes with
  | nil =>
      obtain ⟨rfl, rfl⟩ := Prod.mk.inj (Option.some.inj h)
      refine ⟨[], z.dropped, ?_⟩
      simp [Company.run, told, ← hawaited]
  | cons act rest ih =>
      simp only [actAll?, Option.bind_eq_bind, Option.bind_eq_some_iff] at h
      obtain ⟨⟨b', outcome⟩, hact, ⟨b'', outcomes'⟩, hrest, hb⟩ := h
      obtain ⟨rfl, rfl⟩ := Prod.mk.inj (Option.some.inj hb)
      obtain ⟨hfirst, hlater⟩ := List.forall_mem_cons.mp hacts
      obtain ⟨hdrop, horder⟩ := List.pairwise_cons.mp horderly
      obtain ⟨ms, hms⟩ := exists_run_act hz hawaited hfirst hact
      have hdropped : ∀ act' ∈ rest, ∀ i ∈ (z.run ms).dropped, act'.stream? ≠ some i := by
        intro act' hact' i hi
        rw [hms] at hi
        rcases List.mem_append.mp hi with hi | hi
        · exact hdrop act' hact' i (Option.mem_toList.mp hi)
        · exact hlater act' hact' i hi
      obtain ⟨ns, dropped, hns⟩ := ih (z := z.run ms) (Company.run_sound hz ms) (by rw [hms]) horder
        hdropped (by rw [hms]; exact hrest)
      refine ⟨ms ++ ns, dropped, ?_⟩
      rw [Company.run_append, hns, hms]
      simp only [told, List.filterMap_cons, List.zip_cons_cons, List.flatMap_cons,
        List.append_assoc]
      cases act.query? <;> cases act.polled? <;> simp

end Acts

/-- Several streams of one connector, against a client that plays a script. In whatever order the
consumer adds, polls and drops them and the sending sides move, each stream is answered with the
first items of the script, which depend on nothing but the script and what comes of the locator.
When all streams are dropped and done, which can always be brought about, the log is that of the
texts of the streams that were polled, in the order of their first polls. The same holds of the
outcomes and the log of a list of acts, which are carried out in such an order. -/
theorem streams_do_not_interfere (c : Connector) (script : Script) :
    let items := script.items c.locator.locate
    let start := Company.start c script.client
    (∀ ms,
      let z := start.run ms
      let log := Log.ofNotes z.bundle.notes
      (∀ i, ∃ k, z.told i = (List.range k).map (items[·]?)) ∧
        z.polled.Nodup ∧ (∀ i ∈ z.polled, i < z.queries.length) ∧
        (z.Over → log = Log.ofTexts c script (z.polled.map z.text) log.stoppedEarly) ∧
        ∃ more, (z.run more).Over) ∧
    ∀ acts outcomes log, Orderly acts → run? c script acts = some (outcomes, log) →
      let texts := acts.filterMap Act.query?
      let polled := firstPolls acts
      (∀ i, ∃ k, Company.ofStream i (told acts outcomes) = (List.range k).map (items[·]?)) ∧
        log = Log.ofTexts c script (polled.map fun i => texts.getD i "") log.stoppedEarly ∧
        ∃ ms, (start.run ms).Over ∧ (start.run ms).answers = told acts outcomes ∧
          (start.run ms).queries = texts ∧ (start.run ms).polled = polled ∧
          Log.ofNotes (start.run ms).bundle.notes = log := by
  intro items start
  have hsound (ms : List Company.Move) : (start.run ms).Sound :=
    Company.sound_run c script.client ms
  have htold (ms : List Company.Move) (i : Nat) :
      ∃ k, (start.run ms).told i = (List.range k).map (items[·]?) := by
    cases hx : (start.run ms).bundle.executions[i]? with
    | none => exact ⟨0, (hsound ms).untold i (List.getElem?_eq_none_iff.mp hx)⟩
    | some x =>
        obtain ⟨query, -, hmember⟩ := (hsound ms).member i x hx
        obtain ⟨k, htold, -⟩ := hmember.told
        refine ⟨k, ?_⟩
        rw [htold, Company.execution_run, future_execute]
  have hlog (ms : List Company.Move) (hover : (start.run ms).Over) :
      let z := start.run ms
      let log := Log.ofNotes z.bundle.notes
      log = Log.ofTexts c script (z.polled.map z.text) log.stoppedEarly := by
    obtain ⟨owed, hrecorded⟩ :=
      Company.exists_recorded_run c script.client (opens_task c script) ms
    obtain ⟨left, htallied⟩ :=
      Company.exists_tallied_run c script.client (counts_task c script) ms
    refine Log.ofNotes_eq (hrecorded.of_over (hsound ms) hover) ?_
    rw [List.length_map]
    exact htallied.of_over (hsound ms) hover
  constructor
  · intro ms z log
    have hz : z.Sound := hsound ms
    exact ⟨htold ms, hz.nodup, fun i hi => hz.length ▸ hz.bound i (.inl hi), hlog ms,
      Company.exists_run_over hz⟩
  · intro acts outcomes log horderly hrun texts polled
    obtain ⟨⟨b, outcomes'⟩, hacts, heq⟩ := Option.map_eq_some_iff.mp hrun
    obtain ⟨rfl, rfl⟩ := Prod.mk.inj heq
    -- the acts are some moves, and at the end all streams are dropped by some moves more
    obtain ⟨ms, dropped, hms⟩ := exists_run_actAll (Company.sound_start c script.client) rfl
      horderly (by simp) hacts
    obtain ⟨ns, dropped', hns, hover⟩ := Company.exists_run_leaveAll (hsound ms) (by rw [hms])
    rw [← Company.run_append] at hns hover
    rw [hms] at hns
    have htexts := hlog _ hover
    have hanswers := htold (ms ++ ns)
    simp only [Company.told, hns] at htexts hanswers
    refine ⟨hanswers, htexts, ms ++ ns, hover, ?_⟩
    rw [hns]
    exact ⟨rfl, rfl, rfl, rfl⟩

/-- Two streams of which the second is polled first and dropped before its end. -/
theorem log_of_two_streams :
    let c : Connector := ⟨.fixed ⟨"h", 80⟩, ⟨"u", "s", "c", none⟩, 1, Nat.one_pos⟩
    let script : Script := .playing [.send (.columns ["a"] true),
      .send (.data [[.null], [.null]]), .send .success]
    let acts : List Act := [.execute "a", .execute "b", .execute "c", .poll 1, .drain 0, .drop 1]
    Orderly acts ∧ ∃ outcomes log, run? c script acts = some (outcomes, log) ∧
      log.queries = ["b", "a"] ∧ log.closes = 2 ∧ log.asked = 2 := by
  intro c script acts
  have horderly : Orderly acts := by decide
  have hsome : (run? c script acts).isSome = true := by decide +kernel
  obtain ⟨⟨outcomes, log⟩, hrun⟩ := Option.isSome_iff_exists.mp hsome
  obtain ⟨-, hlog, ms, hover, -, -, hpolled, hnotes⟩ :=
    (streams_do_not_interfere c script).2 acts outcomes log horderly hrun
  have hmoves := ((streams_do_not_interfere c script).1 ms).2.2.2.1 hover
  rw [hnotes, hpolled] at hmoves
  refine ⟨horderly, outcomes, log, hrun, ?_, ?_, ?_⟩
  · rw [hlog]
    rfl
  · rw [hlog]
    rfl
  · rw [hmoves]
    rfl

end SqlConnector.Rehearsal
