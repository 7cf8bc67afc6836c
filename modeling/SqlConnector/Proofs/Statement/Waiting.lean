import SqlConnector.Proofs.Statement.Paging

/-!
Busy replies. A session asks again while the server is busy, so that a few busy replies before each
of the others change nothing but how often a request is sent: the turns are the same but for their
retries. One busy reply too many is the last of its turn, and the session ends with what it says.
-/

namespace SqlConnector.Statement

open Output (items)

/-- Replies with busy ones before each of them, and after the last; `waits` has those of each
place, of which the first is `i`. -/
def delayed (waits : Nat → List Reply) (i : Nat) : List Reply → List Reply
  | [] => waits i
  | reply :: rest => waits i ++ reply :: delayed waits (i + 1) rest

/-- Requests each of which is sent again for every busy reply of its place. -/
def repeated (waits : Nat → List Reply) (i : Nat) (requests : List Request) : List Request :=
  (requests.zipIdx i).flatMap fun (request, j) => List.replicate ((waits j).length + 1) request

@[simp] theorem repeated_nil (waits : Nat → List Reply) (i : Nat) : repeated waits i [] = [] := rfl

@[simp] theorem repeated_cons (waits : Nat → List Reply) (i : Nat) (request : Request)
    (requests : List Request) :
    repeated waits i (request :: requests) =
      List.replicate ((waits i).length + 1) request ++ repeated waits (i + 1) requests := by
  rw [repeated, List.zipIdx_cons, List.flatMap_cons, repeated]

/-- The turn if the server had never been busy. -/
def Turn.prompt (turn : Turn) : Turn := { turn with retries := 0 }

/-- Turns with a retry for every busy reply of their places. -/
def retried (waits : Nat → List Reply) (i : Nat) (ts : List Turn) : List Turn :=
  (ts.zipIdx i).map fun (turn, j) => { turn with retries := (waits j).length }

@[simp] theorem retried_nil (waits : Nat → List Reply) (i : Nat) : retried waits i [] = [] := rfl

@[simp] theorem retried_cons (waits : Nat → List Reply) (i : Nat) (turn : Turn)
    (ts : List Turn) :
    retried waits i (turn :: ts) =
      { turn with retries := (waits i).length } :: retried waits (i + 1) ts := rfl

/-- The cancellation of what a request asks for: a page is cancelled where it was asked for. -/
def Request.cancelling (request : Request) : List Request :=
  if request.method = .get then [{ request with method := .delete }] else []

/-! ### What does not depend on the retries -/

theorem pagesIn_map_prompt (ts : List Turn) : pagesIn (ts.map Turn.prompt) = pagesIn ts := by
  rw [pagesIn, List.filterMap_map]
  rfl

theorem answered_map_prompt (ts : List Turn) : answered (ts.map Turn.prompt) = answered ts := by
  unfold answered
  rw [pagesIn_map_prompt, List.getLast?_map]
  simp only [Option.map_map]
  rfl

section Retried

variable (waits : Nat → List Reply) (i : Nat) (ts : List Turn)

theorem map_prompt_retried : (retried waits i ts).map Turn.prompt = ts.map Turn.prompt := by
  induction ts generalizing i with
  | nil => rfl
  | cons turn ts ih =>
      rw [retried_cons, List.map_cons, List.map_cons, ih]
      rfl

@[simp] theorem pagesIn_retried : pagesIn (retried waits i ts) = pagesIn ts := by
  rw [← pagesIn_map_prompt, map_prompt_retried, pagesIn_map_prompt]

theorem answered_retried : answered (retried waits i ts) = answered ts := by
  rw [← answered_map_prompt, map_prompt_retried, answered_map_prompt]

end Retried

theorem forall_page?_retried {waits : Nat → List Reply} {i : Nat} {ts : List Turn} :
    (∀ turn ∈ retried waits i ts, turn.page?.isSome) ↔ ∀ turn ∈ ts, turn.page?.isSome := by
  induction ts generalizing i with
  | nil => simp
  | cons turn ts ih =>
      rw [retried_cons, List.forall_mem_cons, List.forall_mem_cons, ih]
      rfl

theorem exists_retried_of_prefix {waits : Nat → List Reply} {i : Nat} {ts came : List Turn}
    (h : came <+: retried waits i ts) : ∃ first, first <+: ts ∧ came = retried waits i first := by
  induction ts generalizing i came with
  | nil => exact ⟨[], List.prefix_rfl, List.prefix_nil.mp h⟩
  | cons turn ts ih =>
      cases came with
      | nil => exact ⟨[], List.nil_prefix, rfl⟩
      | cons turn' came =>
          rw [retried_cons, List.cons_prefix_cons] at h
          obtain ⟨rfl, h⟩ := h
          obtain ⟨first, hfirst, rfl⟩ := ih h
          exact ⟨turn :: first, (List.prefix_cons_inj turn).mpr hfirst, rfl⟩

namespace Link

variable (link : Link)

section Replies

variable (server : Server) (others : List Reply) (headers : Headers)

theorem reach_replies (uri : String) :
    Server.reach { server with replies := others } uri = server.reach uri := rfl

/-- The turns go by the replies that are given, not by those of the server. -/
theorem turns_replies (ask : Ask) (tried : Nat) (replies : List Reply) :
    Link.turns ⟨{ server with replies := others }, headers⟩ ask tried replies =
      Link.turns ⟨server, headers⟩ ask tried replies := by
  induction replies generalizing ask tried with
  | nil => simp only [Link.turns, reach_replies]
  | cons reply rest ih => simp only [Link.turns, reach_replies, ih]

/-- What turns ask for goes by the turns, whatever the replies of the server are. -/
theorem asked_replies (ts : List Turn) :
    Link.asked ⟨{ server with replies := others }, headers⟩ ts =
      Link.asked ⟨server, headers⟩ ts := by
  simp only [Link.asked, Link.asking, reach_replies]

theorem cancellation_replies (uri : Option String) :
    Link.cancellation ⟨{ server with replies := others }, headers⟩ uri =
      Link.cancellation ⟨server, headers⟩ uri := by
  cases uri <;> simp only [Link.cancellation, Option.map_none, Option.map_some, reach_replies]

theorem closing_replies (turn : Turn) :
    Link.closing ⟨{ server with replies := others }, headers⟩ turn =
      Link.closing ⟨server, headers⟩ turn := by
  simp only [Link.closing, cancellation_replies]

theorem requests_replies (ts : List Turn) :
    Link.requests ⟨{ server with replies := others }, headers⟩ ts =
      Link.requests ⟨server, headers⟩ ts := by
  rw [Link.requests, asked_replies, funext (closing_replies server others headers), Link.requests]

end Replies

theorem closing_map_prompt (ts : List Turn) :
    ((ts.map Turn.prompt).getLast?.map link.closing).getD [] =
      (ts.getLast?.map link.closing).getD [] := by
  rw [List.getLast?_map, Option.map_map]
  rfl

theorem asked_append (ts us : List Turn) : link.asked (ts ++ us) = link.asked ts ++ link.asked us :=
  List.flatMap_append

theorem asked_leading {ts us : List Turn} (h : ts <+: us) : link.asked ts <+: link.asked us := by
  obtain ⟨more, rfl⟩ := h
  exact ⟨_, (link.asked_append ts more).symm⟩

/-! ### Turns of a server that is busy now and then -/

section Turns

variable {link : Link} {waits : Nat → List Reply}

/-- Busy replies are retries of a turn as long as it has any left. -/
theorem turns_append_busy {busy : List Reply} (hbusy : ∀ reply ∈ busy, reply.isBusy) (ask : Ask)
    {tried : Nat} (hfew : tried + busy.length ≤ maxRetries) (rest : List Reply) :
    link.turns ask tried (busy ++ rest) = link.turns ask (tried + busy.length) rest := by
  induction busy generalizing tried with
  | nil => rfl
  | cons reply busy ih =>
      have hreply : reply.isBusy := hbusy reply List.mem_cons_self
      have hmore : ∀ reply ∈ busy, reply.isBusy :=
        fun reply h => hbusy reply (List.mem_cons_of_mem _ h)
      rw [List.length_cons] at hfew
      have htried : tried < maxRetries := by omega
      rw [List.cons_append, turns, if_pos ⟨hreply, htried⟩, ih hmore (by omega), List.length_cons]
      congr 1
      omega

/-- The turn in which a reply answers after some retries. -/
def turn (link : Link) (ask : Ask) (tried : Nat) (reply : Reply) : Turn :=
  ⟨ask, tried, (link.server.reach ask.uri).bind fun u => reply.page u⟩

@[simp] theorem turn_ask (ask : Ask) (tried : Nat) (reply : Reply) :
    (link.turn ask tried reply).ask = ask := rfl

@[simp] theorem turn_retries (ask : Ask) (tried : Nat) (reply : Reply) :
    (link.turn ask tried reply).retries = tried := rfl

theorem turn_of_reach {ask : Ask} {u : Url} (h : link.server.reach ask.uri = .ok u) (tried : Nat)
    (reply : Reply) : link.turn ask tried reply = ⟨ask, tried, reply.page u⟩ := by
  rw [turn, h]
  rfl

theorem turn_of_unreachable {ask : Ask} {e : ClientError}
    (h : link.server.reach ask.uri = .error e) (tried : Nat) (reply : Reply) :
    link.turn ask tried reply = ⟨ask, tried, .error e⟩ := by
  rw [turn, h]
  rfl

/-- A reply that is not asked for again ends its turn, and the turns after it begin anew. -/
theorem turns_cons_of_last {ask : Ask} {tried : Nat} {reply : Reply}
    (hlast : ¬(reply.isBusy ∧ tried < maxRetries)) (rest : List Reply) :
    link.turns ask tried (reply :: rest) =
      match (link.turn ask 0 reply).next? with
      | some uri => link.turn ask tried reply :: link.turns (.page uri) 0 rest
      | none => [link.turn ask tried reply] := by
  rw [turns, if_neg hlast]
  rfl

theorem next?_turn_of_isBusy {reply : Reply} (hreply : reply.isBusy) (ask : Ask) (tried : Nat) :
    (link.turn ask tried reply).next? = none := by
  cases hreach : link.server.reach ask.uri with
  | error e => rw [link.turn_of_unreachable hreach, Turn.next?_error]
  | ok u =>
      rw [link.turn_of_reach hreach]
      cases h : reply.page u with
      | error e => rfl
      | ok page =>
          have hsome := Reply.page_eq_ok.mp h
          rw [Reply.page?_of_isBusy hreply] at hsome
          contradiction

/-- What has led to a next page could be asked for. -/
theorem exists_reach_of_next? {ask : Ask} {reply : Reply} {uri : String}
    (hnext : (link.turn ask 0 reply).next? = some uri) :
    ∃ u, link.server.reach ask.uri = .ok u := by
  cases hreach : link.server.reach ask.uri with
  | ok u => exact ⟨u, rfl⟩
  | error e =>
      rw [link.turn_of_unreachable hreach, Turn.next?_error] at hnext
      contradiction

/-- Turns without retries, each of which has its request sent, but perhaps the last. -/
inductive AtOnce (link : Link) : List Turn → Prop where
  | nil : AtOnce link []
  | last {turn : Turn} (hretries : turn.retries = 0) : AtOnce link [turn]
  | cons {turn : Turn} {ts : List Turn} {u : Url} (hretries : turn.retries = 0)
      (hreach : link.server.reach turn.ask.uri = .ok u) (hts : AtOnce link ts) :
      AtOnce link (turn :: ts)

theorem AtOnce.of_leading {ts came : List Turn} (h : AtOnce link ts) (hcame : came <+: ts) :
    AtOnce link came := by
  induction h generalizing came with
  | nil =>
      rw [List.prefix_nil.mp hcame]
      exact .nil
  | @last turn hretries =>
      rcases List.prefix_cons_iff.mp hcame with rfl | ⟨first, rfl, hfirst⟩
      · exact .nil
      · rw [List.prefix_nil.mp hfirst]
        exact .last hretries
  | @cons turn ts u hretries hreach hts ih =>
      rcases List.prefix_cons_iff.mp hcame with rfl | ⟨first, rfl, hfirst⟩
      · exact .nil
      · exact .cons hretries hreach (ih hfirst)

/-- A retry sends the request of its turn again. -/
theorem asked_retried {ts : List Turn} (h : AtOnce link ts) (i : Nat) :
    link.asked (retried waits i ts) = repeated waits i (link.asked ts) := by
  induction h generalizing i with
  | nil => rfl
  | @last turn hretries =>
      cases hreach : link.server.reach turn.ask.uri with
      | error e => simp [link.asking_of_unreachable hreach]
      | ok u => simp [link.asking_of_reach hreach, hretries]
  | @cons turn ts u hretries hreach hts ih =>
      have hone : link.asking turn.ask (turn.retries + 1) =
          [turn.ask.request u link.headers] := by
        simp [link.asking_of_reach hreach, hretries]
      rw [retried_cons, asked_cons, asked_cons, ih, hone, List.singleton_append, repeated_cons]
      simp [link.asking_of_reach hreach]

theorem atOnce_turns {replies : List Reply} (hreplies : ∀ reply ∈ replies, reply.isBusy = false)
    (ask : Ask) : AtOnce link (link.turns ask 0 replies) := by
  induction replies generalizing ask with
  | nil => exact .last rfl
  | cons reply rest ih =>
      have hlast : ¬(reply.isBusy ∧ 0 < maxRetries) := by
        simp [hreplies reply List.mem_cons_self]
      rw [turns_cons_of_last hlast]
      cases hnext : (link.turn ask 0 reply).next? with
      | none => exact .last rfl
      | some uri =>
          obtain ⟨u, hreach⟩ := exists_reach_of_next? hnext
          exact .cons rfl hreach (ih (fun reply h => hreplies reply (List.mem_cons_of_mem _ h)) _)

theorem cancellation_of_reach {ask : Ask} {u : Url} (hreach : link.server.reach ask.uri = .ok u) :
    link.cancellation ask.cancelUri = (ask.request u link.headers).cancelling := by
  cases ask with
  | submit uri query => rfl
  | page uri =>
      have huri : link.server.reach uri = .ok u := hreach
      simp [cancellation, huri, Request.cancelling]

theorem result_turn_of_response {ask : Ask} {u : Url} (hreach : link.server.reach ask.uri = .ok u)
    (tried : Nat) {status : Nat} (hstatus : status ∈ [500, 503]) (body : String)
    (cutShort : Bool) :
    (link.turn ask tried (.response status body cutShort)).result =
      .error (.status status (if cutShort then "" else body)) := by
  simp only [List.mem_cons, List.not_mem_nil, or_false] at hstatus
  rcases hstatus with rfl | rfl <;>
    cases cutShort <;> simp [link.turn_of_reach hreach, Reply.page, isFinal, arriving, switching]

variable (hbusy : ∀ i, ∀ reply ∈ waits i, reply.isBusy)

include hbusy

/-- The busy replies of a place are retries of its turn. -/
theorem turns_waits_append (ask : Ask) {i : Nat} (hfew : (waits i).length ≤ maxRetries)
    (rest : List Reply) :
    link.turns ask 0 (waits i ++ rest) = link.turns ask (waits i).length rest := by
  have hroom : 0 + (waits i).length ≤ maxRetries := by
    rw [Nat.zero_add]
    exact hfew
  rw [turns_append_busy (hbusy i) ask hroom, Nat.zero_add]

/-- A few busy replies change no turn but for its retries. -/
theorem turns_delayed (hfew : ∀ i, (waits i).length ≤ maxRetries) {replies : List Reply}
    (hreplies : ∀ reply ∈ replies, reply.isBusy = false) (ask : Ask) (i : Nat) :
    link.turns ask 0 (delayed waits i replies) = retried waits i (link.turns ask 0 replies) := by
  induction replies generalizing ask i with
  | nil =>
      have hturns : link.turns ask 0 (waits i ++ []) = _ := turns_waits_append hbusy ask (hfew i) []
      rw [List.append_nil] at hturns
      rw [delayed, hturns]
      rfl
  | cons reply rest ih =>
      have hlast {tried : Nat} : ¬(reply.isBusy ∧ tried < maxRetries) := by
        simp [hreplies reply List.mem_cons_self]
      have hrest : ∀ reply ∈ rest, reply.isBusy = false :=
        fun reply h => hreplies reply (List.mem_cons_of_mem _ h)
      rw [delayed, turns_waits_append hbusy ask (hfew i), turns_cons_of_last hlast,
        turns_cons_of_last hlast]
      cases hnext : (link.turn ask 0 reply).next? with
      | none => rfl
      | some uri =>
          simp only [ih hrest, retried_cons]
          rfl

/-- One busy reply too many is the last of its turn, and this turn the last of all. -/
theorem turns_of_too_many (ask : Ask) {i : Nat} {reply : Reply}
    (hreply : (waits i)[maxRetries]? = some reply) (more : List Reply) :
    link.turns ask 0 (waits i ++ more) = [link.turn ask maxRetries reply] := by
  have hlong : maxRetries < (waits i).length := (List.getElem?_eq_some_iff.mp hreply).1
  have hcut : waits i = (waits i).take maxRetries ++ reply :: (waits i).drop (maxRetries + 1) := by
    have hat : (waits i)[maxRetries] = reply := (List.getElem?_eq_some_iff.mp hreply).2
    rw [← hat, List.getElem_cons_drop, List.take_append_drop]
  have htried : ((waits i).take maxRetries).length = maxRetries := by
    rw [List.length_take]
    omega
  have hretries : ∀ reply ∈ (waits i).take maxRetries, reply.isBusy :=
    fun reply h => hbusy i reply (List.mem_of_mem_take h)
  have hnext : (link.turn ask 0 reply).next? = none :=
    next?_turn_of_isBusy (hbusy i reply (List.mem_of_getElem? hreply)) ask 0
  rw [hcut, List.append_assoc, turns_append_busy hretries ask (by omega), htried, Nat.zero_add,
    List.cons_append, turns_cons_of_last (by simp), hnext]

/-- When a place that is reached has one busy reply too many, the turns before it only have other
retries, and its own turn is the last. -/
theorem turns_delayed_append {n : Nat} {reply : Reply}
    (hreply : (waits n)[maxRetries]? = some reply)
    (hfew : ∀ j < n, (waits j).length ≤ maxRetries) (more : List Reply) {replies : List Reply}
    (hreplies : ∀ reply ∈ replies, reply.isBusy = false) (ask : Ask) {i : Nat}
    (hn : i + replies.length = n)
    (hreached : (link.asked (link.turns ask 0 replies)).length = replies.length + 1) :
    ∃ first ask', ∃ u, link.server.reach ask'.uri = .ok u ∧
      link.turns ask 0 replies = first ++ [link.turn ask' 0 .exhausted] ∧
      link.turns ask 0 (delayed waits i replies ++ more) =
        retried waits i first ++ [link.turn ask' maxRetries reply] := by
  induction replies generalizing ask i with
  | nil =>
      obtain rfl : i = n := by simpa using hn
      cases hreach : link.server.reach ask.uri with
      | error e => simp [turns, link.asking_of_unreachable hreach] at hreached
      | ok u =>
          refine ⟨[], ask, u, hreach, rfl, ?_⟩
          rw [delayed, turns_of_too_many hbusy ask hreply]
          rfl
  | cons first rest ih =>
      have hlast {tried : Nat} : ¬(first.isBusy ∧ tried < maxRetries) := by
        simp [hreplies first List.mem_cons_self]
      have hrest : ∀ reply ∈ rest, reply.isBusy = false :=
        fun reply h => hreplies reply (List.mem_cons_of_mem _ h)
      rw [List.length_cons] at hn hreached
      rw [turns_cons_of_last hlast] at hreached ⊢
      rw [delayed, List.append_assoc, turns_waits_append hbusy ask (hfew i (by omega)),
        List.cons_append, turns_cons_of_last hlast]
      cases hnext : (link.turn ask 0 first).next? with
      | none =>
          -- a last turn has one request only, so that no later place is reached
          have hone : (link.asked [link.turn ask 0 first]).length ≤ 1 := by
            simp only [asked_cons, asked_nil, asking]
            split <;> simp
          rw [hnext] at hreached
          simp only at hreached
          omega
      | some uri =>
          obtain ⟨u, hreach⟩ := exists_reach_of_next? hnext
          have hmore : (link.asked (link.turns (.page uri) 0 rest)).length = rest.length + 1 := by
            have hone : (link.asking ask 1).length = 1 := by
              simp [link.asking_of_reach hreach]
            rw [hnext] at hreached
            simp only [asked_cons, turn_ask, turn_retries, List.length_append, Nat.zero_add, hone]
              at hreached
            omega
          obtain ⟨ts, ask', u', hreach', hts, hus⟩ :=
            ih hrest (.page uri) (i := i + 1) (by omega) hmore
          refine ⟨link.turn ask 0 first :: ts, ask', u', hreach', ?_, ?_⟩
          · simp only [hts, List.cons_append]
          · simp only [hus, retried_cons, List.cons_append]
            rfl

end Turns

end Link

end SqlConnector.Statement
