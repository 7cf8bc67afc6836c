import SqlConnector.Proofs.Stream.Course
import SqlConnector.Statement.Client

/-!
Handing over one page. Its columns and its rows come first, and then either the last word about the
statement or a look at whether anybody waits for the next page; the listener may go away before any
of them.
-/

namespace SqlConnector.Statement

/-! ### What there is to hand over -/

namespace Page

/-- Where a statement goes on after a page. One that failed does not. -/
def runningUri (page : Page) : Option String :=
  if page.error.isSome then none else page.nextUri

/-- The columns of a page, unless there were some before. -/
def columnParts (columnsSent : Bool) (page : Page) : List Delivery :=
  match columnsSent, page.columns with
  | false, some columns => [.event (.columns (columns.map Heading.name) true)]
  | _, _ => []

/-- The rows of a page. -/
def rowParts (page : Page) : List Delivery :=
  match page.data with
  | some batch => [.event (.data batch)]
  | none => []

def parts (columnsSent : Bool) (page : Page) : List Delivery :=
  page.columnParts columnsSent ++ page.rowParts

/-- What a page says of a statement that does not go on. -/
def lastWord (page : Page) : Event :=
  match page.error with
  | some e => .error e.text
  | none => .success

end Page

/-- Whether what found nobody was columns or rows. -/
def lostPart : Option Task.Contact → Bool
  | some (.offer (.event (.columns _ _))) => true
  | some (.offer (.event (.data _))) => true
  | _ => false

@[simp] theorem lostPart_none : lostPart none = false := rfl

@[simp] theorem lostPart_look : lostPart (some .look) = false := rfl

@[simp] theorem lostPart_failed (e : Failure) :
    lostPart (some (.offer (.failed e))) = false := rfl

@[simp] theorem lostPart_lastWord (page : Page) :
    lostPart (some (.offer (.event page.lastWord))) = false := by
  unfold Page.lastWord
  split <;> rfl

namespace Link

variable (link : Link) (ask : Ask)

section Contact

variable (event : Event) (uri : Option String) (taken : Task Request (Ended Request))
variable (outcome : Except ClientError Unit) (stay : Option Nat)

@[simp] theorem course_ended :
    (link.ended outcome uri).course stay = ([], ⟨outcome, link.cancellation uri⟩) := rfl

@[simp] theorem lost?_ended : (link.ended outcome uri).lost? stay = none := rfl

@[simp] theorem taken_ended : (link.ended outcome uri).taken stay = [] := rfl

@[simp] theorem course_offer :
    (link.offer event uri taken).course stay =
      match Task.stay? stay with
      | some rest => taken.course rest
      | none => ([], ⟨.error .disconnected, link.cancellation uri⟩) := rfl

@[simp] theorem lost?_offer :
    (link.offer event uri taken).lost? stay =
      match Task.stay? stay with
      | some rest => taken.lost? rest
      | none => some (.offer (.event event)) := rfl

@[simp] theorem taken_offer :
    (link.offer event uri taken).taken stay =
      match Task.stay? stay with
      | some rest => .event event :: taken.taken rest
      | none => [] := rfl

end Contact

/-! ### What can come of it -/

/-- All that can come of handing over a page with some parts while the listener may go away. -/
inductive Handed (page : Page) (next : String → Task Request (Ended Request))
    (parts : List Delivery) (t : Task Request (Ended Request)) (stay : Option Nat) : Prop where
  | lost (hcourse : t.course stay = ([], ⟨.error .disconnected, link.cancellation ask.cancelUri⟩))
      (hlost : lostPart (t.lost? stay) = true) (htaken : t.taken stay <+: parts)
      (hshort : t.taken stay ≠ parts)
  | refused (hpage : page.runningUri = none)
      (hcourse : t.course stay = ([], ⟨.error .disconnected, []⟩))
      (hlost : t.lost? stay = some (.offer (.event page.lastWord))) (htaken : t.taken stay = parts)
  | ended (hpage : page.runningUri = none) (hcourse : t.course stay = ([], ⟨.ok (), []⟩))
      (hlost : t.lost? stay = none) (htaken : t.taken stay = parts ++ [.event page.lastWord])
  | gone (uri : String) (hpage : page.runningUri = some uri)
      (hcourse : t.course stay = ([], ⟨.error .disconnected, link.cancellation (some uri)⟩))
      (hlost : t.lost? stay = some .look) (htaken : t.taken stay = parts)
  | followed (uri : String) (rest : Option Nat) (hrest : stay = none → rest = none)
      (hpage : page.runningUri = some uri) (hcourse : t.course stay = (next uri).course rest)
      (hlost : t.lost? stay = (next uri).lost? rest)
      (htaken : t.taken stay = parts ++ (next uri).taken rest)

theorem handed_end (page : Page) (next : String → Task Request (Ended Request))
    (hpage : page.runningUri = none) (stay : Option Nat) :
    Handed link ask page next []
      (link.offer page.lastWord none (link.ended (.ok ()) none)) stay := by
  cases hstay : Task.stay? stay with
  | some rest =>
      refine .ended hpage ?_ ?_ ?_
      · simp [hstay]
      · simp [hstay]
      · simp [hstay]
  | none =>
      refine .refused hpage ?_ ?_ ?_
      · simp [hstay]
      · simp [hstay]
      · simp [hstay]

theorem handed_probe (page : Page) (next : String → Task Request (Ended Request)) {uri : String}
    (hpage : page.runningUri = some uri) (stay : Option Nat) :
    Handed link ask page next []
      (.probe (next uri) (link.ended (.error .disconnected) (some uri))) stay := by
  cases hstay : Task.stay? stay with
  | some rest =>
      refine .followed uri rest (Task.eq_none_of_stay? hstay) hpage ?_ ?_ ?_
      · simp [hstay]
      · simp [hstay]
      · simp [hstay]
  | none =>
      refine .gone uri hpage ?_ ?_ ?_
      · simp [hstay]
      · simp [hstay]
      · simp [hstay]

theorem handed_goOn (page : Page) (next : String → Task Request (Ended Request))
    (stay : Option Nat) : Handed link ask page next [] (link.goOn page next) stay := by
  cases herror : page.error with
  | some e =>
      have hpage : page.runningUri = none := by simp [Page.runningUri, herror]
      simpa [goOn, herror, Page.lastWord] using handed_end link ask page next hpage stay
  | none =>
      cases huri : page.nextUri with
      | none =>
          have hpage : page.runningUri = none := by simp [Page.runningUri, huri]
          simpa [goOn, herror, huri, Page.lastWord] using handed_end link ask page next hpage stay
      | some uri =>
          have hpage : page.runningUri = some uri := by simp [Page.runningUri, herror, huri]
          simpa [goOn, herror, huri] using handed_probe link ask page next hpage stay

/-- One more part, before the others. -/
theorem handed_part {page : Page} {next : String → Task Request (Ended Request)}
    {parts : List Delivery} {event : Event} {taken : Task Request (Ended Request)}
    (hevent : lostPart (some (.offer (.event event))) = true)
    (htaken : ∀ stay, Handed link ask page next parts taken stay) (stay : Option Nat) :
    Handed link ask page next (.event event :: parts)
      (link.offer event ask.cancelUri taken) stay := by
  cases hstay : Task.stay? stay with
  | none =>
      refine .lost ?_ ?_ ?_ ?_
      · simp [hstay]
      · simp [hstay, hevent]
      · simp [hstay]
      · simp [hstay]
  | some rest =>
      have hc : (link.offer event ask.cancelUri taken).course stay = taken.course rest := by
        simp [hstay]
      have hl : (link.offer event ask.cancelUri taken).lost? stay = taken.lost? rest := by
        simp [hstay]
      have ht : (link.offer event ask.cancelUri taken).taken stay =
          .event event :: taken.taken rest := by
        simp [hstay]
      cases htaken rest with
      | lost hcourse hlost hprefix hshort =>
          refine .lost (hc.trans hcourse) (by rw [hl, hlost]) ?_ ?_
          · rw [ht]
            exact (List.prefix_cons_inj _).mpr hprefix
          · rw [ht]
            exact fun h => hshort (List.cons.inj h).2
      | refused hpage hcourse hlost hparts =>
          exact .refused hpage (hc.trans hcourse) (hl.trans hlost) (by rw [ht, hparts])
      | ended hpage hcourse hlost hparts =>
          exact .ended hpage (hc.trans hcourse) (hl.trans hlost) (by rw [ht, hparts]; rfl)
      | gone uri hpage hcourse hlost hparts =>
          exact .gone uri hpage (hc.trans hcourse) (hl.trans hlost) (by rw [ht, hparts])
      | followed uri left hleft hpage hcourse hlost hparts =>
          refine .followed uri left (fun h => hleft (Task.eq_none_of_stay? hstay h)) hpage
            (hc.trans hcourse) (hl.trans hlost) ?_
          rw [ht, hparts]
          rfl

theorem handed_deliverRows {page : Page} {next : String → Task Request (Ended Request)}
    {rest : Task Request (Ended Request)} (hrest : ∀ stay, Handed link ask page next [] rest stay)
    (stay : Option Nat) :
    Handed link ask page next page.rowParts (link.deliverRows ask page rest) stay := by
  unfold Page.rowParts deliverRows
  cases page.data with
  | none => exact hrest stay
  | some batch => exact handed_part link ask rfl hrest stay

theorem handed_deliverColumns {page : Page} {next : String → Task Request (Ended Request)}
    {parts : List Delivery} {rest : Task Request (Ended Request)} (columnsSent : Bool)
    (hrest : ∀ stay, Handed link ask page next parts rest stay) (stay : Option Nat) :
    Handed link ask page next (page.columnParts columnsSent ++ parts)
      (link.deliverColumns ask columnsSent page rest) stay := by
  cases columnsSent with
  | true => exact hrest stay
  | false =>
      unfold Page.columnParts deliverColumns
      cases page.columns with
      | none => exact hrest stay
      | some columns => exact handed_part link ask rfl hrest stay

theorem handed_deliver (columnsSent : Bool) (page : Page)
    (next : String → Bool → Task Request (Ended Request)) (stay : Option Nat) :
    Handed link ask page (next · (columnsSent || page.columns.isSome)) (page.parts columnsSent)
      (link.deliver ask columnsSent page next) stay := by
  apply handed_deliverColumns link ask columnsSent
  apply handed_deliverRows link ask
  exact handed_goOn link ask page _

end Link

end SqlConnector.Statement
