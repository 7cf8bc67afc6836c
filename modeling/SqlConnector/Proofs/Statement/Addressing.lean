import SqlConnector.Connector
import SqlConnector.Proofs.Location
import SqlConnector.Proofs.Stream.Course
import SqlConnector.Statement.Client

/-!
Where statements go. A statement is submitted to a URL that is put together of the scheme, the text
of a location and a path, and this URL is taken apart by other marks than the host text that the
location was read off: its authority ends at the first slash, question mark or number sign. Main
statement: the URL addresses the location exactly when the address in the host text has no such
mark, while a connector is made for every host text with a location.
-/

namespace SqlConnector.Statement

open Location (HasAddress StandsFor scheme)

/-! ### URLs taken apart -/

def endsAuthority (c : Char) : Bool := c = '/' || c = '?' || c = '#'

def endsPath (c : Char) : Bool := c = '?' || c = '#'

/-- What a URL has between its scheme and the first mark that ends an authority. -/
def authority? (uri : String) : Option (List Char) :=
  (Text.dropLead? scheme uri.toList).map fun s => s.takeWhile (!endsAuthority ·)

/-- What a URL has from there on, up to a query or a fragment. -/
def path? (uri : String) : Option (List Char) :=
  (Text.dropLead? scheme uri.toList).map fun s =>
    (s.dropWhile (!endsAuthority ·)).takeWhile (!endsPath ·)

/-- A URL for statements at a location: the authority is the location, and all of it. -/
structure Addresses (uri : String) (l : Location) : Prop where
  authority : authority? uri = some l.toText.toList
  path : path? uri = some statementPath.toList

/-- Where a statement is submitted. -/
def statementUri (l : Location) : String := "http://" ++ l.toText ++ statementPath

theorem dropLead?_statementUri (l : Location) :
    Text.dropLead? scheme (statementUri l).toList =
      some (l.toText.toList ++ statementPath.toList) := by
  rw [Text.dropLead?_eq_some, statementUri, String.append_assoc, String.toList_append,
    String.toList_append]
  rfl

theorem addresses_iff {l : Location} :
    Addresses (statementUri l) l ↔ ∀ c ∈ l.toText.toList, endsAuthority c = false := by
  constructor
  · rintro ⟨hauthority, -⟩ c hc
    rw [authority?, dropLead?_statementUri, Option.map_some, Option.some.injEq] at hauthority
    rw [← hauthority] at hc
    simpa using List.mem_takeWhile_imp hc
  · intro h
    have hmarks : ∀ c ∈ l.toText.toList, (!endsAuthority c) = true := by simpa using h
    constructor
    · rw [authority?, dropLead?_statementUri, Option.map_some,
        List.takeWhile_append_of_pos hmarks]
      simp [statementPath, endsAuthority]
    · rw [path?, dropLead?_statementUri, Option.map_some, List.dropWhile_append_of_pos hmarks]
      rfl

/-- However long anybody listens, the first request is the one that submits the statement, if this
can be sent at all. -/
theorem head?_course_run (link : Link) (l : Location) (query : String) (stay : Option Nat) :
    ((link.run l query).course stay).1.head? =
      (link.server.reach (statementUri l)).toOption.map fun u =>
        ⟨.post, u.target, link.headers, query⟩ := by
  obtain ⟨replied, hrun⟩ : ∃ replied,
      link.run l query = link.sent (.submit (statementUri l) query) replied := by
    unfold Link.run
    cases link.server.replies with
    | nil => exact ⟨_, rfl⟩
    | cons reply rest => exact ⟨_, rfl⟩
  rw [hrun, Link.sent]
  cases hreach : link.server.reach (statementUri l) with
  | error e => simp [hreach, Link.ended, Except.toOption]
  | ok u => simp [hreach, Except.toOption]

/-! ### Marks in host texts -/

theorem endsAuthority_of_port {c : Char} (h : c = '+' ∨ c.isDigit = true) :
    endsAuthority c = false := by
  rw [Bool.eq_false_iff]
  intro hends
  simp only [endsAuthority, Bool.or_eq_true, decide_eq_true_eq] at hends
  rcases hends with (rfl | rfl) | rfl <;> exact absurd h (by decide)

/-- Only the host name of a location can have a mark that ends an authority, and the address that
stands for the location has the same ones. -/
theorem marks_of_standsFor {defaultPort : UInt16} {a : List Char} {l : Location}
    (h : StandsFor defaultPort a l) :
    (∀ c ∈ l.toText.toList, endsAuthority c = false) ↔ ∀ c ∈ a, endsAuthority c = false := by
  have hbehind {s : List Char} (hs : ∀ c ∈ s, c = '+' ∨ c.isDigit = true) (name : List Char) :
      (∀ c ∈ name ++ ':' :: s, endsAuthority c = false) ↔
        ∀ c ∈ name, endsAuthority c = false := by
    rw [List.forall_mem_append, List.forall_mem_cons]
    exact and_iff_left ⟨rfl, fun c hc => endsAuthority_of_port (hs c hc)⟩
  rw [Location.toList_toText, hbehind fun c hc => .inr (Text.isDigit_of_mem_digits hc)]
  cases h with
  | hostname hne hcolon => exact Iff.rfl
  | withPort hne hport => exact (hbehind (Location.mem_of_port? hport) _).symm

/-! ### Connectors -/

/-- A connector is made of a host text exactly when there is a location in it. -/
theorem ofSettings_of_host {s : Settings} {host : String} (hhost : s.host = some host)
    (hne : host ≠ "") :
    (∀ l, Location.parse host Settings.defaultPort = .ok l ↔
        ∃ c, Connector.ofSettings s none = .ok c ∧ c.locator = .fixed l) ∧
      ∀ fault, Location.parse host Settings.defaultPort = .error fault ↔
        Connector.ofSettings s none = .error (.invalidHost host fault) := by
  have hfilled : Settings.filled s.host = some host := by simp [Settings.filled, hhost, hne]
  cases hparse : Location.parse host Settings.defaultPort with
  | ok l => simp [Connector.ofSettings, Connector.locatorOf, hfilled, hparse, Except.map]
  | error fault => simp [Connector.ofSettings, Connector.locatorOf, hfilled, hparse, Except.map]

/-- The first request of a query goes to a URL that addresses the location read off a host text
exactly when no mark that ends an authority is in the address of the text. A connector is made of
every text with a location, marks or not, and any other text is invalid. -/
theorem addressed_iff_no_mark (host : String) :
    (∀ (defaultPort : UInt16) (l : Location), Location.parse host defaultPort = .ok l →
      (∀ (link : Link) (query : String) (stay : Option Nat),
        ((link.run l query).course stay).1.head? =
          (link.server.reach (statementUri l)).toOption.map fun u =>
            ⟨.post, u.target, link.headers, query⟩) ∧
      (Addresses (statementUri l) l ↔
        ∀ a, HasAddress host.toList a → ∀ c ∈ a, endsAuthority c = false)) ∧
    ∀ s : Settings, s.host = some host → host ≠ "" →
      (∀ l, Location.parse host Settings.defaultPort = .ok l ↔
        ∃ c, Connector.ofSettings s none = .ok c ∧ c.locator = .fixed l) ∧
      ∀ fault, Location.parse host Settings.defaultPort = .error fault ↔
        Connector.ofSettings s none = .error (.invalidHost host fault) := by
  refine ⟨?_, fun s hhost hne => ofSettings_of_host hhost hne⟩
  intro defaultPort l h
  obtain ⟨a, haddress, hstands⟩ := Location.parse_eq_ok.mp h
  refine ⟨fun link query stay => head?_course_run link l query stay, ?_⟩
  rw [addresses_iff, marks_of_standsFor hstands]
  constructor
  · intro hmarks b hb
    rwa [hb.unique haddress]
  · exact fun hmarks => hmarks a haddress

/-- A host name with a port is addressed by the URL of its statements. -/
theorem coordinator_addressed :
    let host := "http://presto:8080/"
    let l : Location := ⟨"presto", 8080⟩
    let s : Settings := { host := some host }
    Location.parse host Settings.defaultPort = .ok l ∧ s.host = some host ∧ host ≠ "" ∧
      Addresses (statementUri l) l ∧
      ∃ c, Connector.ofSettings s none = .ok c ∧ c.locator = .fixed l := by
  intro host l s
  have hparse : Location.parse host Settings.defaultPort = .ok l := by decide +kernel
  have hne : host ≠ "" := by decide
  have hunmarked : (Location.address host.toList).all (!endsAuthority ·) = true := by
    decide +kernel
  obtain ⟨haddressed, hconnector⟩ := addressed_iff_no_mark host
  refine ⟨hparse, rfl, hne, (haddressed Settings.defaultPort l hparse).2.mpr ?_,
    ((hconnector s rfl hne).1 l).mp hparse⟩
  intro a ha c hc
  rw [Location.hasAddress_iff.mp ha] at hc
  simpa using List.all_eq_true.mp hunmarked c hc

/-- A path in a host text is read as a part of the host name, and a connector is made; but the URL
of its statements has the host before the path alone for its authority. -/
theorem path_passes_for_hostname :
    let host := "127.0.0.1/p:80"
    let l : Location := ⟨"127.0.0.1/p", 80⟩
    Location.parse host Settings.defaultPort = .ok l ∧
      (∃ c, Connector.ofSettings { host := some host } none = .ok c ∧ c.locator = .fixed l) ∧
      authority? (statementUri l) = some "127.0.0.1".toList ∧
      path? (statementUri l) = some "/p:80/v1/statement".toList ∧
      ¬Addresses (statementUri l) l := by
  intro host l
  have hauthority : authority? (statementUri l) = some "127.0.0.1".toList := by decide +kernel
  have hparse : Location.parse host Settings.defaultPort = .ok l := by decide +kernel
  refine ⟨hparse, ((ofSettings_of_host rfl (by decide)).1 l).mp hparse, hauthority,
    by decide +kernel, ?_⟩
  rintro ⟨haddressed, -⟩
  rw [hauthority] at haddressed
  exact absurd haddressed (by decide +kernel)

end SqlConnector.Statement
