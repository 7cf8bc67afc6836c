import SqlConnector.Location
import SqlConnector.Proofs.Text.Numeral

/-!
Locations written and read. The address in a host text is what is left of it without the scheme that
it opens with and the slashes that it closes with; a location is read off the address alone. Main
statement: a location is read back from its own text, a text is read alike with and without the
scheme and slashes around it, and the default port is taken exactly when the address has no colon.
-/

namespace SqlConnector.Location

/-! ### Addresses -/

def scheme : List Char := "http://".toList

def slashes (n : Nat) : List Char := List.replicate n '/'

/-- A text of an address, with or without the scheme, and with any number of slashes at its end.
Without the scheme the text does not open with it by chance. -/
structure HasAddress (host address : List Char) : Prop where
  last : address.getLast? ≠ some '/'
  around : ∃ n, host = scheme ++ (address ++ slashes n) ∨
    ¬scheme <+: host ∧ host = address ++ slashes n

theorem address_of_scheme (s : List Char) : address (scheme ++ s) = Text.dropTrailing '/' s := by
  have hlead : Text.dropLead? scheme (scheme ++ s) = some s := Text.dropLead?_eq_some.mpr rfl
  change Text.dropTrailing '/' ((Text.dropLead? scheme (scheme ++ s)).getD (scheme ++ s)) = _
  rw [hlead, Option.getD_some]

theorem address_of_no_scheme {host : List Char} (h : ¬scheme <+: host) :
    address host = Text.dropTrailing '/' host := by
  have hlead : Text.dropLead? scheme host = none := Text.dropLead?_eq_none.mpr h
  change Text.dropTrailing '/' ((Text.dropLead? scheme host).getD host) = _
  rw [hlead, Option.getD_none]

/-- A text has one address, and this is what is read. -/
theorem hasAddress_iff {host a : List Char} : HasAddress host a ↔ a = address host := by
  constructor
  · rintro ⟨hlast, n, rfl | ⟨hscheme, rfl⟩⟩
    · rw [address_of_scheme]
      exact (Text.dropTrailing_append_replicate hlast n).symm
    · rw [address_of_no_scheme hscheme]
      exact (Text.dropTrailing_append_replicate hlast n).symm
  · rintro rfl
    by_cases hscheme : scheme <+: host
    · obtain ⟨s, rfl⟩ := hscheme
      obtain ⟨n, hn⟩ := Text.exists_dropTrailing '/' s
      rw [address_of_scheme]
      exact ⟨Text.getLast?_dropTrailing '/' s, n, .inl (congrArg (scheme ++ ·) hn)⟩
    · obtain ⟨n, hn⟩ := Text.exists_dropTrailing '/' host
      rw [address_of_no_scheme hscheme]
      exact ⟨Text.getLast?_dropTrailing '/' host, n, .inr ⟨hscheme, hn⟩⟩

theorem HasAddress.unique {host a b : List Char} (ha : HasAddress host a) (hb : HasAddress host b) :
    a = b :=
  (hasAddress_iff.mp ha).trans (hasAddress_iff.mp hb).symm

/-! ### Ports -/

theorem port?_eq_some {s : List Char} {port : UInt16} :
    port? s = some port ↔
      ∃ ds, (s = ds ∨ s = '+' :: ds) ∧ Text.isNumeral ds = true ∧
        Text.ofDigits ds = port.toNat := by
  rw [port?, Option.map_eq_some_iff]
  simp only [Text.plusUnsigned?_eq_some, Text.unsigned?_eq_some]
  constructor
  · rintro ⟨n, ⟨ds, hs, hnumeral, hvalue, hlt⟩, rfl⟩
    exact ⟨ds, hs, hnumeral, by rw [hvalue, UInt16.toNat_ofNat_of_lt' hlt]⟩
  · rintro ⟨ds, hs, hnumeral, hvalue⟩
    exact ⟨port.toNat, ⟨ds, hs, hnumeral, hvalue, port.toNat_lt⟩, UInt16.ofNat_toNat⟩

theorem port?_digits (port : UInt16) : port? (Text.digits port.toNat) = some port :=
  port?_eq_some.mpr ⟨_, .inl rfl, Text.isNumeral_digits _, Text.ofDigits_digits _⟩

theorem mem_of_port? {s : List Char} {port : UInt16} (h : port? s = some port) :
    ∀ c ∈ s, c = '+' ∨ c.isDigit = true := by
  obtain ⟨ds, hs, hnumeral, -⟩ := port?_eq_some.mp h
  have hdigits := (Text.isNumeral_iff.mp hnumeral).2
  intro c hc
  rcases hs with rfl | rfl
  · exact .inr (hdigits c hc)
  · rcases List.mem_cons.mp hc with rfl | hc
    · exact .inl rfl
    · exact .inr (hdigits c hc)

theorem colon_not_mem_of_port? {s : List Char} {port : UInt16} (h : port? s = some port) :
    ':' ∉ s := fun hc => absurd (mem_of_port? h ':' hc) (by decide)

/-! ### Reading -/

/-- The location that an address stands for: a host name on the default port, or a host name and
the number of a port behind a colon. -/
inductive StandsFor (defaultPort : UInt16) : List Char → Location → Prop where
  | hostname {hostname : String} (not_empty : hostname ≠ "") (no_colon : ':' ∉ hostname.toList) :
      StandsFor defaultPort hostname.toList ⟨hostname, defaultPort⟩
  | withPort {hostname : String} {ds : List Char} {port : UInt16} (not_empty : hostname ≠ "")
      (number : port? ds = some port) :
      StandsFor defaultPort (hostname.toList ++ ':' :: ds) ⟨hostname, port⟩

theorem split_eq_ok {defaultPort : UInt16} {a : List Char} {l : Location} :
    split defaultPort a = .ok l ↔ StandsFor defaultPort a l := by
  have hname {s : List Char} (h : s ≠ []) : String.ofList s ≠ "" := by
    rwa [ne_eq, String.ofList_eq_empty_iff]
  constructor
  · intro h
    unfold split at h
    split at h
    · next hostname ds hcut =>
        obtain ⟨rfl, -⟩ := Text.cutLast_eq_some hcut
        split at h
        · contradiction
        · next port hport =>
            split at h
            · contradiction
            · next hne =>
                obtain rfl := Except.ok.inj h
                have hstands : StandsFor defaultPort _ _ := .withPort (hname hne) hport
                rwa [String.toList_ofList] at hstands
    · next hcut =>
        split at h
        · contradiction
        · next hne =>
            obtain rfl := Except.ok.inj h
            have hcolon : ':' ∉ (String.ofList a).toList := by
              rw [String.toList_ofList]
              exact Text.cutLast_eq_none.mp hcut
            have hstands : StandsFor defaultPort _ _ := .hostname (hname hne) hcolon
            rwa [String.toList_ofList] at hstands
  · rintro (⟨hne, hcolon⟩ | ⟨hne, hport⟩)
    · rw [split, Text.cutLast_eq_none.mpr hcolon]
      simp [hne]
    · rw [split, Text.cutLast_append_cons _ (colon_not_mem_of_port? hport)]
      simp [hport, hne]

theorem parse_eq_ok {host : String} {defaultPort : UInt16} {l : Location} :
    parse host defaultPort = .ok l ↔
      ∃ a, HasAddress host.toList a ∧ StandsFor defaultPort a l := by
  simp only [parse, split_eq_ok, hasAddress_iff, exists_eq_left]

/-! ### Locations as texts -/

theorem toList_toText (l : Location) :
    l.toText.toList = l.hostname.toList ++ ':' :: Text.digits l.port.toNat := by
  rw [toText, String.toList_append, String.toList_append, Text.toList_toString]
  simp

theorem getLast?_toText (l : Location) : l.toText.toList.getLast? ≠ some '/' := by
  have hne := Text.digits_ne_nil l.port.toNat
  rw [toList_toText, List.getLast?_append_of_ne_nil _ (List.cons_ne_nil _ _),
    List.getLast?_cons_of_ne_nil hne]
  intro h
  exact Text.not_mem_digits (by decide) _ (List.mem_of_getLast? h)

/-- A scheme that the text opens with ends in the host name, since there is no slash behind it. -/
theorem no_scheme_toText {l : Location} (h : ¬scheme <+: l.hostname.toList) :
    ¬scheme <+: l.toText.toList := by
  rintro ⟨rest, hrest⟩
  rw [toList_toText] at hrest
  rcases List.append_eq_append_iff.mp hrest with ⟨more, hname, -⟩ | ⟨shared, hscheme, hport⟩
  · exact h ⟨more, hname.symm⟩
  · have hne : shared ≠ [] := by
      rintro rfl
      exact h ⟨[], by rw [hscheme]; simp⟩
    have hlast : shared.getLast? = some '/' := by
      rw [← List.getLast?_append_of_ne_nil l.hostname.toList hne, ← hscheme]
      rfl
    have hslash : '/' ∈ ':' :: Text.digits l.port.toNat := by
      rw [hport]
      exact List.mem_append_left _ (List.mem_of_getLast? hlast)
    rcases List.mem_cons.mp hslash with hcolon | hdigit
    · exact absurd hcolon (by decide)
    · exact Text.not_mem_digits (by decide) _ hdigit

theorem parse_toText {l : Location} (hne : l.hostname ≠ "") (h : ¬scheme <+: l.hostname.toList)
    (defaultPort : UInt16) : parse l.toText defaultPort = .ok l := by
  have haddress : HasAddress l.toText.toList l.toText.toList :=
    ⟨getLast?_toText l, 0, .inr ⟨no_scheme_toText h, by simp [slashes]⟩⟩
  refine parse_eq_ok.mpr ⟨_, haddress, ?_⟩
  rw [toList_toText]
  exact .withPort hne (port?_digits l.port)

/-! ### Spellings -/

/-- A text with and without the scheme before it, and with and without slashes after it. -/
def spellings (t : String) (n : Nat) : List String :=
  [t, "http://" ++ t, t ++ String.ofList (slashes n), "http://" ++ t ++ String.ofList (slashes n)]

/-- The slashes can complete the scheme, as in `http:/` and one slash. All that is left is then
either `http:` or nothing. -/
theorem address_of_completed {t : List Char} {n : Nat} (h : ¬scheme <+: t)
    (hscheme : scheme <+: t ++ slashes n) :
    Text.dropTrailing '/' t = "http:".toList ∧ address (t ++ slashes n) = [] := by
  obtain ⟨rest, hrest⟩ := hscheme
  rcases List.append_eq_append_iff.mp hrest with ⟨more, ht, -⟩ | ⟨shared, hover, hslashes⟩
  · exact absurd ⟨more, ht.symm⟩ h
  · obtain ⟨-, hover', hrest'⟩ := List.replicate_eq_append_iff.mp hslashes
    constructor
    · rw [← Text.dropTrailing_append_replicate_self '/' t shared.length, ← hover', ← hover]
      decide
    · rw [← hrest, address_of_scheme, hrest']
      exact Text.dropTrailing_replicate '/' _

theorem address_of_mem_spellings {t host : String} {n : Nat} (h : ¬scheme <+: t.toList)
    (hhost : host ∈ spellings t n) :
    address host.toList = Text.dropTrailing '/' t.toList ∨
      address host.toList = address (t.toList ++ slashes n) := by
  have hslashes : (t ++ String.ofList (slashes n)).toList = t.toList ++ slashes n := by
    rw [String.toList_append, String.toList_ofList]
  simp only [spellings, List.mem_cons, List.not_mem_nil, or_false] at hhost
  rcases hhost with rfl | rfl | rfl | rfl
  · exact .inl (address_of_no_scheme h)
  · left
    rw [String.toList_append]
    exact address_of_scheme t.toList
  · right
    rw [hslashes]
  · left
    rw [String.append_assoc, String.toList_append, hslashes]
    exact (address_of_scheme (t.toList ++ slashes n)).trans
      (Text.dropTrailing_append_replicate_self '/' t.toList n)

theorem parse_spellings {t : String} (h : ¬scheme <+: t.toList) (n : Nat) (defaultPort : UInt16) :
    (∃ l, ∀ host ∈ spellings t n, parse host defaultPort = .ok l) ∨
      ∀ host ∈ spellings t n, ∃ fault, parse host defaultPort = .error fault := by
  by_cases hscheme : scheme <+: t.toList ++ slashes n
  · -- the addresses differ here, but none of them is one of a location
    obtain ⟨hkept, hnothing⟩ := address_of_completed h hscheme
    refine .inr fun host hhost => ?_
    rcases address_of_mem_spellings h hhost with haddress | haddress
    · exact ⟨.portNotNumber, by rw [parse, haddress, hkept]; rfl⟩
    · exact ⟨.hostnameEmpty, by rw [parse, haddress, hnothing]; rfl⟩
  · have hslashes : address (t.toList ++ slashes n) = Text.dropTrailing '/' t.toList :=
      (address_of_no_scheme hscheme).trans
        (Text.dropTrailing_append_replicate_self '/' t.toList n)
    have hread : ∀ host ∈ spellings t n,
        parse host defaultPort = split defaultPort (Text.dropTrailing '/' t.toList) := by
      intro host hhost
      rcases address_of_mem_spellings h hhost with haddress | haddress
      · rw [parse, haddress]
      · rw [parse, haddress, hslashes]
    cases hsplit : split defaultPort (Text.dropTrailing '/' t.toList) with
    | ok l => exact .inl ⟨l, fun host hhost => (hread host hhost).trans hsplit⟩
    | error fault => exact .inr fun host hhost => ⟨fault, (hread host hhost).trans hsplit⟩

/-- The slashes make up a scheme here, and nothing is a location with them or without. -/
example :
    parse "http:/" 80 = .error .portNotNumber ∧ parse "http://" 80 = .error .hostnameEmpty := by
  decide

/-! ### The default port -/

theorem StandsFor.port {defaultPort : UInt16} {a : List Char} {l : Location}
    (h : StandsFor defaultPort a l) :
    (':' ∉ a ∧ ∀ q, StandsFor q a { l with port := q }) ∨ (':' ∈ a ∧ ∀ q, StandsFor q a l) := by
  cases h with
  | hostname hne hcolon => exact .inl ⟨hcolon, fun q => .hostname hne hcolon⟩
  | withPort hne hport => exact .inr ⟨by simp, fun q => .withPort hne hport⟩

/-- The port is the default one, whichever that is, or else the one of the text. -/
theorem colon_iff_of_parse {host : String} {defaultPort : UInt16} {l : Location}
    (h : parse host defaultPort = .ok l) :
    ∃ a, (∀ b, HasAddress host.toList b ↔ b = a) ∧
      (':' ∉ a ↔ ∀ q, parse host q = .ok { l with port := q }) ∧
      (':' ∈ a ↔ ∀ q, parse host q = .ok l) := by
  obtain ⟨a, haddress, hstands⟩ := parse_eq_ok.mp h
  have hparse {q : UInt16} {m : Location} : parse host q = .ok m ↔ StandsFor q a m := by
    rw [parse_eq_ok]
    constructor
    · rintro ⟨b, hb, hm⟩
      rwa [haddress.unique hb]
    · exact fun hm => ⟨a, haddress, hm⟩
  have hapart : ¬((∀ q, parse host q = .ok { l with port := q }) ∧ ∀ q, parse host q = .ok l) := by
    rintro ⟨hdefault, hown⟩
    have hports (q : UInt16) : q = l.port :=
      congrArg port (Except.ok.inj ((hdefault q).symm.trans (hown q)))
    exact absurd ((hports 0).trans (hports 1).symm) (by decide)
  refine ⟨a, fun b => ⟨fun hb => hb.unique haddress, fun hb => hb ▸ haddress⟩, ?_⟩
  rcases hstands.port with ⟨hcolon, hall⟩ | ⟨hcolon, hall⟩
  · have hdefault : ∀ q, parse host q = .ok { l with port := q } := fun q => hparse.mpr (hall q)
    exact ⟨iff_of_true hcolon hdefault, iff_of_false hcolon fun hown => hapart ⟨hdefault, hown⟩⟩
  · have hown : ∀ q, parse host q = .ok l := fun q => hparse.mpr (hall q)
    exact ⟨iff_of_false (not_not_intro hcolon) fun hdefault => hapart ⟨hdefault, hown⟩,
      iff_of_true hcolon hown⟩

/-- A location is read back from its text, with any default port; a text is read alike, or rejected,
with and without the scheme before it and slashes after it; and an accepted text has one address,
which has no colon exactly when the default port is taken. -/
theorem hosts_read_alike :
    (∀ (l : Location) (defaultPort : UInt16), l.hostname ≠ "" → ¬scheme <+: l.hostname.toList →
        parse l.toText defaultPort = .ok l) ∧
      (∀ (t : String) (n : Nat) (defaultPort : UInt16), ¬scheme <+: t.toList →
        (∃ l, ∀ host ∈ spellings t n, parse host defaultPort = .ok l) ∨
          ∀ host ∈ spellings t n, ∃ fault, parse host defaultPort = .error fault) ∧
      ∀ (host : String) (defaultPort : UInt16) (l : Location), parse host defaultPort = .ok l →
        ∃ a, (∀ b, HasAddress host.toList b ↔ b = a) ∧
          (':' ∉ a ↔ ∀ q, parse host q = .ok { l with port := q }) ∧
          (':' ∈ a ↔ ∀ q, parse host q = .ok l) :=
  ⟨fun _ defaultPort hne hscheme => parse_toText hne hscheme defaultPort,
    fun _ n defaultPort hscheme => parse_spellings hscheme n defaultPort,
    fun _ _ _ h => colon_iff_of_parse h⟩

/-- A host name with a port, read back from its text and in all spellings of it. -/
theorem coordinator_read_alike :
    let l : Location := ⟨"presto", 8080⟩
    let host := "http://presto:8080//"
    (l.hostname ≠ "" ∧ ¬scheme <+: l.hostname.toList ∧ parse l.toText 8889 = .ok l) ∧
      (¬scheme <+: l.toText.toList ∧ ∀ host ∈ spellings l.toText 2, parse host 8889 = .ok l) ∧
      parse host 8889 = .ok l ∧ ∀ q, parse host q = .ok l := by
  intro l host
  have hparse : parse host 8889 = .ok l := by decide
  have hname : ¬scheme <+: l.hostname.toList := by decide
  have htext : ¬scheme <+: l.toText.toList := by decide
  have hread : parse l.toText 8889 = .ok l :=
    hosts_read_alike.1 l 8889 (by decide) hname
  refine ⟨⟨by decide, hname, hread⟩, ⟨htext, ?_⟩, hparse, ?_⟩
  · have hmem : l.toText ∈ spellings l.toText 2 := List.mem_cons_self
    rcases hosts_read_alike.2.1 l.toText 2 8889 htext with ⟨l', hall⟩ | hnone
    · obtain rfl : l = l' := Except.ok.inj (hread.symm.trans (hall _ hmem))
      exact hall
    · obtain ⟨fault, hfault⟩ := hnone _ hmem
      rw [hread] at hfault
      cases hfault
  · obtain ⟨a, haddress, -, hcolon⟩ := hosts_read_alike.2.2 host 8889 l hparse
    obtain rfl : address host.toList = a := (haddress _).mp (hasAddress_iff.mpr rfl)
    exact hcolon.mp (by decide)

end SqlConnector.Location
