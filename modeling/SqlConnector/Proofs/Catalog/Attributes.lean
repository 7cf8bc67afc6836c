import SqlConnector.Catalog.Column
import SqlConnector.Proofs.Text.Spelling

/-!
Columns and the attributes they are presented as. Main statements: an array is presented in the same
way whether its element type is part of the type or stands beside it, a set comes of arrays alone,
and the spelling of the types makes no difference, so that an attribute described as a column again
is the same attribute.
-/

namespace SqlConnector.Catalog

namespace Column

open Text (normal normal_normal BlanksAround SpelledAlike blanksAround_of_all)

/-! ### Types in the form in which they are compared -/

/-- The trimmed and lower-cased type text. -/
def type (c : Column) : List Char := normal c.nativeType.toList

/-- A type text of the form `array(…)` with this text between the parentheses. -/
def arrayOf (inner : List Char) : List Char := arrayWord ++ '(' :: (inner ++ [')'])

theorem element?_eq_some {type inner : List Char} :
    element? type = some inner ↔ type = arrayOf inner := by
  rw [element?, Option.bind_eq_some_iff]
  constructor
  · rintro ⟨rest, hlead, hend⟩
    rw [Text.dropLead?_eq_some.mp hlead, Text.dropEnd?_eq_some.mp hend, List.append_assoc]
    rfl
  · rintro rfl
    exact ⟨inner ++ [')'], Text.dropLead?_eq_some.mpr (by simp [arrayOf]),
      Text.dropEnd?_eq_some.mpr rfl⟩

theorem arrayOf_ne_arrayWord (inner : List Char) : arrayOf inner ≠ arrayWord := by
  intro h
  have hlength := congrArg List.length h
  simp [arrayOf] at hlength

theorem canonical_beside {c : Column} {element : String} (h : c.arrayType = some element) :
    c.canonical = (c.type, some (normal element.toList)) := by
  rw [canonical, h]
  rfl

theorem canonical_of_arrayOf {c : Column} {inner : List Char} (h : c.arrayType = none)
    (htype : c.type = arrayOf inner) : c.canonical = (arrayWord, some (Text.trim inner)) := by
  have helement : element? (Text.lower (Text.trim c.nativeType.toList)) = some inner :=
    element?_eq_some.mpr htype
  simp only [canonical, h, helement]

theorem canonical_alone {c : Column} (h : c.arrayType = none)
    (htype : ∀ inner, c.type ≠ arrayOf inner) : c.canonical = (c.type, none) := by
  have helement : element? (Text.lower (Text.trim c.nativeType.toList)) = none :=
    Option.eq_none_iff_forall_ne_some.mpr fun inner hinner =>
      htype inner (element?_eq_some.mp hinner)
  simp only [canonical, h, helement]
  rfl

/-- Both types of a column are compared in a form that does not change again. -/
theorem canonical_settled {c : Column} {type : List Char} {element : Option (List Char)}
    (h : c.canonical = (type, element)) :
    normal type = type ∧ ∀ e ∈ element, normal e = e := by
  cases hbeside : c.arrayType with
  | some text =>
      rw [canonical_beside hbeside] at h
      cases h
      refine ⟨normal_normal _, fun e he => ?_⟩
      obtain rfl := Option.mem_some_iff.mp he
      exact normal_normal _
  | none =>
      by_cases hform : ∃ inner, c.type = arrayOf inner
      · obtain ⟨inner, hinner⟩ := hform
        rw [canonical_of_arrayOf hbeside hinner] at h
        cases h
        refine ⟨by decide, fun e he => ?_⟩
        obtain rfl := Option.mem_some_iff.mp he
        -- the letters between the parentheses are those of a lower-case text
        have hlower : Text.lower inner = inner := Text.lower_of_all fun d hd => by
          have hmem : d ∈ Text.lower (Text.trim c.nativeType.toList) := by
            show d ∈ c.type
            rw [hinner, arrayOf]
            simp [hd]
          exact Text.isLower_of_mem_lower hmem
        refine Text.normal_of_trim_eq (Text.trim_trim inner) ?_
        rw [Text.lower_trim, hlower]
      · rw [canonical_alone hbeside fun inner hinner => hform ⟨inner, hinner⟩] at h
        cases h
        exact ⟨normal_normal _, fun e he => absurd he (by simp)⟩

/-! ### Attributes -/

theorem isSet_of_scalar? {type : List Char} {scalar : ValueType} (h : scalar? type = some scalar) :
    scalar.isSet = false := by
  unfold scalar? at h
  split at h
  · cases h; rfl
  · split at h
    · cases h; rfl
    · split at h
      · cases h; rfl
      · split at h
        · cases h; rfl
        · cases h

/-- There are sets of every scalar type, and of no other. -/
theorem exists_setOf? {t : ValueType} (h : t.isSet = false) : ∃ set, t.setOf? = some set := by
  cases t <;> first | exact ⟨_, rfl⟩ | cases h

theorem attribute?_of_array {c : Column} {element : Option (List Char)}
    (h : c.canonical = (arrayWord, element)) {a : Attribute} :
    c.attribute? = some a ↔ ∃ e ∈ element, ∃ scalar set, scalar? e = some scalar ∧
      scalar.setOf? = some set ∧ a = ⟨c.name, set, String.ofList e⟩ := by
  simp only [attribute?, h, if_true, Option.bind_eq_bind, Option.bind_eq_some_iff]
  constructor
  · rintro ⟨e, he, scalar, hscalar, set, hset, ha⟩
    cases ha
    exact ⟨e, he, scalar, set, hscalar, hset, rfl⟩
  · rintro ⟨e, he, scalar, set, hscalar, hset, rfl⟩
    exact ⟨e, he, scalar, hscalar, set, hset, rfl⟩

theorem attribute?_of_scalar {c : Column} {type : List Char} {element : Option (List Char)}
    (h : c.canonical = (type, element)) (hne : type ≠ arrayWord) :
    c.attribute? = (scalar? type).map fun scalar => ⟨c.name, scalar, String.ofList type⟩ := by
  simp only [attribute?, h, if_neg hne]

theorem attribute?_congr {c c' : Column} (hname : c.name = c'.name)
    (h : c.canonical = c'.canonical) : c.attribute? = c'.attribute? := by
  simp only [attribute?, hname, h]

theorem isSet_of_array {c : Column} {element : Option (List Char)}
    (h : c.canonical = (arrayWord, element)) {a : Attribute} (ha : c.attribute? = some a) :
    a.type.isSet = true := by
  obtain ⟨e, -, scalar, set, -, hset, rfl⟩ := (attribute?_of_array h).mp ha
  exact ValueType.isSet_of_setOf? hset

theorem isSet_of_not_array {c : Column} {type : List Char} {element : Option (List Char)}
    (h : c.canonical = (type, element)) (hne : type ≠ arrayWord) {a : Attribute}
    (ha : c.attribute? = some a) : a.type.isSet = false := by
  rw [attribute?_of_scalar h hne] at ha
  obtain ⟨scalar, hscalar, rfl⟩ := Option.map_eq_some_iff.mp ha
  exact isSet_of_scalar? hscalar

/-! ### Arrays listed in two ways -/

/-- A type text that is the word for arrays, in any case and with blanks around it. -/
def NamesArray (type : List Char) : Prop :=
  ∃ word, word.map Char.toLower = arrayWord ∧ BlanksAround word type

/-- A type text that has the element type as it is between the parentheses after such a word. -/
def ListsArray (element type : List Char) : Prop :=
  ∃ word, word.map Char.toLower = arrayWord ∧
    BlanksAround (word ++ '(' :: (element ++ [')'])) type

theorem normal_of_namesArray {type : List Char} (h : NamesArray type) : normal type = arrayWord := by
  obtain ⟨word, hword, haround⟩ := h
  rw [Text.normal_of_blanksAround haround, ← Text.normal_map_toLower, hword]
  decide

theorem normal_of_listsArray {element type : List Char} (h : ListsArray element type) :
    normal type = arrayOf (Text.lower element) := by
  obtain ⟨word, hword, haround⟩ := h
  have hmarks : (Text.EndsWord '(' ∧ Text.lowerPartner '(' = '(') ∧
      Text.EndsWord ')' ∧ Text.lowerPartner ')' = ')' := by
    unfold Text.EndsWord
    decide +kernel
  obtain ⟨hopening, hclosing⟩ := hmarks
  have hlower : Text.lower word = arrayWord := by
    rw [← Text.lower_map_toLower, hword]
    decide
  have hparts : Text.lower (word ++ '(' :: (element ++ [')'])) = arrayOf (Text.lower element) := by
    rw [Text.lower_append_cons hopening.1, Text.lower_concat hclosing.1, hopening.2, hclosing.2,
      hlower]
    rfl
  have htrim : ∀ inner, Text.trim (arrayOf inner) = arrayOf inner := fun inner =>
    Text.trim_of_not_blank (c := 'a') (d := ')') (by decide) (by decide) ("rray(".toList ++ inner)
  rw [Text.normal_of_blanksAround haround, Text.normal_eq_trim_lower, hparts, htrim]

/-- An array is presented in the same way whether its element type is listed within its type or
beside it: as the sets of what the element type stands for, under the name of the element type, and
not at all when that stands for nothing. -/
theorem arrays_presented_alike (name element listed type : String)
    (hlisted : ListsArray element.toList listed.toList) (htype : NamesArray type.toList) :
    attribute? ⟨name, listed, none⟩ = attribute? ⟨name, type, some element⟩ ∧
    ((attribute? ⟨name, listed, none⟩).isSome ↔ (scalar? (normal element.toList)).isSome) ∧
    ∀ a, attribute? ⟨name, listed, none⟩ = some a ↔ ∃ scalar set,
      scalar? (normal element.toList) = some scalar ∧ scalar.setOf? = some set ∧
      a = ⟨name, set, String.ofList (normal element.toList)⟩ := by
  have hwithin : canonical ⟨name, listed, none⟩ = (arrayWord, some (normal element.toList)) := by
    rw [Text.normal_eq_trim_lower]
    exact canonical_of_arrayOf rfl (normal_of_listsArray hlisted)
  have hbeside : canonical ⟨name, type, some element⟩ =
      (arrayWord, some (normal element.toList)) := by
    rw [← normal_of_namesArray htype]
    exact canonical_beside rfl
  have hattribute : ∀ a, attribute? ⟨name, listed, none⟩ = some a ↔ ∃ scalar set,
      scalar? (normal element.toList) = some scalar ∧ scalar.setOf? = some set ∧
      a = ⟨name, set, String.ofList (normal element.toList)⟩ := fun a => by
    simp [attribute?_of_array hwithin]
  refine ⟨attribute?_congr rfl (hwithin.trans hbeside.symm), ?_, hattribute⟩
  constructor
  · intro h
    obtain ⟨a, ha⟩ := Option.isSome_iff_exists.mp h
    obtain ⟨scalar, set, hscalar, -⟩ := (hattribute a).mp ha
    exact Option.isSome_iff_exists.mpr ⟨scalar, hscalar⟩
  · intro h
    obtain ⟨scalar, hscalar⟩ := Option.isSome_iff_exists.mp h
    obtain ⟨set, hset⟩ := exists_setOf? (isSet_of_scalar? hscalar)
    exact Option.isSome_iff_exists.mpr ⟨_, (hattribute _).mpr ⟨scalar, set, hscalar, hset, rfl⟩⟩

/-- The last sigma of the element type ends a word, before the blank as at the end of the text. -/
theorem sigma_before_parenthesis :
    let element := " CHAR ΟΔΟΣ "
    let listed := "\u3000ArRaY( CHAR ΟΔΟΣ )\n"
    ListsArray element.toList listed.toList ∧ NamesArray " ARRAY".toList ∧
      attribute? ⟨"tags", listed, none⟩ = attribute? ⟨"tags", " ARRAY", some element⟩ ∧
      attribute? ⟨"tags", listed, none⟩ = some ⟨"tags", .setString, "char οδος"⟩ := by
  intro element listed
  have hlisted : ListsArray element.toList listed.toList :=
    ⟨"ArRaY".toList, by decide, blanksAround_of_all ['\u3000'] ['\n'] rfl rfl (by decide)⟩
  have htype : NamesArray " ARRAY".toList :=
    ⟨"ARRAY".toList, by decide, blanksAround_of_all [' '] [] rfl rfl (by decide)⟩
  obtain ⟨halike, -, hattribute⟩ :=
    arrays_presented_alike "tags" element listed " ARRAY" hlisted htype
  have hnormal : normal element.toList = "char οδος".toList := by decide +kernel
  refine ⟨hlisted, htype, halike, (hattribute _).mpr ⟨.string, .setString, ?_, rfl, ?_⟩⟩
  · rw [hnormal]
    decide
  · rw [hnormal, String.ofList_toList]

/-! ### Sets and arrays -/

theorem scalar?_arrayOf (inner : List Char) :
    scalar? (arrayOf inner) =
      if Text.occurs "timestamp".toList (arrayOf inner) ∨ Text.occurs "date".toList (arrayOf inner)
      then some .time
      else if Text.occurs "char".toList (arrayOf inner) then some .string else none := by
  have hwords : ∀ word ∈ "boolean" :: numberTypes, word.toList.head? ≠ some 'a' := by decide
  have hnone : String.ofList (arrayOf inner) ∉ "boolean" :: numberTypes := fun hmem =>
    hwords _ hmem (by rw [String.toList_ofList]; rfl)
  rw [List.mem_cons, not_or] at hnone
  rw [scalar?, if_neg hnone.2, if_neg hnone.1]

/-- A set comes of an array and of nothing else. An array comes to a set or to nothing, unless its
element type is listed within its type and an element type beside it as well: then its type is read
as it is, as one text. -/
theorem sets_come_of_arrays (c : Column) :
    (c.type = arrayWord ∨ c.arrayType = none ∧ (∃ inner, c.type = arrayOf inner) →
      ∀ a, c.attribute? = some a → a.type.isSet = true) ∧
    (c.type ≠ arrayWord ∧ (∀ inner, c.type ≠ arrayOf inner) →
      ∀ a, c.attribute? = some a → a.type.isSet = false) ∧
    ∀ element inner, c.arrayType = some element → c.type = arrayOf inner →
      c.attribute? = Option.map (fun scalar => ⟨c.name, scalar, String.ofList c.type⟩)
        (if Text.occurs "timestamp".toList c.type ∨ Text.occurs "date".toList c.type
        then some .time
        else if Text.occurs "char".toList c.type then some .string else none) := by
  refine ⟨?_, ?_, ?_⟩
  · rintro (hword | ⟨halone, inner, hinner⟩) a ha
    · cases hbeside : c.arrayType with
      | some element =>
          have hcanonical := canonical_beside hbeside
          rw [hword] at hcanonical
          exact isSet_of_array hcanonical ha
      | none =>
          have hcanonical := canonical_alone hbeside fun inner hinner =>
            arrayOf_ne_arrayWord inner (hinner.symm.trans hword)
          rw [hword] at hcanonical
          exact isSet_of_array hcanonical ha
    · exact isSet_of_array (canonical_of_arrayOf halone hinner) ha
  · rintro ⟨hword, hform⟩ a ha
    cases hbeside : c.arrayType with
    | some element => exact isSet_of_not_array (canonical_beside hbeside) hword ha
    | none => exact isSet_of_not_array (canonical_alone hbeside hform) hword ha
  · intro element inner hbeside hinner
    have hne : c.type ≠ arrayWord := fun hword =>
      arrayOf_ne_arrayWord inner (hinner.symm.trans hword)
    rw [attribute?_of_scalar (canonical_beside hbeside) hne, hinner, scalar?_arrayOf]

/-- A listed array, a scalar with the word in its name, and an array described twice over. -/
theorem sets_of_three_columns :
    let listed : Column := ⟨"days", "Array( Date )", none⟩
    let scalar : Column := ⟨"page", "map(array,varchar)", none⟩
    let twice : Column := ⟨"tags", "array(bigint)", some "bigint"⟩
    (listed.type = arrayOf " date ".toList ∧ listed.attribute? = some ⟨"days", .setTime, "date"⟩ ∧
      ValueType.setTime.isSet = true) ∧
    (scalar.attribute? = some ⟨"page", .string, "map(array,varchar)"⟩ ∧
      ValueType.string.isSet = false) ∧
    twice.type = arrayOf "bigint".toList ∧ twice.attribute? = none := by
  intro listed scalar twice
  have hlisted : listed.type = arrayOf " date ".toList := by decide
  have hset : listed.attribute? = some ⟨"days", .setTime, "date"⟩ := by decide
  have hscalar : scalar.type = "map(array,varchar)".toList := by decide
  have hstring : scalar.attribute? = some ⟨"page", .string, "map(array,varchar)"⟩ := by
    decide
  have hform : ∀ inner, scalar.type ≠ arrayOf inner := fun inner h => by
    have hhead : some 'm' = some 'a' := congrArg List.head? (hscalar.symm.trans h)
    exact absurd hhead (by decide)
  have htwice : twice.type = arrayOf "bigint".toList := by decide
  refine ⟨⟨hlisted, hset, ?_⟩, ⟨hstring, ?_⟩, htwice, ?_⟩
  · exact (sets_come_of_arrays listed).1 (.inr ⟨rfl, _, hlisted⟩) _ hset
  · exact (sets_come_of_arrays scalar).2.1 ⟨by rw [hscalar]; decide, hform⟩ _ hstring
  · rw [(sets_come_of_arrays twice).2.2 _ _ rfl htwice, htwice]
    decide

/-- Beside an element type the type of an array is read as a text that has `char` in it. -/
theorem listed_array_beside_element :
    let c : Column := ⟨"tags", "array(varchar)", some "varchar"⟩
    c.type = arrayOf "varchar".toList ∧ c.attribute? = some ⟨"tags", .string, "array(varchar)"⟩ ∧
      ValueType.string.isSet = false := by
  intro c
  have htype : c.type = arrayOf "varchar".toList := by decide
  exact ⟨htype, by decide, rfl⟩

/-! ### Spellings -/

/-- Columns of one name whose types are spelled alike, with an element type each or none. -/
structure Alike (c c' : Column) : Prop where
  name : c.name = c'.name
  type : SpelledAlike c.nativeType.toList c'.nativeType.toList
  element : Option.Rel (fun e e' => SpelledAlike e.toList e'.toList) c.arrayType c'.arrayType

theorem Alike.canonical_eq {c c' : Column} (h : c.Alike c') : c.canonical = c'.canonical := by
  have htype : c.type = c'.type := h.type.normal_eq
  have helement := h.element
  cases hbeside : c.arrayType with
  | some e =>
      cases hbeside' : c'.arrayType with
      | some e' =>
          rw [hbeside, hbeside'] at helement
          cases helement with
          | some halike =>
              rw [canonical_beside hbeside, canonical_beside hbeside', htype, halike.normal_eq]
      | none =>
          rw [hbeside, hbeside'] at helement
          cases helement
  | none =>
      cases hbeside' : c'.arrayType with
      | some e' =>
          rw [hbeside, hbeside'] at helement
          cases helement
      | none =>
          by_cases hform : ∃ inner, c.type = arrayOf inner
          · obtain ⟨inner, hinner⟩ := hform
            rw [canonical_of_arrayOf hbeside hinner,
              canonical_of_arrayOf hbeside' (htype.symm.trans hinner)]
          · have hnot : ∀ inner, c.type ≠ arrayOf inner := fun inner hinner =>
              hform ⟨inner, hinner⟩
            have hnot' : ∀ inner, c'.type ≠ arrayOf inner := fun inner hinner =>
              hnot inner (htype.trans hinner)
            rw [canonical_alone hbeside hnot, canonical_alone hbeside' hnot', htype]

/-- The column that an attribute describes: an array of its native type for a set. -/
def ofAttribute (a : Attribute) : Column :=
  if a.type.isSet then ⟨a.name, "array", some a.nativeType⟩ else ⟨a.name, a.nativeType, none⟩

theorem attribute?_ofAttribute_of_array {c : Column} {element : Option (List Char)} {a : Attribute}
    (h : c.canonical = (arrayWord, element)) (ha : c.attribute? = some a) :
    (ofAttribute a).attribute? = some a := by
  have hset := isSet_of_array h ha
  obtain ⟨e, he, scalar, set, hscalar, hsetOf, rfl⟩ := (attribute?_of_array h).mp ha
  have hsettled : normal e = e := (canonical_settled h).2 e he
  have hrebuilt : ofAttribute ⟨c.name, set, String.ofList e⟩ =
      ⟨c.name, "array", some (String.ofList e)⟩ := if_pos hset
  have hword : Column.type ⟨c.name, "array", some (String.ofList e)⟩ = arrayWord :=
    normal_of_namesArray ⟨arrayWord, by decide,
      blanksAround_of_all [] [] rfl rfl (List.append_nil arrayWord).symm⟩
  have hcanonical : canonical ⟨c.name, "array", some (String.ofList e)⟩ = (arrayWord, some e) := by
    rw [canonical_beside rfl, hword, String.toList_ofList, hsettled]
  rw [hrebuilt]
  exact (attribute?_of_array hcanonical).mpr ⟨e, rfl, scalar, set, hscalar, hsetOf, rfl⟩

theorem attribute?_ofAttribute_of_scalar {c : Column} {type : List Char} {a : Attribute}
    (h : c.canonical = (type, none)) (hne : type ≠ arrayWord)
    (hform : ∀ inner, type ≠ arrayOf inner) (ha : c.attribute? = some a) :
    (ofAttribute a).attribute? = some a := by
  have hscalar := isSet_of_not_array h hne ha
  have hattribute := attribute?_of_scalar h hne
  rw [ha] at hattribute
  obtain ⟨scalar, hscalar?, rfl⟩ := Option.map_eq_some_iff.mp hattribute.symm
  have hsettled : normal type = type := (canonical_settled h).1
  have hrebuilt : ofAttribute ⟨c.name, scalar, String.ofList type⟩ =
      ⟨c.name, String.ofList type, none⟩ := if_neg (by simp [hscalar])
  have htype : Column.type ⟨c.name, String.ofList type, none⟩ = type := by
    rw [Column.type, String.toList_ofList, hsettled]
  have hcanonical : canonical ⟨c.name, String.ofList type, none⟩ = (type, none) := by
    rw [canonical_alone rfl fun inner hinner => hform inner (htype.symm.trans hinner), htype]
  rw [hrebuilt, attribute?_of_scalar hcanonical hne, hscalar?]
  rfl

/-- Columns that are spelled alike are presented alike. A column without an element type beside it,
or whose type is the word for arrays, is presented as an attribute that describes a column which is
presented as the same attribute again. -/
theorem attributes_settle (c : Column) :
    (∀ c', c.Alike c' → c'.attribute? = c.attribute?) ∧
    ((c.arrayType = none ∨ c.type = arrayWord) → ∀ a, c.attribute? = some a →
      (ofAttribute a).attribute? = some a) := by
  refine ⟨fun c' h => (attribute?_congr h.name h.canonical_eq).symm, fun hplain a ha => ?_⟩
  cases hbeside : c.arrayType with
  | some element =>
      have hword : c.type = arrayWord := hplain.resolve_left (by simp [hbeside])
      have hcanonical := canonical_beside hbeside
      rw [hword] at hcanonical
      exact attribute?_ofAttribute_of_array hcanonical ha
  | none =>
      by_cases hform : ∃ inner, c.type = arrayOf inner
      · obtain ⟨inner, hinner⟩ := hform
        exact attribute?_ofAttribute_of_array (canonical_of_arrayOf hbeside hinner) ha
      · have hnot : ∀ inner, c.type ≠ arrayOf inner := fun inner hinner => hform ⟨inner, hinner⟩
        have hcanonical := canonical_alone hbeside hnot
        by_cases hword : c.type = arrayWord
        · rw [hword] at hcanonical
          exact attribute?_ofAttribute_of_array hcanonical ha
        · exact attribute?_ofAttribute_of_scalar hcanonical hword hnot ha

/-- The sigma ends a word before a blank and at the end of the text. -/
theorem element_spelled_two_ways :
    let c : Column := ⟨"tags", "ARRAY", some "CHAR ΟΔΟΣ "⟩
    let c' : Column := ⟨"tags", " Array\n", some "char ΟΔΟΣ"⟩
    let a : Attribute := ⟨"tags", .setString, "char οδος"⟩
    c.Alike c' ∧ c.type = arrayWord ∧ c.attribute? = some a ∧ c'.attribute? = some a ∧
      (ofAttribute a).attribute? = some a := by
  intro c c' a
  have htype : SpelledAlike c.nativeType.toList c'.nativeType.toList :=
    ⟨"ARRAY".toList, "Array".toList, blanksAround_of_all [] [] rfl rfl (by decide),
      blanksAround_of_all [' '] ['\n'] rfl rfl (by decide), by decide⟩
  have helement : SpelledAlike "CHAR ΟΔΟΣ ".toList "char ΟΔΟΣ".toList :=
    ⟨"CHAR ΟΔΟΣ".toList, "char ΟΔΟΣ".toList, blanksAround_of_all [] [' '] rfl rfl (by decide),
      blanksAround_of_all [] [] rfl rfl (by decide), by decide⟩
  have halike : c.Alike c' := ⟨rfl, htype, .some helement⟩
  have hword : c.type = arrayWord := by decide
  have ha : c.attribute? = some a := by decide +kernel
  obtain ⟨hspelled, hsettled⟩ := attributes_settle c
  exact ⟨halike, hword, ha, (hspelled c' halike).trans ha, hsettled (.inr hword) a ha⟩

end Column

end SqlConnector.Catalog
