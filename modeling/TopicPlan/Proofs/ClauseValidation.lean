import TopicPlan.Proofs.PropertyValues

/-! Validation of a `WITH` clause. Main statement: a clause is accepted exactly when its names are known,
its values are such as their properties take, and it has a topic and not two ways to give a format; what
is kept of it is accepted once more as it is. -/
namespace TopicPlan.Sql.Properties
open OrderedMap

/-! ### One property -/

section Validation

variable {α : Type} {literals : OrderedMap String Literal} {property : Property}

/-- A way to read a property: it reads what the property takes, and blames every other value. -/
structure Reads (property : Property) (read : Property → Literal → Except PropertyError α)
    (view : α → Literal) : Prop where
  ok_iff : ∀ value a, read property value = .ok a ↔ property.Keeps value (view a)
  kept : ∀ value kept, property.Keeps value kept → ∃ a, kept = view a
  blames : ∀ value e, read property value = .error e → e.Blames property value

theorem Reads.optional_eq_ok_iff {read : Property → Literal → Except PropertyError α}
    {view : α → Literal} (h : Reads property read view) {found : Option α} :
    readOptional literals property read = .ok found ↔
      Option.Rel property.Keeps (get? property.name literals) (found.map view) := by
  unfold readOptional
  cases get? property.name literals with
  | none =>
    cases found with
    | none => exact iff_of_true rfl .none
    | some a => exact iff_of_false nofun nofun
  | some value =>
    rw [map_eq_ok]
    constructor
    · rintro ⟨a, ha, rfl⟩
      exact .some ((h.ok_iff value a).mp ha)
    · intro hkeeps
      cases found with
      | none => cases hkeeps
      | some a =>
        cases hkeeps with
        | some hkept => exact ⟨a, (h.ok_iff value a).mpr hkept, rfl⟩

theorem Reads.tells {read : Property → Literal → Except PropertyError α} {view : α → Literal}
    (h : Reads property read view) {e : PropertyError}
    (he : readOptional literals property read = .error e) :
    e.Tells fun name value => get? name literals = some value := by
  unfold readOptional at he
  split at he
  · cases he
  · next value hvalue =>
    have herror := map_eq_error.mp he
    refine .value (h.blames value e herror) hvalue fun kept hkept => ?_
    obtain ⟨a, rfl⟩ := h.kept value kept hkept
    rw [(h.ok_iff value a).mpr hkept] at herror
    cases herror

theorem keeps_text_iff (hproperty : property ∈ [Property.format, .keyFormat, .valueFormat])
    {given kept : Literal} :
    property.Keeps given kept ↔ kept = given ∧ ∃ text, given = .text text := by
  obtain rfl | rfl | rfl : property = .format ∨ property = .keyFormat ∨ property = .valueFormat := by
    simpa using hproperty
  all_goals rfl

theorem keeps_count_iff (hproperty : property ∈ [Property.partitions, .replicas])
    {given kept : Literal} :
    property.Keeps given kept ↔ ∃ n : Nat, 1 ≤ n ∧ given.Denotes n ∧ kept = .int n := by
  obtain rfl | rfl : property = .partitions ∨ property = .replicas := by simpa using hproperty
  all_goals rfl

theorem reads_toText (hproperty : property ∈ [Property.format, .keyFormat, .valueFormat]) :
    Reads property Literal.toText .text where
  ok_iff value text := by
    rw [keeps_text_iff hproperty, Literal.toText_eq_ok_iff]
    constructor
    · rintro rfl
      exact ⟨rfl, text, rfl⟩
    · exact fun h => h.1.symm
  kept value kept h := by
    obtain ⟨rfl, text, rfl⟩ := (keeps_text_iff hproperty).mp h
    exact ⟨text, rfl⟩
  blames value e h := by
    cases value with
    | text _ => cases h
    | null | bool _ | int _ | real _ =>
      cases h
      exact .notText

theorem reads_toCount (hproperty : property ∈ [Property.partitions, .replicas]) :
    Reads property Literal.toCount fun n : Nat => .int n where
  ok_iff value n := by
    rw [keeps_count_iff hproperty, Literal.toCount_eq_ok_iff]
    constructor
    · rintro ⟨hpositive, hdenotes⟩
      exact ⟨n, hpositive, hdenotes, rfl⟩
    · rintro ⟨m, hpositive, hdenotes, hsame⟩
      obtain rfl : n = m := by simpa using hsame
      exact ⟨hpositive, hdenotes⟩
  kept value kept h := by
    obtain ⟨n, -, -, rfl⟩ := (keeps_count_iff hproperty).mp h
    exact ⟨n, rfl⟩
  blames value e h := by
    unfold Literal.toCount at h
    split at h
    · cases h
      exact .notCount
    split at h
    · cases h
      exact .notPositive
    · cases h

theorem reads_toBool : Reads .wrapSingleValue Literal.toBool .bool where
  ok_iff value b := by
    rw [Literal.toBool_eq_ok_iff]
    constructor
    · exact fun h => ⟨b, h, rfl⟩
    · rintro ⟨_, h, ⟨⟩⟩
      exact h
  kept value kept := by
    rintro ⟨b, -, rfl⟩
    exact ⟨b, rfl⟩
  blames value e h := by
    unfold Literal.toBool at h
    split at h
    · cases h
    · split at h
      · cases h
      split at h
      · cases h
      · cases h
        exact .notBoolean
    · cases h
      exact .notBoolean

/-- A clause gives a format for keys and values alike beside one for either of them. -/
def GivesTwoFormats (literals : OrderedMap String Literal) : Prop :=
  (get? Property.format.name literals).isSome = true ∧
    ((get? Property.keyFormat.name literals).isSome = true ∨
      (get? Property.valueFormat.name literals).isSome = true)

instance : Decidable (GivesTwoFormats literals) :=
  inferInstanceAs (Decidable (_ ∧ (_ ∨ _)))

theorem not_givesTwoFormats_iff : ¬GivesTwoFormats literals ↔
    ∀ shared, get? Property.format.name literals = some shared →
      get? Property.keyFormat.name literals = none ∧
        get? Property.valueFormat.name literals = none := by
  unfold GivesTwoFormats
  cases get? Property.format.name literals with
  | none => simp
  | some shared => simp

theorem readFormats_eq (literals : OrderedMap String Literal) :
    readFormats literals =
      if GivesTwoFormats literals then .error .formatsConflict
      else readOptional literals .format Literal.toText >>= fun shared? =>
        match shared? with
        | some name => .ok (.shared name)
        | none => readOptional literals .keyFormat Literal.toText >>= fun key =>
          readOptional literals .valueFormat Literal.toText >>= fun value =>
            .ok (.separate key value) := by
  unfold readFormats GivesTwoFormats
  simp only [← Bool.or_eq_true, ← Bool.and_eq_true]
  split
  · rfl
  · rfl

/-- A clause gives a property exactly if it is kept, and what is kept is kept of what it gives. -/
def Fits (literals : OrderedMap String Literal) (p : Properties) (property : Property) : Prop :=
  Option.Rel property.Keeps (get? property.name literals) (p.value? property)

theorem fits_none {p : Properties} (h : p.value? property = none) :
    Fits literals p property ↔ get? property.name literals = none := by
  unfold Fits
  rw [h]
  cases get? property.name literals with
  | none => exact iff_of_true .none rfl
  | some value => exact iff_of_false nofun nofun

theorem fits_text_iff {p : Properties} {found : Option String}
    (hproperty : property ∈ [Property.format, .keyFormat, .valueFormat])
    (hfound : p.value? property = found.map .text) :
    Fits literals p property ↔ readOptional literals property Literal.toText = .ok found := by
  rw [(reads_toText hproperty).optional_eq_ok_iff, Fits, hfound]

theorem readFormats_eq_ok_shared {name : String} :
    readFormats literals = .ok (.shared name) ↔ ¬GivesTwoFormats literals ∧
      readOptional literals .format Literal.toText = .ok (some name) := by
  rw [readFormats_eq]
  by_cases htwo : GivesTwoFormats literals
  · simp [htwo]
  rw [if_neg htwo, bind_eq_ok, and_iff_right htwo]
  constructor
  · rintro ⟨shared?, hread, hthen⟩
    cases shared? with
    | none =>
      obtain ⟨key, -, hthen⟩ := bind_eq_ok.mp hthen
      obtain ⟨value, -, hthen⟩ := bind_eq_ok.mp hthen
      cases hthen
    | some other =>
      cases hthen
      exact hread
  · exact fun hread => ⟨some name, hread, rfl⟩

theorem readFormats_eq_ok_separate {key value : Option String} :
    readFormats literals = .ok (.separate key value) ↔ ¬GivesTwoFormats literals ∧
      readOptional literals .format Literal.toText = .ok none ∧
      readOptional literals .keyFormat Literal.toText = .ok key ∧
      readOptional literals .valueFormat Literal.toText = .ok value := by
  rw [readFormats_eq]
  by_cases htwo : GivesTwoFormats literals
  · simp [htwo]
  rw [if_neg htwo, bind_eq_ok, and_iff_right htwo]
  constructor
  · rintro ⟨shared?, hnone, hthen⟩
    cases shared? with
    | some other => cases hthen
    | none =>
      obtain ⟨key', hkey, hthen⟩ := bind_eq_ok.mp hthen
      obtain ⟨value', hvalue, hthen⟩ := bind_eq_ok.mp hthen
      cases hthen
      exact ⟨hnone, hkey, hvalue⟩
  · rintro ⟨hnone, hkey, hvalue⟩
    exact ⟨none, hnone, bind_eq_ok.mpr ⟨key, hkey, bind_eq_ok.mpr ⟨value, hvalue, rfl⟩⟩⟩

theorem readFormats_eq_ok_iff {p : Properties} :
    readFormats literals = .ok p.formats ↔ ¬GivesTwoFormats literals ∧
      Fits literals p .format ∧ Fits literals p .keyFormat ∧ Fits literals p .valueFormat := by
  cases hformats : p.formats with
  | shared name =>
    have hshared : p.value? .format = some (.text name) := by simp [value?, formatText?, hformats]
    have hnokey : p.value? .keyFormat = none := by simp [value?, formatText?, hformats]
    have hnovalue : p.value? .valueFormat = none := by simp [value?, formatText?, hformats]
    have hfits : Fits literals p .format ↔
        readOptional literals .format Literal.toText = .ok (some name) :=
      fits_text_iff (by simp) hshared
    rw [readFormats_eq_ok_shared, hfits, fits_none hnokey, fits_none hnovalue]
    refine and_congr_right fun htwo => (and_iff_left_of_imp fun hread => ?_).symm
    have hgiven := hfits.mpr hread
    cases hfound : get? Property.format.name literals with
    | none =>
      rw [Fits, hfound, hshared] at hgiven
      cases hgiven
    | some shared => exact not_givesTwoFormats_iff.mp htwo shared hfound
  | separate key value =>
    have hnoshared : p.value? .format = (none : Option String).map .text := by
      simp [value?, formatText?, hformats]
    have hkey : p.value? .keyFormat = key.map .text := by simp [value?, formatText?, hformats]
    have hvalue : p.value? .valueFormat = value.map .text := by simp [value?, formatText?, hformats]
    rw [readFormats_eq_ok_separate, fits_text_iff (by simp) hnoshared, fits_text_iff (by simp) hkey,
      fits_text_iff (by simp) hvalue]

/-! ### Properties that are kept as they are -/

theorem freeEntry?_eq_some_iff {entry : String × Literal} {free : FreeProperty} {value : Literal} :
    freeEntry? entry = some (free, value) ↔ entry = ((Property.free free).name, value) := by
  unfold freeEntry?
  constructor
  · intro h
    split at h
    · next found hfound =>
      cases h
      exact Prod.ext (Property.name_of_ofName? hfound).symm rfl
    · cases h
  · rintro rfl
    simp only [Property.ofName?_name]

theorem get?_freeEntries (literals : OrderedMap String Literal) (free : FreeProperty) :
    get? free (literals.filterMap freeEntry?) = get? (Property.free free).name literals := by
  induction literals with
  | nil => rfl
  | cons entry literals ih =>
    obtain ⟨name, value⟩ := entry
    rw [get?]
    cases hentry : freeEntry? (name, value) with
    | none =>
      have hne : name ≠ (Property.free free).name := by
        rintro rfl
        rw [freeEntry?_eq_some_iff.mpr rfl] at hentry
        cases hentry
      rw [List.filterMap_cons_none hentry, ih, if_neg hne]
    | some found =>
      obtain ⟨other, kept⟩ := found
      obtain ⟨rfl, rfl⟩ := Prod.mk.inj (freeEntry?_eq_some_iff.mp hentry)
      rw [List.filterMap_cons_some hentry, get?, ih]
      by_cases h : other = free
      · rw [if_pos h, if_pos (congrArg (fun free => (Property.free free).name) h)]
      · have hne : (Property.free other).name ≠ (Property.free free).name :=
          fun he => h (Property.free.inj (Property.name_injective he))
        rw [if_neg h, if_neg hne]

theorem names_freeEntries (literals : OrderedMap String Literal) :
    ((literals.filterMap freeEntry?).map fun entry => (Property.free entry.1).name).Sublist
      (keys literals) := by
  induction literals with
  | nil => exact .slnil
  | cons entry literals ih =>
    cases hentry : freeEntry? entry with
    | none =>
      rw [List.filterMap_cons_none hentry]
      exact ih.cons _
    | some found =>
      rw [List.filterMap_cons_some hentry, List.map_cons]
      obtain rfl := freeEntry?_eq_some_iff.mp hentry
      exact ih.cons_cons _

theorem nodup_freeEntries (h : (keys literals).Nodup) :
    ((literals.filterMap freeEntry?).map (·.1)).Nodup := by
  have hnames := (names_freeEntries literals).nodup h
  refine List.Nodup.of_map (fun free => (Property.free free).name) ?_
  rwa [List.map_map]

theorem fits_free {p : Properties} {free : FreeProperty} :
    Fits literals p (.free free) ↔ get? (Property.free free).name literals = get? free p.free := by
  show Option.Rel (fun given kept => kept = given) (get? (Property.free free).name literals)
    (get? free p.free) ↔ _
  cases get? (Property.free free).name literals with
  | none => cases get? free p.free with
    | none => exact iff_of_true .none rfl
    | some kept => exact iff_of_false nofun nofun
  | some value => cases get? free p.free with
    | none => exact iff_of_false nofun nofun
    | some kept =>
      constructor
      · rintro (hkept | _)
        exact congrArg some hkept.symm
      · intro h
        exact .some (Option.some.inj h).symm

/-! ### Validation as a whole -/

theorem mem_unknownNames_iff {name : String} : name ∈ unknownNames literals ↔
    (∃ value, get? name literals = some value) ∧ ∀ property : Property, property.name ≠ name := by
  have hgiven : name ∈ keys literals ↔ ∃ value, get? name literals = some value := by
    rw [← Option.ne_none_iff_exists', ne_eq, get?_eq_none_iff, not_not]
  have hunknown : Property.ofName? name = none ↔ ∀ property : Property, property.name ≠ name := by
    constructor
    · rintro h property rfl
      rw [Property.ofName?_name] at h
      cases h
    · intro h
      cases hfound : Property.ofName? name with
      | none => rfl
      | some property => exact absurd (Property.name_of_ofName? hfound) (h property)
  rw [unknownNames, List.mem_mergeSort, List.mem_filter, hgiven, Option.isNone_iff_eq_none, hunknown]

theorem fits_kafkaTopic {p : Properties} : Fits literals p .kafkaTopic ↔
    get? Property.kafkaTopic.name literals = some (.text p.topic) := by
  show Option.Rel (fun given kept => kept = given ∧ ∃ text, given = .text text)
    (get? Property.kafkaTopic.name literals) (some (.text p.topic)) ↔ _
  cases get? Property.kafkaTopic.name literals with
  | none => exact iff_of_false nofun nofun
  | some value =>
    constructor
    · rintro (⟨hkept, -⟩ | _)
      rw [hkept]
    · intro h
      cases h
      exact .some ⟨rfl, p.topic, rfl⟩

theorem validate_eq (literals : OrderedMap String Literal) : validate literals =
    if unknownNames literals = [] then
      match get? Property.kafkaTopic.name literals with
      | some (.text topic) => readFormats literals >>= fun formats =>
        readOptional literals .partitions Literal.toCount >>= fun partitions =>
        readOptional literals .replicas Literal.toCount >>= fun replicas =>
        readOptional literals .wrapSingleValue Literal.toBool >>= fun wrapSingleValue =>
        .ok { topic, formats, partitions, replicas, wrapSingleValue,
              free := literals.filterMap freeEntry? }
      | _ => .error .topicMissing
    else .error (.unknown (unknownNames literals)) := by
  unfold validate
  cases unknownNames literals with
  | nil => rfl
  | cons name names => rfl

theorem validate_eq_ok_iff {p : Properties} : validate literals = .ok p ↔
    unknownNames literals = [] ∧ ¬GivesTwoFormats literals ∧
      (∀ property, Fits literals p property) ∧ p.free = literals.filterMap freeEntry? := by
  have hpartitions : Fits literals p .partitions ↔
      readOptional literals .partitions Literal.toCount = .ok p.partitions :=
    (reads_toCount (by simp)).optional_eq_ok_iff.symm
  have hreplicas : Fits literals p .replicas ↔
      readOptional literals .replicas Literal.toCount = .ok p.replicas :=
    (reads_toCount (by simp)).optional_eq_ok_iff.symm
  have hwrap : Fits literals p .wrapSingleValue ↔
      readOptional literals .wrapSingleValue Literal.toBool = .ok p.wrapSingleValue :=
    reads_toBool.optional_eq_ok_iff.symm
  rw [validate_eq]
  by_cases hunknown : unknownNames literals = []
  case neg => simp [hunknown]
  rw [if_pos hunknown]
  simp only [hunknown, true_and]
  constructor
  · intro h
    split at h
    · next topic htopic =>
      obtain ⟨formats, hformats, h⟩ := bind_eq_ok.mp h
      obtain ⟨partitions, hpartitions', h⟩ := bind_eq_ok.mp h
      obtain ⟨replicas, hreplicas', h⟩ := bind_eq_ok.mp h
      obtain ⟨wrap, hwrap', h⟩ := bind_eq_ok.mp h
      have hp := Except.ok.inj h
      have hread : readFormats literals = .ok p.formats := by rw [← hp, hformats]
      obtain ⟨htwo, hshared, hkey, hvalue⟩ := readFormats_eq_ok_iff.mp hread
      subst hp
      refine ⟨htwo, fun property => ?_, rfl⟩
      cases property with
      | kafkaTopic => exact fits_kafkaTopic.mpr htopic
      | format => exact hshared
      | keyFormat => exact hkey
      | valueFormat => exact hvalue
      | partitions => exact hpartitions.mpr hpartitions'
      | replicas => exact hreplicas.mpr hreplicas'
      | wrapSingleValue => exact hwrap.mpr hwrap'
      | free free => exact fits_free.mpr (get?_freeEntries literals free).symm
    · cases h
  · rintro ⟨htwo, hfits, hfree⟩
    have hformats : readFormats literals = .ok p.formats :=
      readFormats_eq_ok_iff.mpr ⟨htwo, hfits .format, hfits .keyFormat, hfits .valueFormat⟩
    rw [fits_kafkaTopic.mp (hfits .kafkaTopic), hformats, hpartitions.mp (hfits .partitions),
      hreplicas.mp (hfits .replicas), hwrap.mp (hfits .wrapSingleValue), ← hfree]
    rfl

/-! ### Errors -/

theorem readFormats_tells {e : PropertyError} (h : readFormats literals = .error e) :
    e.Tells fun name value => get? name literals = some value := by
  rw [readFormats_eq] at h
  split at h
  · next htwo =>
    cases h
    obtain ⟨hshared, hother⟩ := htwo
    obtain ⟨shared, hshared⟩ := Option.isSome_iff_exists.mp hshared
    rcases hother with hother | hother
    · obtain ⟨key, hkey⟩ := Option.isSome_iff_exists.mp hother
      exact .formatsConflict hshared (Or.inl hkey)
    · obtain ⟨value, hvalue⟩ := Option.isSome_iff_exists.mp hother
      exact .formatsConflict hshared (Or.inr hvalue)
  rcases bind_eq_error.mp h with hread | ⟨shared?, -, h⟩
  · exact (reads_toText (by simp)).tells hread
  cases shared? with
  | some name => cases h
  | none =>
    rcases bind_eq_error.mp h with hread | ⟨key, -, h⟩
    · exact (reads_toText (by simp)).tells hread
    rcases bind_eq_error.mp h with hread | ⟨value, -, h⟩
    · exact (reads_toText (by simp)).tells hread
    · cases h

theorem validate_tells {e : PropertyError} (h : validate literals = .error e) :
    e.Tells fun name value => get? name literals = some value := by
  rw [validate_eq] at h
  split at h
  case isFalse hunknown =>
    cases h
    exact .unknown hunknown fun name => mem_unknownNames_iff
  split at h
  case h_2 hnone =>
    cases h
    exact .topicMissing hnone
  rcases bind_eq_error.mp h with hread | ⟨formats, -, h⟩
  · exact readFormats_tells hread
  rcases bind_eq_error.mp h with hread | ⟨partitions, -, h⟩
  · exact (reads_toCount (by simp)).tells hread
  rcases bind_eq_error.mp h with hread | ⟨replicas, -, h⟩
  · exact (reads_toCount (by simp)).tells hread
  rcases bind_eq_error.mp h with hread | ⟨wrap, -, h⟩
  · exact reads_toBool.tells hread
  · cases h

theorem validate_succeeds_iff : (∃ p, validate literals = .ok p) ↔
    Accepted fun name value => get? name literals = some value := by
  constructor
  · rintro ⟨p, h⟩
    obtain ⟨hunknown, htwo, hfits, -⟩ := validate_eq_ok_iff.mp h
    refine ⟨fun name value hvalue => ?_, ⟨_, fits_kafkaTopic.mp (hfits .kafkaTopic)⟩, ?_⟩
    · have hknown : ∃ property : Property, property.name = name := by
        by_contra hnone
        have hmem : name ∈ unknownNames literals :=
          mem_unknownNames_iff.mpr ⟨⟨value, hvalue⟩, not_exists.mp hnone⟩
        rw [hunknown] at hmem
        cases hmem
      obtain ⟨property, rfl⟩ := hknown
      have hrel := hfits property
      rw [Fits, hvalue] at hrel
      generalize p.value? property = kept? at hrel
      cases hrel with
      | some hkept => exact ⟨property, rfl, _, hkept⟩
    · intro shared hshared value
      obtain ⟨hnokey, hnovalue⟩ := not_givesTwoFormats_iff.mp htwo shared hshared
      simp [hnokey, hnovalue]
  · intro haccepted
    cases h : validate literals with
    | ok p => exact ⟨p, rfl⟩
    | error e => exact absurd haccepted (validate_tells h).not_accepted

end Validation

/-! ### Validation of what is kept -/

theorem keeps_value {p : Properties} (hpartitions : ∀ n ∈ p.partitions, 1 ≤ n)
    (hreplicas : ∀ n ∈ p.replicas, 1 ≤ n) {property : Property} {kept : Literal}
    (h : p.value? property = some kept) : property.Keeps kept kept := by
  cases property with
  | kafkaTopic =>
    cases h
    exact ⟨rfl, p.topic, rfl⟩
  | format | keyFormat | valueFormat =>
    obtain ⟨text, -, rfl⟩ := Option.map_eq_some_iff.mp h
    exact ⟨rfl, text, rfl⟩
  | partitions =>
    obtain ⟨n, hn, rfl⟩ := Option.map_eq_some_iff.mp h
    exact ⟨n, hpartitions n hn, .int n, rfl⟩
  | replicas =>
    obtain ⟨n, hn, rfl⟩ := Option.map_eq_some_iff.mp h
    exact ⟨n, hreplicas n hn, .int n, rfl⟩
  | wrapSingleValue =>
    obtain ⟨b, -, rfl⟩ := Option.map_eq_some_iff.mp h
    exact ⟨b, .bool b, rfl⟩
  | free free => rfl

theorem freeEntry?_eq_none (property : Property) (h : ∀ free, property ≠ .free free)
    (value : Literal) : freeEntry? (property.name, value) = none := by
  cases hentry : freeEntry? (property.name, value) with
  | none => rfl
  | some found =>
    obtain ⟨free, kept⟩ := found
    have hname := (Prod.mk.inj (freeEntry?_eq_some_iff.mp hentry)).1
    exact absurd (Property.name_injective hname) (h free)

theorem keeps_unique {property : Property} {given kept other : Literal}
    (h : property.Keeps given kept) (hother : property.Keeps given other) : kept = other := by
  cases property with
  | kafkaTopic | format | keyFormat | valueFormat => exact h.1.trans hother.1.symm
  | partitions | replicas =>
    obtain ⟨n, -, hn, rfl⟩ := h
    obtain ⟨m, -, hm, rfl⟩ := hother
    rw [← Literal.toInt?_eq_some_iff] at hn hm
    exact congrArg Literal.int (Option.some.inj (hn.symm.trans hm))
  | wrapSingleValue =>
    obtain ⟨b, hb, rfl⟩ := h
    obtain ⟨c, hc, rfl⟩ := hother
    have hread (b : Bool) : given.toBool .wrapSingleValue = .ok b ↔ given.IsTruth b :=
      Literal.toBool_eq_ok_iff
    rw [← hread] at hb hc
    exact congrArg Literal.bool (Except.ok.inj (hb.symm.trans hc))
  | free free => exact Eq.trans h hother.symm

theorem filterMap_values (p : Properties) : p.values.filterMap freeEntry? = p.free := by
  have hfree : p.free.filterMap (fun entry => freeEntry? ((Property.free entry.1).name, entry.2)) =
      p.free := by
    rw [funext fun entry => freeEntry?_eq_some_iff.mpr rfl, List.filterMap_some]
  have hpart {α : Type} (property : Property) (h : ∀ free, property ≠ .free free) (a? : Option α)
      (f : α → Literal) : a?.toList.filterMap (fun a => freeEntry? (property.name, f a)) = [] := by
    rw [funext fun a => freeEntry?_eq_none property h (f a), List.filterMap_none]
  have hkafkaTopic := freeEntry?_eq_none .kafkaTopic nofun
  have hformat := freeEntry?_eq_none .format nofun
  unfold values entries
  cases p.formats <;>
    simp [List.filterMap_map, Function.comp_def, hfree, hpart .keyFormat nofun,
      hpart .valueFormat nofun, hpart .partitions nofun, hpart .replicas nofun,
      hpart .wrapSingleValue nofun, hkafkaTopic, hformat]

theorem upper_name (property : Property) : Text.upper property.name = property.name := by
  rcases property with _ | _ | _ | _ | _ | _ | _ | (_ | _ | _ | _ | _ | _ | _ | _ | _) <;> decide

theorem validate_values {p : Properties} (hpartitions : ∀ n ∈ p.partitions, 1 ≤ n)
    (hreplicas : ∀ n ∈ p.replicas, 1 ≤ n) : validate p.values = .ok p := by
  refine validate_eq_ok_iff.mpr ⟨?_, ?_, fun property => ?_, p.filterMap_values.symm⟩
  · refine List.eq_nil_iff_forall_not_mem.mpr fun name hname => ?_
    obtain ⟨⟨value, hvalue⟩, hunknown⟩ := mem_unknownNames_iff.mp hname
    obtain ⟨property, hproperty⟩ := name_of_mem_values (mem_of_get? hvalue)
    exact hunknown property hproperty
  · rw [not_givesTwoFormats_iff]
    intro shared hshared
    rw [get?_values] at hshared
    rw [get?_values, get?_values]
    unfold value? formatText? at hshared ⊢
    cases hformats : p.formats <;> simp_all
  · rw [Fits, get?_values]
    cases hvalue : p.value? property with
    | none => exact .none
    | some kept => exact .some (keeps_value hpartitions hreplicas hvalue)

def Gives (literals : List (String × Literal)) (name : String) (value : Literal) : Prop :=
  ∃ given, (given, value) ∈ literals ∧ Text.upper given = name

theorem upperNames_of_nodup {literals : List (String × Literal)}
    (h : (literals.map fun entry => Text.upper entry.1).Nodup) :
    upperNames literals = literals.map fun entry => (Text.upper entry.1, entry.2) := by
  refine lastWins_of_nodup ?_
  rwa [List.map_map]

theorem get?_upperNames_iff {literals : List (String × Literal)}
    (h : (literals.map fun entry => Text.upper entry.1).Nodup) (name : String) (value : Literal) :
    get? name (upperNames literals) = some value ↔ Gives literals name value := by
  rw [upperNames_of_nodup h]
  constructor
  · intro hfound
    obtain ⟨⟨given, _⟩, hmem, hsame⟩ := List.mem_map.mp (mem_of_get? hfound)
    cases hsame
    exact ⟨given, hmem, rfl⟩
  · rintro ⟨given, hmem, rfl⟩
    refine get?_eq_some_of_mem ?_ (List.mem_map.mpr ⟨(given, value), hmem, rfl⟩)
    rwa [keys, List.map_map]

theorem nodup_free_of_ofLiterals {literals : List (String × Literal)} {p : Properties}
    (h : ofLiterals literals = .ok p) : (p.free.map (·.1)).Nodup := by
  obtain ⟨-, -, -, hfree⟩ := validate_eq_ok_iff.mp h
  have hkeys : (keys (upperNames literals)).Nodup := by
    rw [upperNames, keys_lastWins]
    exact nodup_eraseDups _
  exact hfree ▸ nodup_freeEntries hkeys

theorem one_le_of_ofLiterals {literals : List (String × Literal)} {properties : Properties}
    (h : ofLiterals literals = .ok properties) :
    (∀ n ∈ properties.partitions, 1 ≤ n) ∧ ∀ n ∈ properties.replicas, 1 ≤ n := by
  obtain ⟨-, -, hfits, -⟩ := validate_eq_ok_iff.mp h
  have hcount (property : Property) (hproperty : property ∈ [Property.partitions, .replicas])
      {n : Nat} (hn : properties.value? property = some (.int n)) : 1 ≤ n := by
    have hrel := hfits property
    rw [Fits, hn] at hrel
    generalize get? property.name (upperNames literals) = given? at hrel
    cases hrel with
    | some hkept =>
      obtain ⟨m, hm, -, hsame⟩ := (keeps_count_iff hproperty).mp hkept
      obtain rfl : n = m := by simpa using hsame
      exact hm
  refine ⟨fun n hn => ?_, fun n hn => ?_⟩
  · exact hcount .partitions (by simp) (Option.map_eq_some_iff.mpr ⟨n, hn, rfl⟩)
  · exact hcount .replicas (by simp) (Option.map_eq_some_iff.mpr ⟨n, hn, rfl⟩)

/-- Properties are accepted as they are where none comes twice and the counts are positive. -/
theorem ofLiterals_values_of_nodup {p : Properties} (hfree : (p.free.map (·.1)).Nodup)
    (hpartitions : ∀ n ∈ p.partitions, 1 ≤ n) (hreplicas : ∀ n ∈ p.replicas, 1 ≤ n) :
    ofLiterals p.values = .ok p := by
  have hupper : p.values.map (fun entry => (Text.upper entry.1, entry.2)) = p.values := by
    refine (List.map_congr_left fun entry hentry => ?_).trans (List.map_id p.values)
    obtain ⟨property, hproperty⟩ := name_of_mem_values hentry
    rw [← hproperty, upper_name, hproperty]
    rfl
  have hsame : upperNames p.values = p.values := by
    rw [upperNames]
    simp only
    rw [hupper, lastWins_of_nodup (nodup_values hfree)]
  rw [ofLiterals, hsame]
  exact validate_values hpartitions hreplicas

theorem ofLiterals_values {literals : List (String × Literal)} {p : Properties}
    (h : ofLiterals literals = .ok p) :
    (p.values.map (·.1)).Nodup ∧ ofLiterals p.values = .ok p := by
  have hfree := nodup_free_of_ofLiterals h
  obtain ⟨hpartitions, hreplicas⟩ := one_le_of_ofLiterals h
  exact ⟨nodup_values hfree, ofLiterals_values_of_nodup hfree hpartitions hreplicas⟩

/-- What is kept of a clause is what the properties keep of the values given, each under its name. -/
theorem mem_values_ofLiterals {literals : List (String × Literal)}
    (hnames : (literals.map fun entry => Text.upper entry.1).Nodup) {p : Properties}
    (h : ofLiterals literals = .ok p) (name : String) (kept : Literal) :
    (name, kept) ∈ p.values ↔ ∃ value, Gives literals name value ∧
      ∃ property : Property, property.name = name ∧ property.Keeps value kept := by
  obtain ⟨hnodup, -⟩ := ofLiterals_values h
  obtain ⟨-, -, hfits, -⟩ := validate_eq_ok_iff.mp h
  have hrel (property : Property) := hfits property
  simp only [Fits, ← get?_values] at hrel
  constructor
  · intro hmem
    obtain ⟨property, rfl⟩ := name_of_mem_values hmem
    have hkeeps := hrel property
    rw [get?_eq_some_of_mem hnodup hmem] at hkeeps
    cases hgiven : get? property.name (upperNames literals) with
    | none =>
      rw [hgiven] at hkeeps
      cases hkeeps
    | some value =>
      rw [hgiven] at hkeeps
      cases hkeeps with
      | some hkept =>
        exact ⟨value, (get?_upperNames_iff hnames _ _).mp hgiven, property, rfl, hkept⟩
  · rintro ⟨value, hgiven, property, rfl, hkept⟩
    have hkeeps := hrel property
    rw [(get?_upperNames_iff hnames _ _).mpr hgiven] at hkeeps
    generalize hfound : get? property.name p.values = kept? at hkeeps
    cases hkeeps with
    | some hother =>
      obtain rfl := keeps_unique hkept hother
      exact mem_of_get? hfound

/-- Of every value given something is kept. -/
theorem exists_kept_of_gives {literals : List (String × Literal)}
    (hnames : (literals.map fun entry => Text.upper entry.1).Nodup) {p : Properties}
    (h : ofLiterals literals = .ok p) {name : String} {value : Literal}
    (hgiven : Gives literals name value) : ∃ (property : Property) (kept : Literal),
      property.name = name ∧ property.Keeps value kept ∧ (name, kept) ∈ p.values := by
  have hfound := (get?_upperNames_iff hnames name value).mpr hgiven
  obtain ⟨property, hname, kept, hkept⟩ :=
    (validate_succeeds_iff.mp ⟨p, h⟩).known name value hfound
  exact ⟨property, kept, hname, hkept,
    (mem_values_ofLiterals hnames h name kept).mpr ⟨value, hgiven, property, hname, hkept⟩⟩

/-- A clause whose names are distinct in upper case is accepted exactly if it is acceptable, and an
error tells what stands against that. What is kept is what the properties keep of the values given, each
under its name, and it is accepted again as it is. -/
theorem clause_accepted_iff (literals : List (String × Literal))
    (hnames : (literals.map fun entry => Text.upper entry.1).Nodup) :
    ((∃ p, ofLiterals literals = .ok p) ↔ Accepted (Gives literals)) ∧
    (∀ e, ofLiterals literals = .error e → e.Tells (Gives literals)) ∧
    ∀ p, ofLiterals literals = .ok p →
      (p.values.map (·.1)).Nodup ∧
      (∀ name kept, (name, kept) ∈ p.values ↔ ∃ value, Gives literals name value ∧
        ∃ property : Property, property.name = name ∧ property.Keeps value kept) ∧
      ofLiterals p.values = .ok p := by
  have hgives : (fun name value => get? name (upperNames literals) = some value) = Gives literals :=
    funext fun name => funext fun value => propext (get?_upperNames_iff hnames name value)
  refine ⟨?_, fun e h => ?_, fun p h => ?_⟩
  · rw [← hgives]
    exact validate_succeeds_iff
  · rw [← hgives]
    exact validate_tells h
  · obtain ⟨hnodup, hagain⟩ := ofLiterals_values h
    exact ⟨hnodup, mem_values_ofLiterals hnames h, hagain⟩

def sampleClause : List (String × Literal) :=
  [("kafka_topic", .text "t"), ("Partitions", .text " +3 "), ("replicas", .real (.finite false (2 ^ 52) (-51))),
    ("wrap_single_value", .text "TRUE"), ("Key_Format", .text "json"), ("timestamp", .bool false)]

def sampleProperties : Properties where
  topic := "t"
  formats := .separate (some "json") none
  partitions := some 3
  replicas := some 2
  wrapSingleValue := some true
  free := [(.timestamp, .bool false)]

theorem clause_accepted_sample : (sampleClause.map fun entry => Text.upper entry.1).Nodup ∧
    Accepted (Gives sampleClause) ∧ ("PARTITIONS", .int 3) ∈ sampleProperties.values ∧
    ofLiterals sampleProperties.values = .ok sampleProperties := by
  have hnames : (sampleClause.map fun entry => Text.upper entry.1).Nodup := by decide
  have hok : ofLiterals sampleClause = .ok sampleProperties := by decide +kernel
  obtain ⟨haccepted, -, hkept⟩ := clause_accepted_iff sampleClause hnames
  obtain ⟨-, hvalues, hagain⟩ := hkept _ hok
  exact ⟨hnames, haccepted.mp ⟨_, hok⟩, by decide, hagain⟩

end TopicPlan.Sql.Properties
