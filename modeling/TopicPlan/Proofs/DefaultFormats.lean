import TopicPlan.Proofs.WellFormedness

/-! Default formats. A source is completed exactly when there is a name for the format of its keys and one
for that of its values. Main statement: it then has these names in upper case as formats of its own and is
otherwise as it was, no configuration completes it any further, and its clause is accepted as it is. -/
namespace TopicPlan
open Sql

/-! ### The name that counts -/

namespace Sql.Properties

/-- A property gives a format a name that is not empty. -/
def Names (p : Properties) (property : Property) (name : String) : Prop :=
  (property.name, .text name) ∈ p.values ∧ name ≠ ""

/-- The name that counts for a format: that of the property of its own, or else the one for keys and
values alike, or else the default. -/
inductive Counts (p : Properties) (own : Property) (default? : Option String) : String → Prop
  | own {name : String} (h : p.Names own name) : Counts p own default? name
  | shared {name : String} (hown : ∀ other, ¬p.Names own other) (h : p.Names .format name) :
      Counts p own default? name
  | default {name : String} (hown : ∀ other, ¬p.Names own other)
      (hshared : ∀ other, ¬p.Names .format other) (h : default? = some name) (hname : name ≠ "") :
      Counts p own default? name

variable {p : Properties} {own : Property} {default? : Option String} {name : String}

theorem names_iff (hfree : (p.free.map (·.1)).Nodup)
    (hown : own ∈ [Property.format, .keyFormat, .valueFormat]) :
    p.Names own name ↔ p.formatText? own = some name ∧ name ≠ "" := by
  have hvalue : p.value? own = (p.formatText? own).map .text := by
    obtain rfl | rfl | rfl : own = .format ∨ own = .keyFormat ∨ own = .valueFormat := by
      simpa using hown
    all_goals rfl
  rw [Names, mem_values_iff hfree, hvalue]
  simp

theorem firstGiven_eq_iff (first : Option String) (rest : List (Option String)) (hname : name ≠ "") :
    firstGiven (first :: rest) = name ↔
      first = some name ∨ (∀ other, first = some other → other = "") ∧ firstGiven rest = name := by
  cases first with
  | none => simp [firstGiven_none]
  | some given =>
    rw [firstGiven_cons]
    by_cases hgiven : given = ""
    · simp [hgiven, hname.symm]
    · simp [hgiven]

theorem counts_iff (hfree : (p.free.map (·.1)).Nodup) (hown : own ∈ [Property.keyFormat, .valueFormat]) :
    p.Counts own default? name ↔
      name ≠ "" ∧ firstGiven [p.formatText? own, p.formatText? .format, default?] = name := by
  have hnames (other : String) : p.Names own other ↔ p.formatText? own = some other ∧ other ≠ "" :=
    names_iff hfree (List.mem_cons_of_mem .format hown)
  have hshared (other : String) :
      p.Names .format other ↔ p.formatText? .format = some other ∧ other ≠ "" :=
    names_iff hfree (by simp)
  have hnone (property : Property) :
      (∀ other, ¬(p.formatText? property = some other ∧ other ≠ "")) ↔
        ∀ other, p.formatText? property = some other → other = "" := by
    simp only [not_and, not_not]
  constructor
  · intro h
    have hname : name ≠ "" := by
      cases h with
      | own h | shared _ h => exact h.2
      | default _ _ _ hname => exact hname
    refine ⟨hname, ?_⟩
    rw [firstGiven_eq_iff _ _ hname, firstGiven_eq_iff _ _ hname, firstGiven_single]
    cases h with
    | own h => exact Or.inl ((hnames name).mp h).1
    | shared hown h =>
      simp only [hnames, hnone] at hown
      exact Or.inr ⟨hown, Or.inl ((hshared name).mp h).1⟩
    | default hown hnoshared h _ =>
      simp only [hnames, hshared, hnone] at hown hnoshared
      exact Or.inr ⟨hown, Or.inr ⟨hnoshared, by rw [h, Option.getD_some]⟩⟩
  · rintro ⟨hname, h⟩
    rw [firstGiven_eq_iff _ _ hname, firstGiven_eq_iff _ _ hname, firstGiven_single] at h
    rcases h with h | ⟨hown, h | ⟨hnoshared, h⟩⟩
    · exact .own ((hnames name).mpr ⟨h, hname⟩)
    · refine .shared ?_ ((hshared name).mpr ⟨h, hname⟩)
      simpa only [hnames, hnone] using hown
    · refine .default ?_ ?_ ?_ hname
      · simpa only [hnames, hnone] using hown
      · simpa only [hshared, hnone] using hnoshared
      · cases default? with
        | none => exact absurd h.symm hname
        | some given => rw [← h, Option.getD_some]

/-- No name counts exactly if the first one that is given is empty. -/
theorem not_counts_iff (hfree : (p.free.map (·.1)).Nodup)
    (hown : own ∈ [Property.keyFormat, .valueFormat]) :
    (∀ name, ¬p.Counts own default? name) ↔
      firstGiven [p.formatText? own, p.formatText? .format, default?] = "" := by
  simp only [counts_iff hfree hown, not_and, ne_eq, forall_eq', not_imp_not]

end Sql.Properties

/-! ### Completed sources -/

namespace Sql.Properties

theorem value?_withFormats (p : Properties) (key value : String) (property : Property) :
    (p.withFormats key value).value? property =
      if property = .keyFormat then some (.text key)
      else if property = .valueFormat then some (.text value)
      else if property = .format then none
      else p.value? property := by
  cases property <;> rfl

theorem mem_values_withFormats {p : Properties} (hfree : (p.free.map (·.1)).Nodup)
    (key value name : String) (kept : Literal) :
    (name, kept) ∈ (p.withFormats key value).values ↔
      name = Property.keyFormat.name ∧ kept = .text key ∨
      name = Property.valueFormat.name ∧ kept = .text value ∨
      name ∉ [Property.keyFormat, .valueFormat, .format].map Property.name ∧
        (name, kept) ∈ p.values := by
  by_cases hknown : ∃ property : Property, property.name = name
  · obtain ⟨property, rfl⟩ := hknown
    have hname {other : Property} : property.name = other.name ↔ property = other :=
      ⟨Property.name_injective, congrArg Property.name⟩
    have hafter := mem_values_iff (p := p.withFormats key value) hfree property kept
    rw [hafter, value?_withFormats, mem_values_iff hfree]
    simp only [List.map_cons, List.map_nil, List.mem_cons, List.not_mem_nil, or_false, hname]
    split
    · next h => simp [h, eq_comm]
    split
    · next h => simp [h, eq_comm]
    split
    · next h => simp [h]
    · next hkey hvalue hformat => simp [hkey, hvalue, hformat]
  · have hno {q : Properties} : (name, kept) ∉ q.values := fun hmem => hknown (name_of_mem_values hmem)
    have hne {property : Property} : name ≠ property.name := fun h => hknown ⟨property, h.symm⟩
    simp [hno, hne]

end Sql.Properties

theorem EngineConfig.withDefaultFormats_withFormats (config : EngineConfig) (source : Source)
    {key value : String} (hkey : key ≠ "") (hvalue : value ≠ "") :
    config.withDefaultFormats (source.withFormats key value) = .ok (source.withFormats key value) := by
  have hkeyname : config.keyFormatName (source.withFormats key value).properties = Text.upper key := by
    have hne : ¬(Text.upper key).isEmpty = true := by simpa [Text.upper_eq_empty_iff] using hkey
    exact (firstGiven_cons _ _).trans (if_neg hne)
  have hvaluename :
      config.valueFormatName (source.withFormats key value).properties = Text.upper value := by
    have hne : ¬(Text.upper value).isEmpty = true := by simpa [Text.upper_eq_empty_iff] using hvalue
    exact (firstGiven_cons _ _).trans (if_neg hne)
  rw [withDefaultFormats_eq, hkeyname, hvaluename, if_neg, if_neg]
  · simp only [Sql.Source.withFormats, Properties.withFormats, Text.upper_upper]
  · rwa [Text.upper_eq_empty_iff]
  · rwa [Text.upper_eq_empty_iff]

/-- A source with accepted properties is completed exactly if a name counts for the format of its keys
and one for that of its values. It then has these in upper case, and all its other properties, columns and
marks; no configuration completes it any further, and its clause is accepted as it is. -/
theorem default_formats_complete {literals : List (String × Literal)} {source : Source}
    (hvalid : Properties.ofLiterals literals = .ok source.properties) (config : EngineConfig) :
    (∀ e, config.withDefaultFormats source = .error e ↔
      e = .keyFormatMissing ∧
          (∀ key, ¬source.properties.Counts .keyFormat config.defaultKeyFormat key) ∨
      e = .valueFormatMissing ∧
          (∃ key, source.properties.Counts .keyFormat config.defaultKeyFormat key) ∧
          ∀ value, ¬source.properties.Counts .valueFormat config.defaultValueFormat value) ∧
    ∀ key value, source.properties.Counts .keyFormat config.defaultKeyFormat key →
      source.properties.Counts .valueFormat config.defaultValueFormat value →
      ∃ found, config.withDefaultFormats source = .ok found ∧
        found = { source with properties := found.properties } ∧
        (∀ name kept, (name, kept) ∈ found.properties.values ↔
          name = Property.keyFormat.name ∧ kept = .text (Text.upper key) ∨
          name = Property.valueFormat.name ∧ kept = .text (Text.upper value) ∨
          name ∉ [Property.keyFormat, .valueFormat, .format].map Property.name ∧
            (name, kept) ∈ source.properties.values) ∧
        (∀ other : EngineConfig, other.withDefaultFormats found = .ok found) ∧
        Properties.ofLiterals found.properties.values = .ok found.properties := by
  have hfree := Properties.nodup_free_of_ofLiterals hvalid
  have hkeys : (∀ key, ¬source.properties.Counts .keyFormat config.defaultKeyFormat key) ↔
      config.keyFormatName source.properties = "" := Properties.not_counts_iff hfree (by simp)
  have hvalues : (∀ value, ¬source.properties.Counts .valueFormat config.defaultValueFormat value) ↔
      config.valueFormatName source.properties = "" := Properties.not_counts_iff hfree (by simp)
  have hkeynamed : (∃ key, source.properties.Counts .keyFormat config.defaultKeyFormat key) ↔
      config.keyFormatName source.properties ≠ "" := by rw [ne_eq, ← hkeys, not_forall_not]
  refine ⟨fun e => ?_, fun key value hkey hvalue => ?_⟩
  · rw [EngineConfig.withDefaultFormats_eq_error_iff, hkeys, hvalues, hkeynamed]
  obtain ⟨hkeyne, hkeyname⟩ := (Properties.counts_iff hfree (by simp)).mp hkey
  obtain ⟨hvaluene, hvaluename⟩ := (Properties.counts_iff hfree (by simp)).mp hvalue
  have hcompleted : config.withDefaultFormats source = .ok (source.withFormats key value) := by
    rw [EngineConfig.withDefaultFormats_eq, EngineConfig.keyFormatName, EngineConfig.valueFormatName,
      hkeyname, hvaluename, if_neg hkeyne, if_neg hvaluene]
  have hwellFormed : (source.withFormats key value).properties.WellFormed :=
    Properties.wellFormed_withFormats.mpr (Properties.wellFormed_of_ofLiterals hvalid)
  refine ⟨_, hcompleted, rfl, ?_, ?_, Properties.ofLiterals_values_iff.mpr hwellFormed⟩
  · exact Properties.mem_values_withFormats hfree (Text.upper key) (Text.upper value)
  · exact fun other => other.withDefaultFormats_withFormats source hkeyne hvaluene

/-- A source that gives its keys an empty format and its values one in lower case. -/
def sampleStream (formats : Formats) : Source :=
  ⟨.stream, "S", [⟨"V", .array (.base .integer), .none⟩], ⟨"t", formats, some 3, none, none, []⟩,
    false, true, false⟩

theorem default_formats_complete_empty :
    Properties.ofLiterals [("KAFKA_TOPIC", .text "t"), ("KEY_FORMAT", .text ""),
      ("VALUE_FORMAT", .text "avro"), ("PARTITIONS", .text "3")] =
      .ok (sampleStream (.separate (some "") (some "avro"))).properties ∧
    EngineConfig.standard.withDefaultFormats (sampleStream (.separate (some "") (some "avro"))) =
      .ok (sampleStream (.separate (some "KAFKA") (some "AVRO"))) ∧
    ∀ other : EngineConfig, other.withDefaultFormats
      (sampleStream (.separate (some "KAFKA") (some "AVRO"))) =
        .ok (sampleStream (.separate (some "KAFKA") (some "AVRO"))) := by
  let source := sampleStream (.separate (some "") (some "avro"))
  have hvalid : Properties.ofLiterals [("KAFKA_TOPIC", .text "t"), ("KEY_FORMAT", .text ""),
      ("VALUE_FORMAT", .text "avro"), ("PARTITIONS", .text "3")] = .ok source.properties := by
    decide +kernel
  have hfound : EngineConfig.standard.withDefaultFormats source =
      .ok (sampleStream (.separate (some "KAFKA") (some "AVRO"))) := by decide +kernel
  have hkey : source.properties.Counts .keyFormat EngineConfig.standard.defaultKeyFormat "KAFKA" :=
    (Properties.counts_iff (by decide) (by simp)).mpr (by decide)
  have hvalue : source.properties.Counts .valueFormat EngineConfig.standard.defaultValueFormat "avro" :=
    (Properties.counts_iff (by decide) (by simp)).mpr (by decide)
  obtain ⟨-, hcomplete⟩ := default_formats_complete hvalid EngineConfig.standard
  obtain ⟨found, hok, -, -, hagain, -⟩ := hcomplete "KAFKA" "avro" hkey hvalue
  obtain rfl := Except.ok.inj (hfound.symm.trans hok)
  exact ⟨hvalid, hfound, hagain⟩

end TopicPlan
