import TopicPlan.Proofs.Abbreviations
import TopicPlan.Proofs.TopicCriterion

/-! What the topic of a source is told by: its properties and its value columns. The columns of keys
and headers have no bearing on it, and neither have the source's name and kind. -/
namespace TopicPlan
open Sql Sql.DataType Schema

structure Sql.Source.ValuesAlike (first second : Source) : Prop where
  properties : first.properties = second.properties
  values : first.fields .value = second.fields .value

section Alike

variable (config : EngineConfig) {first second : Source}

theorem leavesBare_iff_of_alike (h : first.ValuesAlike second) (value : Format) :
    LeavesBare config first value ↔ LeavesBare config second value := by
  unfold LeavesBare
  rw [h.properties, h.values]

theorem valueSchema_of_alike (h : first.ValuesAlike second) (key otherKey value : Format) :
    (valueSchema config first key value).result =
      (valueSchema config second otherKey value).result := by
  have hbare : decide (LeavesBare config first value) = decide (LeavesBare config second value) :=
    decide_eq_decide.mpr (leavesBare_iff_of_alike config h value)
  have hname : first.avroName = second.avroName := by
    unfold Source.avroName
    rw [h.properties]
  rw [valueSchema_eq, valueSchema_eq, hbare, hname, h.values]

theorem withDefaultFormats_of_alike (h : first.ValuesAlike second) :
    (∃ error, config.withDefaultFormats first = .error error ∧
      config.withDefaultFormats second = .error error) ∨
    ∃ named other, config.withDefaultFormats first = .ok named ∧
      config.withDefaultFormats second = .ok other ∧ named.ValuesAlike other := by
  rw [config.withDefaultFormats_eq first, config.withDefaultFormats_eq second, h.properties]
  by_cases hkey : config.keyFormatName second.properties = ""
  · rw [if_pos hkey, if_pos hkey]
    exact Or.inl ⟨_, rfl, rfl⟩
  · by_cases hvalue : config.valueFormatName second.properties = ""
    · rw [if_neg hkey, if_neg hkey, if_pos hvalue, if_pos hvalue]
      exact Or.inl ⟨_, rfl, rfl⟩
    · rw [if_neg hkey, if_neg hkey, if_neg hvalue, if_neg hvalue]
      have hnamed (key value : String) :
          (first.withFormats key value).ValuesAlike (second.withFormats key value) :=
        ⟨congrArg (Properties.withFormats · (Text.upper key) (Text.upper value)) h.properties, h.values⟩
      exact Or.inr ⟨_, _, rfl, rfl, hnamed _ _⟩

theorem topicOfSource_of_alike (h : first.ValuesAlike second) :
    (topicOfSource config first).result = (topicOfSource config second).result := by
  unfold topicOfSource
  rcases withDefaultFormats_of_alike config h with
    ⟨error, hfirst, hsecond⟩ | ⟨named, other, hfirst, hsecond, halike⟩
  · rw [hfirst, hsecond]
  · have hschema := valueSchema_of_alike config halike
    rw [hfirst, hsecond]
    simp only [Noted.result_bind, Noted.result_ofExcept, Except.mapError, Except.bind,
      Noted.result_pure, halike.properties]
    cases (formatNamed other.properties.keyFormat?).result with
    | error error => rfl
    | ok key =>
      cases (formatNamed other.properties.valueFormat?).result with
      | error error => rfl
      | ok value => simp only [hschema key key value]

end Alike

/-- Two sources whose types are known, of whatever kind and name and with whatever columns in keys and
headers, yield the same topic or are refused for the same reason, as long as they have the same
properties and the same value columns once custom types are spelled out. -/
theorem read_by_values {catalog : Catalog} (config : EngineConfig) {first second : Source}
    (hfirst : Bound catalog.definition? first.references)
    (hsecond : Bound catalog.definition? second.references)
    (halike : (first.expand catalog.definition?).ValuesAlike (second.expand catalog.definition?)) :
    (readStatement config catalog (some (.create first))).result =
      (readStatement config catalog (some (.create second))).result ∧
    ∀ sql text otherSql otherText,
      parse sql = .ok [⟨text, some (.create first)⟩] →
      parse otherSql = .ok [⟨otherText, some (.create second)⟩] →
      ∃ outcome, (extract config catalog sql).result = .ok ⟨outcome, catalog⟩ ∧
        (extract config catalog otherSql).result = .ok ⟨outcome, catalog⟩ := by
  have htopic := topicOfSource_of_alike config halike
  refine ⟨?_, ?_⟩
  · rw [readStatement_of_bound config hfirst, readStatement_of_bound config hsecond,
      Noted.result_bind, Noted.result_bind, htopic]
  · intro sql text otherSql otherText hparse hother
    have hread := extract_of_bound config hparse hfirst
    rw [htopic] at hread
    exact ⟨_, hread, extract_of_bound config hother hsecond⟩

def streamWithHeaders : String :=
  "CREATE STREAM A (K T KEY, V T, H T HEADERS) WITH (kafka_topic='t', format='AVRO')"

def tableWithKeys : String :=
  "CREATE TABLE B (K INT PRIMARY KEY, L T PRIMARY KEY, V INT) WITH (kafka_topic='t', format='AVRO')"

/-- A stream and a table with one value column, in which other columns come before and after it. -/
theorem read_by_values_interleaved : ∃ catalog, Reachable catalog ∧
    (catalog.definition? "T").isSome ∧ ∃ topic, topic.schema.isSome ∧
      (extract .standard catalog streamWithHeaders).result = .ok ⟨.topic topic, catalog⟩ ∧
      (extract .standard catalog tableWithKeys).result = .ok ⟨.topic topic, catalog⟩ := by
  let catalog : Catalog := ⟨[("T", .base .integer)]⟩
  let properties : Properties := ⟨"t", .shared "AVRO", none, none, none, []⟩
  let first : Source := ⟨.stream, "A", [⟨"K", .reference "T", .key⟩, ⟨"V", .reference "T", .none⟩,
    ⟨"H", .reference "T", .headers⟩], properties, false, false, false⟩
  let second : Source := ⟨.table, "B", [⟨"K", .base .integer, .primaryKey⟩,
    ⟨"L", .reference "T", .primaryKey⟩, ⟨"V", .base .integer, .none⟩], properties, false, false, false⟩
  have hregister : (extract .standard .empty "REGISTER TYPE T AS INT").result =
      .ok ⟨.nothing, catalog⟩ := by decide +kernel
  have hcatalog : Reachable catalog := .read .standard _ .empty hregister
  have hfirst : Bound catalog.definition? first.references := by decide +kernel
  have hsecond : Bound catalog.definition? second.references := by decide +kernel
  have halike : (first.expand catalog.definition?).ValuesAlike
      (second.expand catalog.definition?) := ⟨rfl, by decide +kernel⟩
  have hparse : parse streamWithHeaders = .ok [⟨streamWithHeaders, some (.create first)⟩] := by
    decide +kernel
  have hother : parse tableWithKeys = .ok [⟨tableWithKeys, some (.create second)⟩] := by
    decide +kernel
  have hschema : (topicOfSource .standard (second.expand catalog.definition?)).result.map
      (·.schema.isSome) = .ok true := by decide +kernel
  obtain ⟨topic, htopic, hsome⟩ := map_eq_ok.mp hschema
  have hfound := extract_of_bound .standard hother hsecond
  rw [htopic] at hfound
  obtain ⟨-, htexts⟩ := read_by_values .standard hfirst hsecond halike
  obtain ⟨outcome, hread, hreadOther⟩ := htexts _ _ _ _ hparse hother
  have houtcome : outcome = .topic topic :=
    congrArg Extraction.outcome (Except.ok.inj (hreadOther.symm.trans hfound))
  rw [houtcome] at hread
  exact ⟨catalog, hcatalog, rfl, topic, hsome, hread, hfound⟩

end TopicPlan
