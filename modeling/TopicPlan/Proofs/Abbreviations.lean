import TopicPlan.Proofs.Resolution
import Mathlib.Control.Monad.Basic

/-! Custom types as abbreviations. A source is read the same whether its columns name custom types or
spell out their definitions, in which case no catalog is needed. -/
namespace TopicPlan
namespace Sql
open DataType

theorem DataType.expand_of_references_eq_nil (definition? : String → Option DataType)
    {type : DataType} (h : type.references = []) : type.expand definition? = type := by
  have hresolve := resolve_of_references_eq_nil definition? type h
  exact (resolve_eq_ok_iff.mp hresolve).2.symm

theorem Source.expand_of_references_eq_nil (definition? : String → Option DataType)
    {source : Source} (h : source.references = []) : source.expand definition? = source := by
  have hcolumn : ∀ column ∈ source.columns,
      { column with type := column.type.expand definition? } = column := by
    intro column hcolumn
    have hnone := List.flatMap_eq_nil_iff.mp h column hcolumn
    rw [DataType.expand_of_references_eq_nil definition? hnone]
  have hcolumns : (source.columns.map fun column =>
      { column with type := column.type.expand definition? }) = source.columns := by
    rw [List.map_congr_left hcolumn, List.map_id']
  rw [expand, hcolumns]

end Sql
open Sql Sql.DataType

theorem readStatement_of_bound (config : EngineConfig) {catalog : Catalog} {source : Source}
    (hbound : Bound catalog.definition? source.references) :
    readStatement config catalog (some (.create source)) =
      topicOfSource config (source.expand catalog.definition?) >>= fun topic =>
        pure (some topic, catalog) := by
  have hresolved : resolved catalog (.create source) =
      .ok (.create (source.expand catalog.definition?)) :=
    resolved_eq_ok_iff.mpr (resolve_create_eq_ok_iff.mpr ⟨hbound, rfl⟩)
  rw [readStatement, hresolved]
  rfl

theorem extract_of_bound (config : EngineConfig) {catalog : Catalog} {sql text : String}
    {source : Source} (hparse : parse sql = .ok [⟨text, some (.create source)⟩])
    (hbound : Bound catalog.definition? source.references) :
    (extract config catalog sql).result =
      .ok ⟨match (topicOfSource config (source.expand catalog.definition?)).result with
        | .ok topic => .topic topic
        | .error error => .unreadable error, catalog⟩ := by
  rw [extract_single hparse, readStatement_of_bound config hbound, Noted.result_bind]
  cases (topicOfSource config (source.expand catalog.definition?)).result <;> rfl

/-- Spelling out its custom types changes nothing for a source: read without any, it yields the same
topic, or is refused for the same reason and with the same notices. -/
theorem expanded_source_read_alike {catalog : Catalog} (hcatalog : Reachable catalog)
    (config : EngineConfig) {source : Source}
    (hbound : Bound catalog.definition? source.references) :
    (source.expand catalog.definition?).references = [] ∧
    (readStatement config .empty (some (.create (source.expand catalog.definition?)))).result.map
      (·.1) = (readStatement config catalog (some (.create source))).result.map (·.1) ∧
    (readStatement config .empty (some (.create (source.expand catalog.definition?)))).notices =
      (readStatement config catalog (some (.create source))).notices ∧
    ∀ sql text expandedSql expandedText,
      parse sql = .ok [⟨text, some (.create source)⟩] →
      parse expandedSql =
        .ok [⟨expandedText, some (.create (source.expand catalog.definition?))⟩] →
      ∃ outcome, (extract config catalog sql).result = .ok ⟨outcome, catalog⟩ ∧
        (extract config .empty expandedSql).result = .ok ⟨outcome, .empty⟩ := by
  have hnone : (source.expand catalog.definition?).references = [] :=
    Source.references_expand hcatalog.isClosed hbound
  have hempty : Bound Catalog.empty.definition?
      (source.expand catalog.definition?).references := by
    rw [hnone]
    exact bound_nil
  have hsame : (source.expand catalog.definition?).expand Catalog.empty.definition? =
      source.expand catalog.definition? := Source.expand_of_references_eq_nil _ hnone
  have hread := readStatement_of_bound config hbound
  have hexpanded := readStatement_of_bound config hempty
  rw [hsame] at hexpanded
  refine ⟨hnone, ?_, ?_, ?_⟩
  · rw [hread, hexpanded]
    simp only [Noted.result_bind, Noted.result_pure]
    cases (topicOfSource config (source.expand catalog.definition?)).result <;> rfl
  · rw [hread, hexpanded]
    show (Noted.bind _ _).notices = (Noted.bind _ _).notices
    unfold Noted.bind
    cases (topicOfSource config (source.expand catalog.definition?)).result <;> rfl
  · intro sql text expandedSql expandedText hparse hparseExpanded
    have houtcome := extract_of_bound config hparseExpanded hempty
    rw [hsame] at houtcome
    exact ⟨_, extract_of_bound config hparse hbound, houtcome⟩

/-- A custom type within a column, and its definition in its place. -/
theorem expanded_source_read_alike_array : ∃ catalog, Reachable catalog ∧
    (catalog.definition? "T").isSome ∧ ∃ outcome,
      (extract .standard catalog
        "CREATE TABLE Q (V ARRAY<T>) WITH (kafka_topic='t', format='AVRO')").result =
        .ok ⟨outcome, catalog⟩ ∧
      (extract .standard .empty
        "CREATE TABLE Q (V ARRAY<INT>) WITH (kafka_topic='t', format='AVRO')").result =
        .ok ⟨outcome, .empty⟩ := by
  let catalog : Catalog := ⟨[("T", .base .integer)]⟩
  let source : Source := ⟨.table, "Q", [⟨"V", .array (.reference "T"), .none⟩],
    ⟨"t", .shared "AVRO", none, none, none, []⟩, false, false, false⟩
  have hregister : (extract .standard .empty "REGISTER TYPE T AS INT").result =
      .ok ⟨.nothing, catalog⟩ := by decide +kernel
  have hcatalog : Reachable catalog := .read .standard _ .empty hregister
  have hbound : Bound catalog.definition? source.references := by
    simp [Bound, Source.references, source, references, catalog, Catalog.definition?,
      OrderedMap.get?]
  have hparse : parse "CREATE TABLE Q (V ARRAY<T>) WITH (kafka_topic='t', format='AVRO')" =
      .ok [⟨"CREATE TABLE Q (V ARRAY<T>) WITH (kafka_topic='t', format='AVRO')",
        some (.create source)⟩] := by decide +kernel
  have hexpanded : parse "CREATE TABLE Q (V ARRAY<INT>) WITH (kafka_topic='t', format='AVRO')" =
      .ok [⟨"CREATE TABLE Q (V ARRAY<INT>) WITH (kafka_topic='t', format='AVRO')",
        some (.create (source.expand catalog.definition?))⟩] := by decide +kernel
  obtain ⟨-, -, -, htexts⟩ := expanded_source_read_alike hcatalog .standard hbound
  obtain ⟨outcome, hread, hreadExpanded⟩ := htexts _ _ _ _ hparse hexpanded
  exact ⟨catalog, hcatalog, rfl, outcome, hread, hreadExpanded⟩

end TopicPlan
