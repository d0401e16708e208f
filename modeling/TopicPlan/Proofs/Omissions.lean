import TopicPlan.Proofs.Merging
import TopicPlan.Proofs.Registrations

/-! Statements without effect. Reading a text changes the catalog only by a registration; a text that
neither registers a type nor yields a topic can be left out of a test case. -/
namespace TopicPlan
open Sql

theorem extract_catalog_of_not_registers {config : EngineConfig} {catalog : Catalog} {sql : String}
    {extraction : Extraction} (h : (extract config catalog sql).result = .ok extraction)
    (hnone : ∀ name type, ¬Registers catalog sql name type) : extraction.catalog = catalog := by
  have hafter : catalogAfter config catalog [sql] = catalog := catalogAfter_of_not_registers hnone
  simpa [catalogAfter, extracted?_eq_some.mpr h] using hafter

/-- A run goes the same without a statement that neither yields a topic nor registers a type. -/
theorem extractAll_eraseIdx {config : EngineConfig} {catalog left : Catalog}
    {statements : List String} {topics : List Topic} {i : Nat}
    (h : (extractAll config catalog statements).result = .ok (topics, left))
    (htopic : topicAt? config catalog statements i = none)
    (hnone : ∀ sql, statements[i]? = some sql → ∀ name type,
      ¬Registers (catalogAfter config catalog (statements.take i)) sql name type) :
    (extractAll config catalog (statements.eraseIdx i)).result = .ok (topics, left) := by
  induction statements generalizing catalog topics i with
  | nil => exact h
  | cons sql rest ih =>
    obtain ⟨extraction, others, hextract, hothers, rfl⟩ := extractAll_cons_eq_ok.mp h
    cases i with
    | zero =>
      have hcatalog := extract_catalog_of_not_registers hextract (hnone sql rfl)
      rw [topicAt?_zero, extracted?_eq_some.mpr hextract, Option.bind_some] at htopic
      rw [hcatalog] at hothers
      rw [htopic]
      exact hothers
    | succ i =>
      rw [topicAt?_succ hextract] at htopic
      have hrest : (extractAll config extraction.catalog (rest.eraseIdx i)).result =
          .ok (others, left) := by
        refine ih hothers htopic ?_
        intro text htext
        have hregisters := hnone text htext
        simpa [catalogAfter, extracted?_eq_some.mpr hextract] using hregisters
      exact extractAll_cons_eq_ok.mpr ⟨extraction, others, hextract, hrest, rfl⟩

/-- Reading a text changes the catalog only where it registers a type, and then only at that name; a
statement that neither yields a topic nor registers a type can be left out of a test case. -/
theorem statement_without_effect_omitted (config : EngineConfig) :
    (∀ catalog sql,
      (∃ name type, Registers catalog sql name type ∧
        (extract config catalog sql).result = .ok ⟨.nothing, catalog.register name type⟩ ∧
        ∀ other, other ≠ name →
          (catalog.register name type).definition? other = catalog.definition? other) ∨
      (∀ name type, ¬Registers catalog sql name type) ∧
        catalogAfter config catalog [sql] = catalog) ∧
    ∀ declared statements inputs outputs topics i,
      (collectTopics config declared statements inputs outputs).result = .ok topics →
      topicAt? config .empty statements i = none →
      (∀ sql, statements[i]? = some sql → ∀ name type,
        ¬Registers (catalogAfter config .empty (statements.take i)) sql name type) →
      (collectTopics config declared (statements.eraseIdx i) inputs outputs).result = .ok topics := by
  constructor
  · intro catalog sql
    by_cases hany : ∃ name type, Registers catalog sql name type
    · obtain ⟨name, type, hregisters⟩ := hany
      refine Or.inl ⟨name, type, hregisters, extract_of_registers hregisters, ?_⟩
      intro other hne
      rw [Catalog.definition?_register, if_neg hne]
    · have hnone : ∀ name type, ¬Registers catalog sql name type := by
        intro name type hregisters
        exact hany ⟨name, type, hregisters⟩
      exact Or.inr ⟨hnone, catalogAfter_of_not_registers hnone⟩
  · intro declared statements inputs outputs topics i h htopic hnone
    rw [collectTopics_result] at h ⊢
    obtain ⟨⟨implied, left⟩, hall, rfl⟩ := map_eq_ok.mp h
    rw [extractAll_eraseIdx hall htopic hnone]
    rfl

/-- A registration with an unknown type, between two statements that go together. -/
theorem statement_without_effect_omitted_unknown :
    (collectTopics .standard [] ["REGISTER TYPE T AS INT", "REGISTER TYPE T AS ARRAY<W>",
      "CREATE TABLE Q (V T) WITH (kafka_topic='t', format='JSON')"] ["r"] []).result =
      .ok [⟨"t", 1, 1, none⟩, ⟨"r", 1, 1, none⟩] ∧
    (collectTopics .standard [] ["REGISTER TYPE T AS INT",
      "CREATE TABLE Q (V T) WITH (kafka_topic='t', format='JSON')"] ["r"] []).result =
      .ok [⟨"t", 1, 1, none⟩, ⟨"r", 1, 1, none⟩] := by
  have h : (collectTopics .standard [] ["REGISTER TYPE T AS INT", "REGISTER TYPE T AS ARRAY<W>",
      "CREATE TABLE Q (V T) WITH (kafka_topic='t', format='JSON')"] ["r"] []).result =
      .ok [⟨"t", 1, 1, none⟩, ⟨"r", 1, 1, none⟩] := by decide +kernel
  have hrefused : (extract .standard (catalogAfter .standard .empty ["REGISTER TYPE T AS INT"])
      "REGISTER TYPE T AS ARRAY<W>").result.map (·.outcome) =
      .ok (.unreadable (.unresolvedType "W")) := by decide +kernel
  obtain ⟨extraction, hextract, houtcome⟩ := map_eq_ok.mp hrefused
  refine ⟨h, (statement_without_effect_omitted .standard).2 _ _ _ _ _ 1 h ?_ ?_⟩
  · have hextracted := extracted?_eq_some.mpr hextract
    unfold topicAt? extractedAt?
    rw [List.getElem?_cons_succ, List.getElem?_cons_zero, Option.bind_some, List.take_succ_cons,
      List.take_zero, hextracted, Option.bind_some, houtcome]
    rfl
  · intro sql hsql name type hregisters
    cases hsql
    have hnothing := hextract.symm.trans (extract_of_registers hregisters)
    cases hnothing
    cases houtcome

end TopicPlan
