import TopicPlan.Proofs.Results
import TopicPlan.Topic.Collection

/-! Runs over the statements of a test case. Each statement is read against the catalog that the ones
before it leave; what a run yields is said statement by statement. -/
namespace TopicPlan

open Sql (Catalog ParsedStatement ScriptError parse)

def extracted? (config : EngineConfig) (catalog : Catalog) (sql : String) : Option Extraction :=
  (extract config catalog sql).result.toOption

/-- The catalog that some statements leave; one that stops the reading leaves it as it was. -/
def catalogAfter (config : EngineConfig) (catalog : Catalog) : List String → Catalog
  | [] => catalog
  | sql :: rest =>
    catalogAfter config (((extracted? config catalog sql).map (·.catalog)).getD catalog) rest

def extractedAt? (config : EngineConfig) (catalog : Catalog) (statements : List String) (i : Nat) :
    Option Extraction :=
  statements[i]?.bind (extracted? config (catalogAfter config catalog (statements.take i)))

def topicAt? (config : EngineConfig) (catalog : Catalog) (statements : List String) (i : Nat) :
    Option Topic :=
  (extractedAt? config catalog statements i).bind (·.outcome.topic?)

@[simp] theorem result_unread {ε : Type} (catalog : Catalog) (sql : String)
    (error : StatementError) :
    (unread catalog sql error : Noted ε Extraction).result = .ok ⟨.unreadable error, catalog⟩ :=
  rfl

/-! What one text yields, with one equation for each way in which its parse can end. -/

/-- What a text yields that cannot be parsed: an overlong numeral stops the reading. -/
def unparsed (catalog : Catalog) : ScriptError → Except ExtractionError Extraction
  | .malformed (.numeralTooLong digits) _ => .error (.numeralTooLong digits)
  | error => .ok ⟨.unreadable (.script error), catalog⟩

section Extract

variable {config : EngineConfig} {catalog : Catalog} {sql : String}

theorem extract_unparsed {error : ScriptError} (h : parse sql = .error error) :
    (extract config catalog sql).result = unparsed catalog error := by
  unfold extract unparsed
  rw [h]
  cases error with
  | unreadable error => rfl
  | malformed fault source => cases fault <;> rfl

theorem extract_blank (h : parse sql = .ok []) :
    (extract config catalog sql).result = .ok ⟨.nothing, catalog⟩ := by
  unfold extract
  rw [h]
  rfl

theorem extract_single {parsed : ParsedStatement} (h : parse sql = .ok [parsed]) :
    (extract config catalog sql).result =
      .ok (match (readStatement config catalog parsed.statement?).result with
        | .ok (some topic, after) => ⟨.topic topic, after⟩
        | .ok (none, after) => ⟨.nothing, after⟩
        | .error error => ⟨.unreadable error, catalog⟩) := by
  unfold extract
  rw [h]
  simp only [result_unread]
  rcases (readStatement config catalog parsed.statement?).result with error | ⟨_ | topic, after⟩ <;>
    rfl

theorem extract_several {first second : ParsedStatement} {rest : List ParsedStatement}
    (h : parse sql = .ok (first :: second :: rest)) :
    (extract config catalog sql).result = .error (.severalStatements sql) := by
  unfold extract
  rw [h]
  rfl

end Extract

theorem extracted?_eq_some {config : EngineConfig} {catalog : Catalog} {sql : String}
    {extraction : Extraction} :
    extracted? config catalog sql = some extraction ↔
      (extract config catalog sql).result = .ok extraction := toOption_eq_some

theorem topicAt?_zero (config : EngineConfig) (catalog : Catalog) (sql : String)
    (rest : List String) :
    topicAt? config catalog (sql :: rest) 0 =
      (extracted? config catalog sql).bind (·.outcome.topic?) := rfl

theorem topicAt?_succ {config : EngineConfig} {catalog : Catalog} {sql : String}
    {extraction : Extraction} (h : (extract config catalog sql).result = .ok extraction)
    (rest : List String) (i : Nat) :
    topicAt? config catalog (sql :: rest) (i + 1) = topicAt? config extraction.catalog rest i := by
  have hx := extracted?_eq_some.mpr h
  simp [topicAt?, extractedAt?, catalogAfter, hx]

theorem extractAll_cons (config : EngineConfig) (catalog : Catalog) (sql : String)
    (rest : List String) :
    (extractAll config catalog (sql :: rest)).result =
      (extract config catalog sql).result.bind fun extraction =>
        (extractAll config extraction.catalog rest).result.map fun found =>
          (extraction.outcome.topic?.toList ++ found.1, found.2) := by
  rw [extractAll]
  simp only [Noted.result_bind, Noted.result_pure]
  cases (extract config catalog sql).result with
  | error e => rfl
  | ok extraction =>
    simp only [Except.bind]
    cases (extractAll config extraction.catalog rest).result <;> rfl

theorem extractAll_cons_eq_ok {config : EngineConfig} {catalog left : Catalog} {sql : String}
    {rest : List String} {topics : List Topic} :
    (extractAll config catalog (sql :: rest)).result = .ok (topics, left) ↔
      ∃ extraction others, (extract config catalog sql).result = .ok extraction ∧
        (extractAll config extraction.catalog rest).result = .ok (others, left) ∧
        topics = extraction.outcome.topic?.toList ++ others := by
  rw [extractAll_cons]
  constructor
  · intro h
    obtain ⟨extraction, hextract, hrest⟩ := bind_eq_ok.mp h
    obtain ⟨⟨others, _⟩, hothers, hfound⟩ := map_eq_ok.mp hrest
    cases hfound
    exact ⟨extraction, others, hextract, hothers, rfl⟩
  · rintro ⟨extraction, others, hextract, hothers, rfl⟩
    exact bind_eq_ok.mpr ⟨extraction, hextract, map_eq_ok.mpr ⟨_, hothers, rfl⟩⟩

/-- The topics of a run are those that the statements yield one by one, in their order. -/
theorem extractAll_topics {config : EngineConfig} {catalog : Catalog} {statements : List String}
    {topics : List Topic} {left : Catalog}
    (h : (extractAll config catalog statements).result = .ok (topics, left)) :
    topics = (List.range statements.length).filterMap (topicAt? config catalog statements) := by
  induction statements generalizing catalog topics left with
  | nil =>
    cases h
    rfl
  | cons sql rest ih =>
    obtain ⟨extraction, others, hextract, hothers, rfl⟩ := extractAll_cons_eq_ok.mp h
    have htail : others = (List.range rest.length).filterMap
        (topicAt? config extraction.catalog rest) := ih hothers
    have hshift : topicAt? config catalog (sql :: rest) ∘ Nat.succ =
        topicAt? config extraction.catalog rest := by
      funext i
      exact topicAt?_succ hextract rest i
    rw [htail, List.length_cons, List.range_succ_eq_map, List.filterMap_cons,
      List.filterMap_map, hshift, topicAt?_zero, extracted?_eq_some.mpr hextract]
    simp only [Option.bind_some]
    cases extraction.outcome.topic? <;> rfl

end TopicPlan
