import TopicPlan.Proofs.Registrations

/-! Statements that have nothing to do with each other. What a text says depends on the catalog only
through the names that its statement refers to, so two texts of which neither registers a name that
the other one refers to or registers can be read in either order. -/
namespace TopicPlan
namespace Sql
open DataType

section Congruence

variable {first second : String → Option DataType}

mutual

/-- Only the definitions of its references count when a type is resolved, and also which of them is
the first one without a definition. -/
theorem DataType.resolve_congr : (type : DataType) →
    (∀ name ∈ type.references, first name = second name) →
    type.resolve first = type.resolve second
  | .base _, _ | .decimal .., _ => rfl
  | .array item, h => by
    rw [references] at h
    rw [resolve, resolve, DataType.resolve_congr item h]
  | .map key value, h => by
    rw [references, List.forall_mem_append] at h
    rw [resolve, resolve, DataType.resolve_congr key h.1, DataType.resolve_congr value h.2]
  | .struct fields, h => by
    rw [references] at h
    rw [resolve, resolve, DataType.resolveFields_congr fields h]
  | .reference name, h => by
    rw [resolve, resolve, h name (by simp [references])]

theorem DataType.resolveFields_congr : (fields : Fields) →
    (∀ name ∈ fieldReferences fields, first name = second name) →
    resolveFields first fields = resolveFields second fields
  | [], _ => rfl
  | (_, type) :: rest, h => by
    rw [fieldReferences, List.forall_mem_append] at h
    rw [resolveFields, resolveFields, DataType.resolve_congr type h.1,
      DataType.resolveFields_congr rest h.2]

end

theorem resolveColumns_congr (columns : List Column)
    (h : ∀ name ∈ columns.flatMap fun column => column.type.references,
      first name = second name) :
    resolveColumns first columns = resolveColumns second columns := by
  induction columns with
  | nil => rfl
  | cons column rest ih =>
    rw [List.flatMap_cons, List.forall_mem_append] at h
    rw [resolveColumns, resolveColumns, column.type.resolve_congr h.1, ih h.2]

theorem Statement.resolve_congr (statement : Statement)
    (h : ∀ name ∈ statement.references, first name = second name) :
    statement.resolve first = statement.resolve second := by
  cases statement with
  | register registration =>
    rw [Statement.resolve, Statement.resolve, registration.type.resolve_congr h]
  | create source => rw [Statement.resolve, Statement.resolve, resolveColumns_congr source.columns h]

end Congruence

end Sql
open Sql Sql.DataType

/-- A text refers to a name when it is one statement with a custom type of that name in it. -/
def RefersTo (sql name : String) : Prop :=
  ∃ text statement, parse sql = .ok [⟨text, some statement⟩] ∧ name ∈ statement.references

/-- Two catalogs have the same definition, or none, for every name that a text refers to. -/
def AgreeFor (sql : String) (catalog other : Catalog) : Prop :=
  ∀ name, RefersTo sql name → catalog.definition? name = other.definition? name

def outcomeIn (config : EngineConfig) (catalog : Catalog) (sql : String) :
    Except ExtractionError Outcome :=
  (extract config catalog sql).result.map (·.outcome)

section Locality

variable {config : EngineConfig} {catalog other : Catalog} {sql name : String} {type : DataType}

theorem readStatement_congr (config : EngineConfig) (statement : Statement)
    (h : ∀ name ∈ statement.references, catalog.definition? name = other.definition? name) :
    (readStatement config catalog (some statement)).result.map (·.1) =
      (readStatement config other (some statement)).result.map (·.1) := by
  have hresolved : resolved catalog statement = resolved other statement := by
    rw [resolved, resolved, statement.resolve_congr h]
  rw [readStatement, readStatement, ← hresolved]
  simp only [Noted.result_bind, Noted.result_ofExcept]
  cases resolved catalog statement with
  | error error => rfl
  | ok prepared =>
    cases prepared with
    | register registration =>
      simp only [Except.bind, Noted.result_bind, result_registered_register]
      rfl
    | create source =>
      simp only [Except.bind, Noted.result_bind]
      cases (topicOfSource config source).result <;> rfl

theorem outcomeIn_single (config : EngineConfig) (catalog : Catalog) {parsed : ParsedStatement}
    (hparse : parse sql = .ok [parsed]) :
    outcomeIn config catalog sql =
      .ok (match (readStatement config catalog parsed.statement?).result.map (·.1) with
        | .ok (some topic) => .topic topic
        | .ok none => .nothing
        | .error error => .unreadable error) := by
  rw [outcomeIn, extract_single hparse]
  rcases (readStatement config catalog parsed.statement?).result with error | ⟨_ | topic, after⟩ <;>
    rfl

/-- What a text says depends on the catalog only through the names that it refers to. -/
theorem outcomeIn_congr (config : EngineConfig) (h : AgreeFor sql catalog other) :
    outcomeIn config catalog sql = outcomeIn config other sql := by
  rcases hparse : parse sql with error | _ | ⟨⟨text, statement?⟩, _ | ⟨second, rest⟩⟩
  · rw [outcomeIn, outcomeIn, extract_unparsed hparse, extract_unparsed hparse]
    unfold unparsed
    split <;> rfl
  · rw [outcomeIn, outcomeIn, extract_blank hparse, extract_blank hparse]
    rfl
  · rw [outcomeIn_single config catalog hparse, outcomeIn_single config other hparse]
    cases statement? with
    | none => rfl
    | some statement =>
      have hread := readStatement_congr config statement fun name hname =>
        h name ⟨text, statement, hparse, hname⟩
      simp only [hread]
  · rw [outcomeIn, outcomeIn, extract_several hparse, extract_several hparse]

theorem registers_congr (h : AgreeFor sql catalog other) :
    Registers catalog sql name type ↔ Registers other sql name type := by
  have himplies : ∀ {first second : Catalog}, AgreeFor sql first second →
      Registers first sql name type → Registers second sql name type := by
    rintro first second hagree ⟨text, registration, hparse, hname, hbound, htype⟩
    have hresolve := registration.type.resolve_congr fun name hname =>
      hagree name ⟨text, .register registration, hparse, hname⟩
    rw [resolve_eq_ok_iff.mpr ⟨hbound, htype.symm⟩, eq_comm, resolve_eq_ok_iff] at hresolve
    exact ⟨text, registration, hparse, hname, hresolve.1, hresolve.2.symm⟩
  exact ⟨himplies h, himplies fun name hname => (h name hname).symm⟩

theorem definition?_of_registers (h : Registers catalog sql name type) :
    (catalogAfter config catalog [sql]).definition? name = some type := by
  rw [catalogAfter_of_registers h, Catalog.definition?_register, if_pos rfl]

end Locality

/-- Read against a catalog, neither of two texts registers a name that the other one refers to or
registers. -/
structure Independent (catalog : Catalog) (first second : String) : Prop where
  referred : ∀ name type, Registers catalog first name type → ¬RefersTo second name
  referring : ∀ name type, Registers catalog second name type → ¬RefersTo first name
  registered : ∀ name type other, Registers catalog first name type →
    ¬Registers catalog second name other

namespace Independent

variable {config : EngineConfig} {catalog : Catalog} {first second : String}

theorem symm (h : Independent catalog first second) : Independent catalog second first where
  referred := h.referring
  referring := h.referred
  registered name type other hsecond hfirst := h.registered name other type hfirst hsecond

/-- The text that is read first leaves the definitions that the other one needs. -/
theorem agreeFor (h : Independent catalog first second) :
    AgreeFor second catalog (catalogAfter config catalog [first]) := by
  intro name hrefers
  have hnone : ∀ type, ¬Registers catalog first name type := by
    intro type hregisters
    exact h.referred name type hregisters hrefers
  exact (definition?_catalogAfter hnone).symm

theorem definition?_of_registers_first (h : Independent catalog first second) {name : String}
    {type : DataType} (hregisters : Registers catalog first name type) :
    (catalogAfter config catalog [first, second]).definition? name = some type ∧
    (catalogAfter config catalog [second, first]).definition? name = some type := by
  constructor
  · have hnone : ∀ other,
        ¬Registers (catalogAfter config catalog [first]) second name other := by
      intro other hsecond
      exact h.registered name type other hregisters ((registers_congr h.agreeFor).mpr hsecond)
    exact (definition?_catalogAfter hnone).trans (definition?_of_registers hregisters)
  · exact definition?_of_registers ((registers_congr h.symm.agreeFor).mp hregisters)

theorem definition?_of_not_registers (h : Independent catalog first second) {name : String}
    (hfirst : ∀ type, ¬Registers catalog first name type)
    (hsecond : ∀ type, ¬Registers catalog second name type) :
    (catalogAfter config catalog [first, second]).definition? name = catalog.definition? name := by
  have hafter : ∀ type, ¬Registers (catalogAfter config catalog [first]) second name type := by
    intro type hregisters
    exact hsecond type ((registers_congr h.agreeFor).mpr hregisters)
  exact (definition?_catalogAfter hafter).trans (definition?_catalogAfter hfirst)

theorem definition?_comm (h : Independent catalog first second) (name : String) :
    (catalogAfter config catalog [first, second]).definition? name =
      (catalogAfter config catalog [second, first]).definition? name := by
  by_cases hfirst : ∃ type, Registers catalog first name type
  · obtain ⟨type, hregisters⟩ := hfirst
    obtain ⟨hbefore, hafter⟩ := h.definition?_of_registers_first hregisters
    rw [hbefore, hafter]
  by_cases hsecond : ∃ type, Registers catalog second name type
  · obtain ⟨type, hregisters⟩ := hsecond
    obtain ⟨hbefore, hafter⟩ := h.symm.definition?_of_registers_first hregisters
    rw [hbefore, hafter]
  · have hnotFirst := not_exists.mp hfirst
    have hnotSecond := not_exists.mp hsecond
    rw [h.definition?_of_not_registers hnotFirst hnotSecond,
      h.symm.definition?_of_not_registers hnotSecond hnotFirst]

end Independent

/-- Two texts of which neither registers a name that the other one refers to or registers say the same
in either order, and leave the same definitions; and whatever a text is, it says the same against any
two catalogs that agree on the names it refers to. -/
theorem independent_texts_commute (config : EngineConfig) :
    (∀ catalog first second, Independent catalog first second →
      outcomeIn config catalog first =
        outcomeIn config (catalogAfter config catalog [second]) first ∧
      outcomeIn config (catalogAfter config catalog [first]) second =
        outcomeIn config catalog second ∧
      ∀ name, (catalogAfter config catalog [first, second]).definition? name =
        (catalogAfter config catalog [second, first]).definition? name) ∧
    ∀ sql catalog other,
      (∀ name, RefersTo sql name → catalog.definition? name = other.definition? name) →
      outcomeIn config catalog sql = outcomeIn config other sql := by
  constructor
  · intro catalog first second h
    exact ⟨outcomeIn_congr config h.symm.agreeFor, (outcomeIn_congr config h.agreeFor).symm,
      h.definition?_comm⟩
  · intro sql catalog other h
    exact outcomeIn_congr config h

/-- A registration and a source that refer to the same type, and a name that both go without. -/
theorem independent_texts_commute_array :
    Reachable (catalogAfter .standard .empty ["REGISTER TYPE U AS INT"]) ∧
    Independent (catalogAfter .standard .empty ["REGISTER TYPE U AS INT"])
      "REGISTER TYPE T AS ARRAY<U>"
      "CREATE TABLE Q (V U) WITH (kafka_topic='t', format='JSON')" ∧
    outcomeIn .standard (catalogAfter .standard
      (catalogAfter .standard .empty ["REGISTER TYPE U AS INT"]) ["REGISTER TYPE T AS ARRAY<U>"])
      "CREATE TABLE Q (V U) WITH (kafka_topic='t', format='JSON')" =
      .ok (.topic ⟨"t", 1, 1, none⟩) ∧
    ∀ name, (catalogAfter .standard (catalogAfter .standard .empty ["REGISTER TYPE U AS INT"])
      ["REGISTER TYPE T AS ARRAY<U>",
        "CREATE TABLE Q (V U) WITH (kafka_topic='t', format='JSON')"]).definition? name =
      (catalogAfter .standard (catalogAfter .standard .empty ["REGISTER TYPE U AS INT"])
        ["CREATE TABLE Q (V U) WITH (kafka_topic='t', format='JSON')",
          "REGISTER TYPE T AS ARRAY<U>"]).definition? name := by
  let catalog := catalogAfter .standard .empty ["REGISTER TYPE U AS INT"]
  have hregister : parse "REGISTER TYPE T AS ARRAY<U>" = .ok [⟨"REGISTER TYPE T AS ARRAY<U>",
      some (.register ⟨"T", .array (.reference "U"), false⟩)⟩] := by decide +kernel
  have hcreate : parse "CREATE TABLE Q (V U) WITH (kafka_topic='t', format='JSON')" =
      .ok [⟨"CREATE TABLE Q (V U) WITH (kafka_topic='t', format='JSON')",
        some (.create ⟨.table, "Q", [⟨"V", .reference "U", .none⟩],
          ⟨"t", .shared "JSON", none, none, none, []⟩, false, false, false⟩)⟩] := by decide +kernel
  have hnone : ∀ name type, ¬Registers catalog
      "CREATE TABLE Q (V U) WITH (kafka_topic='t', format='JSON')" name type := by
    rintro name type ⟨text, registration, hparse, -⟩
    rw [hcreate] at hparse
    cases hparse
  have hindependent : Independent catalog "REGISTER TYPE T AS ARRAY<U>"
      "CREATE TABLE Q (V U) WITH (kafka_topic='t', format='JSON')" := by
    refine ⟨?_, fun name type h => absurd h (hnone name type), fun name _ type _ => hnone name type⟩
    rintro name type ⟨text, registration, hparse, rfl, -⟩ ⟨other, statement, hother, hname⟩
    rw [hregister] at hparse
    rw [hcreate] at hother
    cases hparse
    cases hother
    exact absurd hname (by decide)
  obtain ⟨-, hsecond, hdefinitions⟩ :=
    (independent_texts_commute .standard).1 catalog _ _ hindependent
  have hcatalog : Reachable catalog := reachable_catalogAfter .standard .empty _
  refine ⟨hcatalog, hindependent, ?_, hdefinitions⟩
  have houtcome : outcomeIn .standard catalog
      "CREATE TABLE Q (V U) WITH (kafka_topic='t', format='JSON')" =
      .ok (.topic ⟨"t", 1, 1, none⟩) := by
    rw [outcomeIn_single .standard catalog hcreate]
    decide +kernel
  exact hsecond.trans houtcome

end TopicPlan
