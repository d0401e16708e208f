import TopicPlan.Proofs.Results
import TopicPlan.Proofs.Runs

/-! Custom types and their definitions. Resolving a type succeeds exactly when its references are
bound, and puts a definition in the place of each; a catalog that is filled by reading texts never
holds a type with references, so resolved types have none. -/
namespace TopicPlan
namespace Sql

namespace DataType

mutual

/-- The type with every bound reference replaced by its definition. -/
def expand (definition? : String → Option DataType) : DataType → DataType
  | .base b => .base b
  | .decimal precision scale => .decimal precision scale
  | .array item => .array (item.expand definition?)
  | .map key value => .map (key.expand definition?) (value.expand definition?)
  | .struct fields => .struct (expandFields definition? fields)
  | .reference name => (definition? name).getD (.reference name)

def expandFields (definition? : String → Option DataType) : Fields → Fields
  | [] => []
  | (name, type) :: rest => (name, type.expand definition?) :: expandFields definition? rest

end

variable {definition? : String → Option DataType}

def Bound (definition? : String → Option DataType) (names : List String) : Prop :=
  ∀ name ∈ names, (definition? name).isSome

instance (names : List String) : Decidable (Bound definition? names) :=
  inferInstanceAs (Decidable (∀ name ∈ names, (definition? name).isSome = true))

@[simp] theorem bound_nil : Bound definition? [] := by simp [Bound]

@[simp] theorem bound_append {first second : List String} :
    Bound definition? (first ++ second) ↔ Bound definition? first ∧ Bound definition? second := by
  simp [Bound, or_imp, forall_and]

def firstUnbound? (definition? : String → Option DataType) (names : List String) : Option String :=
  names.find? fun name => (definition? name).isNone

theorem firstUnbound?_append (names more : List String) :
    firstUnbound? definition? (names ++ more) =
      (firstUnbound? definition? names).or (firstUnbound? definition? more) :=
  List.find?_append

theorem firstUnbound?_eq_none_iff {names : List String} :
    firstUnbound? definition? names = none ↔ Bound definition? names := by
  simp [firstUnbound?, Bound, Option.isSome_iff_ne_none]

theorem firstUnbound?_eq_some_iff {names : List String} {name : String} :
    firstUnbound? definition? names = some name ↔
      definition? name = none ∧
        ∃ before after, names = before ++ name :: after ∧ Bound definition? before := by
  rw [firstUnbound?, List.find?_eq_some_iff_append, Option.isNone_iff_eq_none]
  simp [Bound, Option.isSome_iff_ne_none]

/-- What resolving gives where all names are bound, and else the error for the first one that is not. -/
def resolvedOr {α : Type} (definition? : String → Option DataType) (names : List String) (a : α) :
    Except String α :=
  match firstUnbound? definition? names with
  | some name => .error name
  | none => .ok a

section ResolvedOr

variable {α β : Type}

theorem resolvedOr_eq_ok_iff {names : List String} {a b : α} :
    resolvedOr definition? names a = .ok b ↔ Bound definition? names ∧ b = a := by
  rw [resolvedOr, ← firstUnbound?_eq_none_iff]
  cases firstUnbound? definition? names <;> simp [eq_comm]

theorem resolvedOr_append (names more : List String) (a : α) (f : α → Except String β) (b : β)
    (h : f a = resolvedOr definition? more b) :
    (resolvedOr definition? names a >>= f) = resolvedOr definition? (names ++ more) b := by
  rw [resolvedOr, resolvedOr, firstUnbound?_append]
  cases firstUnbound? definition? names with
  | some name => rfl
  | none => exact h

theorem resolvedOr_map (names : List String) (a : α) (f : α → β) :
    (resolvedOr definition? names a >>= fun a => pure (f a)) = resolvedOr definition? names (f a) := by
  rw [resolvedOr, resolvedOr]
  cases firstUnbound? definition? names <;> rfl

end ResolvedOr

mutual

/-- Types are resolved from left to right: a type expands if its references are bound, and else the
first one that is not is the error. -/
theorem resolve_eq : (type : DataType) →
    type.resolve definition? = resolvedOr definition? type.references (type.expand definition?)
  | .base _ | .decimal .. => rfl
  | .array item => by
    rw [resolve, resolve_eq item]
    exact resolvedOr_map _ _ _
  | .map key value => by
    rw [resolve, resolve_eq key]
    refine resolvedOr_append _ _ _ _ _ ?_
    rw [resolve_eq value]
    exact resolvedOr_map _ _ _
  | .struct fields => by
    rw [resolve, resolveFields_eq fields]
    exact resolvedOr_map _ _ _
  | .reference name => by
    rw [resolve, references, expand, resolvedOr, firstUnbound?]
    cases h : definition? name <;> simp [h]

theorem resolveFields_eq : (fields : Fields) →
    resolveFields definition? fields =
      resolvedOr definition? (fieldReferences fields) (expandFields definition? fields)
  | [] => rfl
  | (name, type) :: rest => by
    rw [resolveFields, resolve_eq type]
    refine resolvedOr_append _ _ _ _ _ ?_
    rw [resolveFields_eq rest]
    exact resolvedOr_map _ _ _

end

theorem resolve_eq_ok_iff {type found : DataType} :
    type.resolve definition? = .ok found ↔
      Bound definition? type.references ∧ found = type.expand definition? := by
  rw [resolve_eq, resolvedOr_eq_ok_iff]

def Closed (definition? : String → Option DataType) : Prop :=
  ∀ name type, definition? name = some type → type.references = []

mutual

theorem references_expand (hclosed : Closed definition?) : (type : DataType) →
    Bound definition? type.references → (type.expand definition?).references = []
  | .base _, _ | .decimal .., _ => rfl
  | .array item, h => by
    rw [references] at h
    rw [expand, references, references_expand hclosed item h]
  | .map key value, h => by
    rw [references, bound_append] at h
    rw [expand, references, references_expand hclosed key h.1, references_expand hclosed value h.2]
    rfl
  | .struct fields, h => by
    rw [references] at h
    rw [expand, references, fieldReferences_expand hclosed fields h]
  | .reference name, h => by
    obtain ⟨type, htype⟩ := Option.isSome_iff_exists.mp (h name (by simp [references]))
    rw [expand, htype, Option.getD_some]
    exact hclosed name type htype

theorem fieldReferences_expand (hclosed : Closed definition?) : (fields : Fields) →
    Bound definition? (fieldReferences fields) →
      fieldReferences (expandFields definition? fields) = []
  | [], _ => rfl
  | (name, type) :: rest, h => by
    rw [fieldReferences, bound_append] at h
    rw [expandFields, fieldReferences, references_expand hclosed type h.1,
      fieldReferences_expand hclosed rest h.2]
    rfl

end

end DataType
open DataType

def Source.references (source : Source) : List String :=
  source.columns.flatMap fun column => column.type.references

def Source.expand (definition? : String → Option DataType) (source : Source) : Source :=
  { source with
    columns := source.columns.map fun column =>
      { column with type := column.type.expand definition? } }

theorem resolveColumns_eq (definition? : String → Option DataType) (columns : List Column) :
    resolveColumns definition? columns =
      resolvedOr definition? (columns.flatMap fun column => column.type.references)
        (columns.map fun column => { column with type := column.type.expand definition? }) := by
  induction columns with
  | nil => rfl
  | cons column rest ih =>
    rw [resolveColumns, resolve_eq, List.flatMap_cons]
    refine resolvedOr_append _ _ _ _ _ ?_
    rw [ih]
    exact resolvedOr_map _ _ _

theorem resolve_create_eq (definition? : String → Option DataType) (source : Source) :
    (Statement.create source).resolve definition? =
      resolvedOr definition? source.references (.create (source.expand definition?)) := by
  rw [Statement.resolve, resolveColumns_eq]
  exact resolvedOr_map _ _ _

theorem resolve_register_eq (definition? : String → Option DataType)
    (registration : TypeRegistration) :
    (Statement.register registration).resolve definition? =
      resolvedOr definition? registration.type.references
        (.register { registration with type := registration.type.expand definition? }) := by
  rw [Statement.resolve, resolve_eq]
  exact resolvedOr_map _ _ _

theorem resolve_create_eq_ok_iff {definition? : String → Option DataType} {source : Source}
    {found : Statement} :
    (Statement.create source).resolve definition? = .ok found ↔
      Bound definition? source.references ∧ found = .create (source.expand definition?) := by
  rw [resolve_create_eq, resolvedOr_eq_ok_iff]

theorem resolve_register_eq_ok_iff {definition? : String → Option DataType}
    {registration : TypeRegistration} {found : Statement} :
    (Statement.register registration).resolve definition? = .ok found ↔
      Bound definition? registration.type.references ∧
        found = .register { registration with type := registration.type.expand definition? } := by
  rw [resolve_register_eq, resolvedOr_eq_ok_iff]

def Catalog.IsClosed (catalog : Catalog) : Prop := Closed catalog.definition?

theorem Catalog.isClosed_empty : Catalog.empty.IsClosed := by
  intro name type h
  cases h

theorem Catalog.IsClosed.register {catalog : Catalog} (hclosed : catalog.IsClosed) {name : String}
    {type : DataType} (htype : type.references = []) : (catalog.register name type).IsClosed := by
  intro n t h
  rw [definition?_register] at h
  split at h
  · cases h
    exact htype
  · exact hclosed n t h

theorem Source.references_expand {catalog : Catalog} (hclosed : catalog.IsClosed) {source : Source}
    (hbound : Bound catalog.definition? source.references) :
    (source.expand catalog.definition?).references = [] := by
  rw [references, List.flatMap_eq_nil_iff]
  intro column hcolumn
  obtain ⟨original, horiginal, rfl⟩ := List.mem_map.mp hcolumn
  refine DataType.references_expand hclosed original.type ?_
  intro name hname
  exact hbound name (List.mem_flatMap.mpr ⟨original, horiginal, hname⟩)

end Sql
open Sql Sql.DataType

/-- The catalogs that reading texts leaves, one after the other, with any configurations. -/
inductive Reachable : Catalog → Prop
  | empty : Reachable .empty
  | read {catalog : Catalog} {extraction : Extraction} (config : EngineConfig) (sql : String)
      (hcatalog : Reachable catalog) (h : (extract config catalog sql).result = .ok extraction) :
      Reachable extraction.catalog

theorem resolved_eq_ok_iff {catalog : Catalog} {statement found : Statement} :
    resolved catalog statement = .ok found ↔
      statement.resolve catalog.definition? = .ok found := by
  rw [resolved, mapError_eq_ok]

theorem result_registered_register {ε : Type} (catalog : Catalog)
    (registration : TypeRegistration) :
    (registered catalog (.register registration) : Noted ε Catalog).result =
      .ok (catalog.register registration.name registration.type) := by
  unfold registered
  by_cases h : (catalog.definition? registration.name).isSome
  · simp only [h, if_true]
    rfl
  · simp only [h]
    rfl

/-- A source that is read leaves the catalog, and yields the topic of what it expands to. -/
theorem readStatement_create {config : EngineConfig} {catalog after : Catalog} {source : Source}
    {topic? : Option Topic} :
    (readStatement config catalog (some (.create source))).result = .ok (topic?, after) ↔
      Bound catalog.definition? source.references ∧ after = catalog ∧
        ∃ topic, topic? = some topic ∧
          (topicOfSource config (source.expand catalog.definition?)).result = .ok topic := by
  constructor
  · intro h
    obtain ⟨statement, hstatement, hthen⟩ := Noted.bind_eq_ok.mp h
    obtain ⟨hbound, rfl⟩ := resolve_create_eq_ok_iff.mp (resolved_eq_ok_iff.mp hstatement)
    obtain ⟨topic, htopic, hfound⟩ := Noted.bind_eq_ok.mp hthen
    cases hfound
    exact ⟨hbound, rfl, topic, rfl, htopic⟩
  · rintro ⟨hbound, rfl, topic, rfl, htopic⟩
    have hstatement := resolved_eq_ok_iff.mpr (resolve_create_eq_ok_iff.mpr ⟨hbound, rfl⟩)
    exact Noted.bind_eq_ok.mpr ⟨_, hstatement, Noted.bind_eq_ok.mpr ⟨topic, htopic, rfl⟩⟩

theorem readStatement_register {config : EngineConfig} {catalog after : Catalog}
    {registration : TypeRegistration} {topic? : Option Topic} :
    (readStatement config catalog (some (.register registration))).result = .ok (topic?, after) ↔
      Bound catalog.definition? registration.type.references ∧ topic? = none ∧
        after = catalog.register registration.name
          (registration.type.expand catalog.definition?) := by
  constructor
  · intro h
    obtain ⟨statement, hstatement, hthen⟩ := Noted.bind_eq_ok.mp h
    obtain ⟨hbound, rfl⟩ := resolve_register_eq_ok_iff.mp (resolved_eq_ok_iff.mp hstatement)
    obtain ⟨left, hleft, hfound⟩ := Noted.bind_eq_ok.mp hthen
    rw [result_registered_register] at hleft
    cases hleft
    cases hfound
    exact ⟨hbound, rfl, rfl⟩
  · rintro ⟨hbound, rfl, rfl⟩
    have hstatement := resolved_eq_ok_iff.mpr (resolve_register_eq_ok_iff.mpr ⟨hbound, rfl⟩)
    exact Noted.bind_eq_ok.mpr ⟨_, hstatement,
      Noted.bind_eq_ok.mpr ⟨_, result_registered_register _ _, rfl⟩⟩

/-- Only a source that is declared yields a topic. -/
theorem readStatement_topic {config : EngineConfig} {catalog after : Catalog}
    {statement? : Option Statement} {topic : Topic} :
    (readStatement config catalog statement?).result = .ok (some topic, after) ↔
      ∃ source, statement? = some (.create source) ∧
        Bound catalog.definition? source.references ∧ after = catalog ∧
        (topicOfSource config (source.expand catalog.definition?)).result = .ok topic := by
  constructor
  · intro h
    rcases statement? with _ | registration | source
    · cases h
    · obtain ⟨-, hnone, -⟩ := readStatement_register.mp h
      cases hnone
    · obtain ⟨hbound, hafter, found, hfound, htopic⟩ := readStatement_create.mp h
      cases hfound
      exact ⟨source, rfl, hbound, hafter, htopic⟩
  · rintro ⟨source, rfl, hbound, hafter, htopic⟩
    exact readStatement_create.mpr ⟨hbound, hafter, topic, rfl, htopic⟩

/-- Reading a statement keeps a catalog closed. -/
theorem readStatement_isClosed {config : EngineConfig} {catalog after : Catalog}
    {statement? : Option Statement} {topic? : Option Topic} (hclosed : catalog.IsClosed)
    (h : (readStatement config catalog statement?).result = .ok (topic?, after)) :
    after.IsClosed := by
  rcases statement? with _ | registration | source
  · cases h
    exact hclosed
  · obtain ⟨hbound, -, rfl⟩ := readStatement_register.mp h
    exact hclosed.register (references_expand hclosed registration.type hbound)
  · obtain ⟨-, rfl, -⟩ := readStatement_create.mp h
    exact hclosed

/-- The ways in which the reading of a text can end, with what it yields in each of them. -/
inductive ReadAs (config : EngineConfig) (catalog : Catalog) (sql : String) : Extraction → Prop
  | unparsed {error : ScriptError} (hparse : parse sql = .error error) :
      ReadAs config catalog sql ⟨.unreadable (.script error), catalog⟩
  | blank (hparse : parse sql = .ok []) : ReadAs config catalog sql ⟨.nothing, catalog⟩
  | refused {parsed : ParsedStatement} {error : StatementError} (hparse : parse sql = .ok [parsed])
      (hread : (readStatement config catalog parsed.statement?).result = .error error) :
      ReadAs config catalog sql ⟨.unreadable error, catalog⟩
  | silent {parsed : ParsedStatement} {after : Catalog} (hparse : parse sql = .ok [parsed])
      (hread : (readStatement config catalog parsed.statement?).result = .ok (none, after)) :
      ReadAs config catalog sql ⟨.nothing, after⟩
  | implied {parsed : ParsedStatement} {topic : Topic} {after : Catalog}
      (hparse : parse sql = .ok [parsed])
      (hread : (readStatement config catalog parsed.statement?).result = .ok (some topic, after)) :
      ReadAs config catalog sql ⟨.topic topic, after⟩

theorem readAs_of_extract {config : EngineConfig} {catalog : Catalog} {sql : String}
    {extraction : Extraction} (h : (extract config catalog sql).result = .ok extraction) :
    ReadAs config catalog sql extraction := by
  rcases hparse : parse sql with error | _ | ⟨parsed, _ | ⟨second, rest⟩⟩
  · rw [extract_unparsed hparse, unparsed.eq_def] at h
    split at h
    · cases h
    · cases h
      exact .unparsed hparse
  · rw [extract_blank hparse] at h
    cases h
    exact .blank hparse
  · rw [extract_single hparse] at h
    cases hread : (readStatement config catalog parsed.statement?).result with
    | error error =>
      rw [hread] at h
      cases h
      exact .refused hparse hread
    | ok found =>
      rw [hread] at h
      rcases found with ⟨_ | topic, after⟩ <;> cases h
      · exact .silent hparse hread
      · exact .implied hparse hread
  · rw [extract_several hparse] at h
    cases h

theorem extract_isClosed {config : EngineConfig} {catalog : Catalog} {sql : String}
    {extraction : Extraction} (hclosed : catalog.IsClosed)
    (h : (extract config catalog sql).result = .ok extraction) : extraction.catalog.IsClosed := by
  cases readAs_of_extract h with
  | unparsed _ | blank _ | refused _ _ => exact hclosed
  | silent _ hread | implied _ hread => exact readStatement_isClosed hclosed hread

/-- No catalog that reading leaves holds a type with references. -/
theorem Reachable.isClosed {catalog : Catalog} (h : Reachable catalog) : catalog.IsClosed := by
  induction h with
  | empty => exact Catalog.isClosed_empty
  | read config sql _ h ih => exact extract_isClosed ih h

end TopicPlan
