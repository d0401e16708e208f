import TopicPlan.Proofs.ReferenceFree
import Mathlib.Data.List.Induction

/-! Registrations of custom types over a run of calls that share one catalog. A call changes the
catalog at most at the one name that its text registers, so a name is bound to what its last
registration made of it, by the definitions that held at that moment. -/
namespace TopicPlan
open Sql Sql.DataType Schema

/-- A text registers a type under a name: it is one registration whose references are all bound, and
each of them gives way to the definition that it has in the catalog. -/
def Registers (catalog : Catalog) (sql name : String) (type : DataType) : Prop :=
  ∃ text registration, parse sql = .ok [⟨text, some (.register registration)⟩] ∧
    registration.name = name ∧ Bound catalog.definition? registration.type.references ∧
    registration.type.expand catalog.definition? = type

section Call

variable {config : EngineConfig} {catalog after : Catalog} {sql name other : String}
  {type found : DataType}

theorem Registers.unique (h : Registers catalog sql name type)
    (hother : Registers catalog sql other found) : name = other ∧ type = found := by
  obtain ⟨text, registration, hparse, rfl, -, rfl⟩ := h
  obtain ⟨_, _, hother, rfl, -, rfl⟩ := hother
  rw [hparse] at hother
  cases hother
  exact ⟨rfl, rfl⟩

/-- Only a registration changes the catalog that a statement is read against. -/
theorem readStatement_after {statement? : Option Statement} {topic? : Option Topic}
    (h : (readStatement config catalog statement?).result = .ok (topic?, after)) :
    after = catalog ∨ ∃ registration, statement? = some (.register registration) ∧
      Bound catalog.definition? registration.type.references := by
  rcases statement? with _ | registration | source
  · cases h
    exact Or.inl rfl
  · obtain ⟨hbound, -, -⟩ := readStatement_register.mp h
    exact Or.inr ⟨registration, rfl, hbound⟩
  · obtain ⟨-, hafter, -⟩ := readStatement_create.mp h
    exact Or.inl hafter

theorem extract_of_registers (h : Registers catalog sql name type) :
    (extract config catalog sql).result = .ok ⟨.nothing, catalog.register name type⟩ := by
  obtain ⟨text, registration, hparse, rfl, hbound, rfl⟩ := h
  have hread : (readStatement config catalog (some (.register registration))).result =
      .ok (none, catalog.register registration.name
        (registration.type.expand catalog.definition?)) :=
    readStatement_register.mpr ⟨hbound, rfl, rfl⟩
  rw [extract_single hparse, hread]

theorem catalogAfter_of_registers (h : Registers catalog sql name type) :
    catalogAfter config catalog [sql] = catalog.register name type := by
  have hextract : (extract config catalog sql).result =
      .ok ⟨.nothing, catalog.register name type⟩ := extract_of_registers h
  simp [catalogAfter, extracted?_eq_some.mpr hextract]

theorem catalogAfter_of_not_registers (h : ∀ name type, ¬Registers catalog sql name type) :
    catalogAfter config catalog [sql] = catalog := by
  have hsilent : ∀ parsed topic? after, parse sql = .ok [parsed] →
      (readStatement config catalog parsed.statement?).result = .ok (topic?, after) →
      after = catalog := by
    intro parsed topic? after hparse hread
    rcases readStatement_after hread with hafter | ⟨registration, hstatement, hbound⟩
    · exact hafter
    · obtain ⟨text, statement?⟩ := parsed
      cases hstatement
      exact absurd ⟨text, registration, hparse, rfl, hbound, rfl⟩ (h _ _)
  cases hextracted : extracted? config catalog sql with
  | none => simp [catalogAfter, hextracted]
  | some extraction =>
    have hcatalog : extraction.catalog = catalog := by
      cases readAs_of_extract (extracted?_eq_some.mp hextracted) with
      | unparsed _ | blank _ | refused _ _ => rfl
      | silent hparse hread | implied hparse hread => exact hsilent _ _ _ hparse hread
    simp [catalogAfter, hextracted, hcatalog]

theorem definition?_catalogAfter (h : ∀ type, ¬Registers catalog sql name type) :
    (catalogAfter config catalog [sql]).definition? name = catalog.definition? name := by
  by_cases hany : ∃ other found, Registers catalog sql other found
  · obtain ⟨other, found, hregisters⟩ := hany
    have hne : name ≠ other := by
      rintro rfl
      exact h found hregisters
    rw [catalogAfter_of_registers hregisters, Catalog.definition?_register, if_neg hne]
  · have hnone : ∀ other found, ¬Registers catalog sql other found := by
      intro other found hregisters
      exact hany ⟨other, found, hregisters⟩
    rw [catalogAfter_of_not_registers hnone]

end Call

/-- The catalog that some calls leave, one after the other, each with its own configuration. -/
def catalogAfterCalls (calls : List (EngineConfig × String)) : Catalog :=
  calls.foldl (fun catalog call => catalogAfter call.1 catalog [call.2]) .empty

theorem catalogAfterCalls_concat (calls : List (EngineConfig × String))
    (call : EngineConfig × String) :
    catalogAfterCalls (calls ++ [call]) =
      catalogAfter call.1 (catalogAfterCalls calls) [call.2] := by
  simp [catalogAfterCalls]

theorem reachable_catalogAfter (config : EngineConfig) {catalog : Catalog}
    (h : Reachable catalog) (sql : String) : Reachable (catalogAfter config catalog [sql]) := by
  cases hextracted : extracted? config catalog sql with
  | none => simpa [catalogAfter, hextracted] using h
  | some extraction =>
    have hread := Reachable.read config sql h (extracted?_eq_some.mp hextracted)
    simpa [catalogAfter, hextracted] using hread

theorem reachable_catalogAfterCalls (calls : List (EngineConfig × String)) :
    Reachable (catalogAfterCalls calls) := by
  induction calls using List.reverseRecOn with
  | nil => exact .empty
  | append_singleton calls call ih =>
    rw [catalogAfterCalls_concat]
    exact reachable_catalogAfter call.1 ih call.2

/-- The call at a place registers a type, against the catalog that the calls before it leave. -/
def RegistersAt (calls : List (EngineConfig × String)) (i : Nat) (name : String)
    (type : DataType) : Prop :=
  ∃ call, calls[i]? = some call ∧
    Registers (catalogAfterCalls (calls.take i)) call.2 name type

theorem RegistersAt.lt_length {calls : List (EngineConfig × String)} {i : Nat} {name : String}
    {type : DataType} (h : RegistersAt calls i name type) : i < calls.length := by
  obtain ⟨call, hcall, -⟩ := h
  exact (List.getElem?_eq_some_iff.mp hcall).1

theorem registersAt_append {calls more : List (EngineConfig × String)} {i : Nat}
    (hi : i < calls.length) {name : String} {type : DataType} :
    RegistersAt (calls ++ more) i name type ↔ RegistersAt calls i name type := by
  unfold RegistersAt
  rw [List.getElem?_append_left hi, List.take_append_of_le_length (Nat.le_of_lt hi)]

theorem registersAt_last {calls : List (EngineConfig × String)} {call : EngineConfig × String}
    {name : String} {type : DataType} :
    RegistersAt (calls ++ [call]) calls.length name type ↔
      Registers (catalogAfterCalls calls) call.2 name type := by
  simp [RegistersAt]

def LastRegistered (calls : List (EngineConfig × String)) (name : String) (type : DataType) :
    Prop :=
  ∃ i, RegistersAt calls i name type ∧ ∀ j, i < j → ∀ other, ¬RegistersAt calls j name other

section Concat

variable {calls : List (EngineConfig × String)} {call : EngineConfig × String} {name : String}
  {type : DataType}

theorem lastRegistered_of_registers (h : Registers (catalogAfterCalls calls) call.2 name type) :
    LastRegistered (calls ++ [call]) name type := by
  refine ⟨calls.length, registersAt_last.mpr h, ?_⟩
  intro j hj other hother
  have hlt := hother.lt_length
  rw [List.length_append, List.length_singleton] at hlt
  omega

theorem registers_of_lastRegistered {found : DataType}
    (hcall : Registers (catalogAfterCalls calls) call.2 name found)
    (h : LastRegistered (calls ++ [call]) name type) : type = found := by
  obtain ⟨i, hi, hlast⟩ := h
  have hlength : ¬i < calls.length := by
    intro hlt
    exact hlast calls.length hlt found (registersAt_last.mpr hcall)
  have hlt := hi.lt_length
  rw [List.length_append, List.length_singleton] at hlt
  obtain rfl : i = calls.length := by omega
  exact ((registersAt_last.mp hi).unique hcall).2

theorem lastRegistered_concat (hcall : ∀ other, ¬Registers (catalogAfterCalls calls) call.2 name other) :
    LastRegistered (calls ++ [call]) name type ↔ LastRegistered calls name type := by
  have hsame : ∀ i other, RegistersAt (calls ++ [call]) i name other ↔
      RegistersAt calls i name other := by
    intro i other
    by_cases hi : i < calls.length
    · exact registersAt_append hi
    constructor
    · intro h
      have hlt := h.lt_length
      rw [List.length_append, List.length_singleton] at hlt
      obtain rfl : i = calls.length := by omega
      exact absurd (registersAt_last.mp h) (hcall other)
    · intro h
      exact absurd h.lt_length hi
  simp only [LastRegistered, hsame]

end Concat

/-- A name is bound to the type of its last registration. -/
theorem definition?_catalogAfterCalls (calls : List (EngineConfig × String)) (name : String)
    (type : DataType) :
    (catalogAfterCalls calls).definition? name = some type ↔ LastRegistered calls name type := by
  induction calls using List.reverseRecOn with
  | nil =>
    constructor
    · intro h
      cases h
    · rintro ⟨i, hi, -⟩
      exact absurd hi.lt_length (Nat.not_lt_zero i)
  | append_singleton calls call ih =>
    rw [catalogAfterCalls_concat]
    by_cases hcall : ∃ found, Registers (catalogAfterCalls calls) call.2 name found
    · obtain ⟨found, hcall⟩ := hcall
      rw [catalogAfter_of_registers hcall, Catalog.definition?_register, if_pos rfl]
      constructor
      · intro h
        cases h
        exact lastRegistered_of_registers hcall
      · intro h
        exact congrArg some (registers_of_lastRegistered hcall h).symm
    · have hnone : ∀ found, ¬Registers (catalogAfterCalls calls) call.2 name found := by
        intro found hregisters
        exact hcall ⟨found, hregisters⟩
      rw [definition?_catalogAfter hnone, lastRegistered_concat hnone]
      exact ih

theorem definition?_catalogAfterCalls_append (calls later : List (EngineConfig × String))
    (name : String)
    (h : ∀ i, calls.length ≤ i → ∀ type, ¬RegistersAt (calls ++ later) i name type) :
    (catalogAfterCalls (calls ++ later)).definition? name =
      (catalogAfterCalls calls).definition? name := by
  induction later using List.reverseRecOn with
  | nil => rw [List.append_nil]
  | append_singleton later call ih =>
    rw [← List.append_assoc] at h ⊢
    have hcall : ∀ type, ¬Registers (catalogAfterCalls (calls ++ later)) call.2 name type := by
      intro type hregisters
      have hle : calls.length ≤ (calls ++ later).length := by
        rw [List.length_append]
        exact Nat.le_add_right _ _
      exact h _ hle type (registersAt_last.mpr hregisters)
    have hearlier : ∀ i, calls.length ≤ i → ∀ type, ¬RegistersAt (calls ++ later) i name type := by
      intro i hi type hregisters
      exact h i hi type ((registersAt_append hregisters.lt_length).mpr hregisters)
    rw [catalogAfterCalls_concat, definition?_catalogAfter hcall]
    exact ih hearlier

def Sql.Statement.references : Statement → List String
  | .register registration => registration.type.references
  | .create source => source.references

theorem references_of_resolved {catalog : Catalog} (hclosed : catalog.IsClosed)
    {statement prepared : Statement} (h : resolved catalog statement = .ok prepared) :
    prepared.references = [] := by
  have hresolved := resolved_eq_ok_iff.mp h
  cases statement with
  | register registration =>
    obtain ⟨hbound, rfl⟩ := resolve_register_eq_ok_iff.mp hresolved
    exact references_expand hclosed registration.type hbound
  | create source =>
    obtain ⟨hbound, rfl⟩ := resolve_create_eq_ok_iff.mp hresolved
    exact Source.references_expand hclosed hbound

theorem infer_of_resolved {catalog : Catalog} (hclosed : catalog.IsClosed)
    {source prepared : Source} (h : resolved catalog (.create source) = .ok (.create prepared))
    (part : RecordPart) (format : Format) (unwrap : Bool) (avroName : String) :
    PassesReferences (ValueSchema.infer format (prepared.fields part) unwrap avroName) := by
  obtain ⟨hbound, hprepared⟩ := resolve_create_eq_ok_iff.mp (resolved_eq_ok_iff.mp h)
  cases hprepared
  have hfields : fieldReferences ((source.expand catalog.definition?).fields part) = [] :=
    fieldReferences_eq_nil fun field hfield => references_of_mem_fields hclosed hbound hfield
  exact infer_passes hfields format unwrap avroName

/-- Whatever is read, one text after the other: no registered type refers to another one; a name is
bound to the type of its last registration, which was expanded then, and calls that do not register
it leave it; what is prepared has no references, so the encoders never meet one. -/
theorem registered_types_settled (calls : List (EngineConfig × String)) :
    (∀ name type, (catalogAfterCalls calls).definition? name = some type → type.references = []) ∧
    (∀ name type, (catalogAfterCalls calls).definition? name = some type ↔
      ∃ i, RegistersAt calls i name type ∧ ∀ j, i < j → ∀ other, ¬RegistersAt calls j name other) ∧
    (∀ later name,
      (∀ i, calls.length ≤ i → ∀ type, ¬RegistersAt (calls ++ later) i name type) →
      (catalogAfterCalls (calls ++ later)).definition? name =
        (catalogAfterCalls calls).definition? name) ∧
    (∀ statement prepared, resolved (catalogAfterCalls calls) statement = .ok prepared →
      prepared.references = []) ∧
    (∀ source prepared, resolved (catalogAfterCalls calls) (.create source) = .ok (.create prepared) →
      ∀ part format unwrap avroName unresolvedIn type,
        ValueSchema.infer format (prepared.fields part) unwrap avroName ≠
          .error (.unresolved unresolvedIn type)) ∧
    ∀ config sql extraction,
      (extract config (catalogAfterCalls calls) sql).result = .ok extraction →
      ∀ format type, extraction.outcome ≠ .unreadable (.format (.schema (.unresolved format type))) := by
  have hclosed : (catalogAfterCalls calls).IsClosed := (reachable_catalogAfterCalls calls).isClosed
  refine ⟨hclosed, definition?_catalogAfterCalls calls, definition?_catalogAfterCalls_append calls,
    ?_, ?_, ?_⟩
  · intro statement prepared h
    exact references_of_resolved hclosed h
  · intro source prepared h part format unwrap avroName
    exact infer_of_resolved hclosed h part format unwrap avroName
  · intro config sql extraction h
    exact extract_passes hclosed h

/-- A type keeps the definition of an inner one that is registered anew after it. -/
theorem registered_types_settled_inner :
    (∃ i, RegistersAt [(.standard, "REGISTER TYPE T AS INT"),
        (.standard, "REGISTER TYPE U AS ARRAY<T>"), (.standard, "REGISTER TYPE T AS STRING")] i "U"
        (.array (.base .integer)) ∧
      ∀ j, i < j → ∀ other, ¬RegistersAt [(.standard, "REGISTER TYPE T AS INT"),
        (.standard, "REGISTER TYPE U AS ARRAY<T>"), (.standard, "REGISTER TYPE T AS STRING")] j "U"
        other) ∧
    (catalogAfterCalls ([(.standard, "REGISTER TYPE T AS INT"),
      (.standard, "REGISTER TYPE U AS ARRAY<T>")] ++
        [(.standard, "REGISTER TYPE T AS STRING")])).definition? "U" =
      (catalogAfterCalls [(.standard, "REGISTER TYPE T AS INT"),
        (.standard, "REGISTER TYPE U AS ARRAY<T>")]).definition? "U" ∧
    ∃ prepared, resolved (catalogAfterCalls [(.standard, "REGISTER TYPE T AS INT"),
        (.standard, "REGISTER TYPE U AS ARRAY<T>")])
        (.register ⟨"V", .map (.reference "T") (.reference "U"), false⟩) = .ok prepared ∧
      prepared.references = [] := by
  obtain ⟨-, hbinding, -⟩ := registered_types_settled [(.standard, "REGISTER TYPE T AS INT"),
    (.standard, "REGISTER TYPE U AS ARRAY<T>"), (.standard, "REGISTER TYPE T AS STRING")]
  obtain ⟨-, -, hlater, hprepared, -⟩ := registered_types_settled
    [(.standard, "REGISTER TYPE T AS INT"), (.standard, "REGISTER TYPE U AS ARRAY<T>")]
  have hresolved : resolved (catalogAfterCalls [(.standard, "REGISTER TYPE T AS INT"),
      (.standard, "REGISTER TYPE U AS ARRAY<T>")])
      (.register ⟨"V", .map (.reference "T") (.reference "U"), false⟩) =
      .ok (.register ⟨"V", .map (.base .integer) (.array (.base .integer)), false⟩) := by
    decide +kernel
  refine ⟨(hbinding "U" _).mp (by decide +kernel), hlater _ "U" ?_, _, hresolved,
    hprepared _ _ hresolved⟩
  intro i hi type hregisters
  obtain rfl : i = 2 := by
    have hlt := hregisters.lt_length
    simp only [List.length_append, List.length_cons, List.length_nil] at hi hlt
    omega
  obtain ⟨call, hcall, hname⟩ := hregisters
  cases hcall
  have hinner : ∀ catalog, Registers catalog "REGISTER TYPE T AS STRING" "T" (.base .string) := by
    intro catalog
    have hparse : parse "REGISTER TYPE T AS STRING" = .ok [⟨"REGISTER TYPE T AS STRING",
        some (.register ⟨"T", .base .string, false⟩)⟩] := by decide +kernel
    exact ⟨_, _, hparse, rfl, bound_nil, rfl⟩
  exact absurd (hname.unique (hinner _)).1 (by decide)

end TopicPlan
