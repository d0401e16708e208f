import TopicPlan.Proofs.Registrations

/-! Prepared statements. Main statement: a statement that is read can be prepared exactly when its
references are bound, and the first one that is not is told otherwise; its types then are what they resolve
to, and nothing else changes. Resolving types by one catalog and then by another is resolving them once. -/
namespace TopicPlan
namespace Sql
open DataType

/-! ### Resolving twice -/

section Twice

variable {first second : String → Option DataType}

def thenResolved (first second : String → Option DataType) (name : String) : Option DataType :=
  (first name).bind fun type => (type.resolve second).toOption

mutual

theorem resolve_thenResolved : (type : DataType) → {between : DataType} →
    type.resolve first = .ok between → (found : DataType) →
    (between.resolve second = .ok found ↔ type.resolve (thenResolved first second) = .ok found)
  | .base _, _, h, _ | .decimal .., _, h, _ => by
    cases h
    rfl
  | .array item, _, h, _ => by
    obtain ⟨item', hitem, hbetween⟩ := bind_eq_ok.mp h
    cases hbetween
    rw [resolve, resolve, bind_pure_eq_ok, bind_pure_eq_ok]
    exact exists_congr fun _ => and_congr_left' (resolve_thenResolved item hitem _)
  | .map key value, _, h, _ => by
    obtain ⟨key', hkey, hrest⟩ := bind_eq_ok.mp h
    obtain ⟨value', hvalue, hbetween⟩ := bind_eq_ok.mp hrest
    cases hbetween
    rw [resolve, resolve, bind_eq_ok, bind_eq_ok]
    simp only [bind_pure_eq_ok]
    exact exists_congr fun _ => and_congr (resolve_thenResolved key hkey _)
      (exists_congr fun _ => and_congr_left' (resolve_thenResolved value hvalue _))
  | .struct fields, _, h, _ => by
    obtain ⟨fields', hfields, hbetween⟩ := bind_eq_ok.mp h
    cases hbetween
    rw [resolve, resolve, bind_pure_eq_ok, bind_pure_eq_ok]
    exact exists_congr fun _ => and_congr_left' (resolveFields_thenResolved fields hfields _)
  | .reference name, between, h, found => by
    have hname : first name = some between := by
      rw [resolve] at h
      cases hfirst : first name with
      | none => simp [hfirst] at h
      | some type => simpa [hfirst] using h
    rw [resolve, thenResolved, hname, Option.bind_some]
    cases between.resolve second <;> simp [Except.toOption]

theorem resolveFields_thenResolved : (fields : Fields) → {between : Fields} →
    resolveFields first fields = .ok between → (found : Fields) →
    (resolveFields second between = .ok found ↔
      resolveFields (thenResolved first second) fields = .ok found)
  | [], _, h, _ => by
    cases h
    rfl
  | (name, type) :: rest, _, h, _ => by
    obtain ⟨type', htype, hrest⟩ := bind_eq_ok.mp h
    obtain ⟨rest', hothers, hbetween⟩ := bind_eq_ok.mp hrest
    cases hbetween
    rw [resolveFields, resolveFields, bind_eq_ok, bind_eq_ok]
    simp only [bind_pure_eq_ok]
    exact exists_congr fun _ => and_congr (resolve_thenResolved type htype _)
      (exists_congr fun _ => and_congr_left' (resolveFields_thenResolved rest hothers _))

end

theorem bound_of_thenResolved {names : List String} (h : Bound (thenResolved first second) names) :
    Bound first names := by
  intro name hname
  obtain ⟨found, hfound⟩ := Option.isSome_iff_exists.mp (h name hname)
  obtain ⟨type, htype, -⟩ := Option.bind_eq_some_iff.mp hfound
  exact Option.isSome_iff_exists.mpr ⟨type, htype⟩

/-- A type can be resolved with one lookup and then with another exactly if it can be resolved with the
definitions of the one resolved by the other, and this gives the same type. -/
theorem resolve_twice_iff {type found : DataType} :
    (∃ between, type.resolve first = .ok between ∧ between.resolve second = .ok found) ↔
      type.resolve (thenResolved first second) = .ok found := by
  constructor
  · rintro ⟨between, hfirst, hsecond⟩
    exact (resolve_thenResolved type hfirst found).mp hsecond
  · intro h
    have hbound := bound_of_thenResolved (resolve_eq_ok_iff.mp h).1
    have hfirst : type.resolve first = .ok (type.expand first) := resolve_eq_ok_iff.mpr ⟨hbound, rfl⟩
    exact ⟨_, hfirst, (resolve_thenResolved type hfirst found).mpr h⟩

end Twice

/-! ### Statements -/

/-- A statement with its types replaced by what they resolve to, and nothing else changed. -/
inductive Retyped (definition? : String → Option DataType) : Statement → Statement → Prop
  | register {registration : TypeRegistration} {type : DataType}
      (h : registration.type.resolve definition? = .ok type) :
      Retyped definition? (.register registration) (.register { registration with type })
  | create {source : Source} {columns : List Column}
      (h : List.Forall₂ (fun column found => ∃ type, column.type.resolve definition? = .ok type ∧
        found = { column with type }) source.columns columns) :
      Retyped definition? (.create source) (.create { source with columns })

variable {definition? : String → Option DataType}

theorem resolveColumns_eq_ok_iff {columns found : List Column} :
    resolveColumns definition? columns = .ok found ↔
      List.Forall₂ (fun column found => ∃ type, column.type.resolve definition? = .ok type ∧
        found = { column with type }) columns found := by
  induction columns generalizing found with
  | nil =>
    rw [List.forall₂_nil_left_iff, resolveColumns, Except.ok.injEq]
    exact eq_comm
  | cons column rest ih =>
    rw [resolveColumns, List.forall₂_cons_left_iff, bind_eq_ok]
    simp only [bind_pure_eq_ok, ih]
    constructor
    · rintro ⟨type, htype, others, hothers, rfl⟩
      exact ⟨_, _, ⟨type, htype, rfl⟩, hothers, rfl⟩
    · rintro ⟨_, others, ⟨type, htype, rfl⟩, hothers, rfl⟩
      exact ⟨type, htype, others, hothers, rfl⟩

theorem resolve_eq_ok_iff_retyped {tree found : Statement} :
    tree.resolve definition? = .ok found ↔ Retyped definition? tree found := by
  cases tree with
  | register registration =>
    rw [Statement.resolve, bind_pure_eq_ok]
    constructor
    · rintro ⟨type, htype, rfl⟩
      exact .register htype
    · rintro ⟨h⟩
      exact ⟨_, h, rfl⟩
  | create source =>
    rw [Statement.resolve, bind_pure_eq_ok]
    constructor
    · rintro ⟨columns, hcolumns, rfl⟩
      exact .create (resolveColumns_eq_ok_iff.mp hcolumns)
    · rintro (_ | h)
      exact ⟨_, resolveColumns_eq_ok_iff.mpr h, rfl⟩

theorem Retyped.kind {tree found : Statement} (h : Retyped definition? tree found) :
    found.kind = tree.kind := by
  cases h <;> rfl

def Statement.expand (definition? : String → Option DataType) : Statement → Statement
  | .register registration =>
    .register { registration with type := registration.type.expand definition? }
  | .create source => .create (source.expand definition?)

theorem Statement.resolve_eq (tree : Statement) :
    tree.resolve definition? =
      resolvedOr definition? tree.references (tree.expand definition?) := by
  cases tree with
  | register registration => exact resolve_register_eq definition? registration
  | create source => exact resolve_create_eq definition? source

end Sql
open Sql Sql.DataType

section Prepare

variable {catalog : Catalog} {text : String} {tree : Statement} {found : PreparedStatement}

theorem prepare_eq_ok_iff :
    prepare catalog ⟨text, some tree⟩ = .ok found ↔
      found.text = text ∧ Retyped catalog.definition? tree found.statement := by
  obtain ⟨foundText, foundTree⟩ := found
  simp only [prepare, bind_pure_eq_ok, mapError_eq_ok, resolved_eq_ok_iff, resolve_eq_ok_iff_retyped,
    PreparedStatement.mk.injEq]
  constructor
  · rintro ⟨after, hafter, rfl, rfl⟩
    exact ⟨rfl, hafter⟩
  · rintro ⟨rfl, hafter⟩
    exact ⟨_, hafter, rfl, rfl⟩

theorem prepare_eq (catalog : Catalog) (text : String) (tree : Statement) :
    prepare catalog ⟨text, some tree⟩ =
      match firstUnbound? catalog.definition? tree.references with
      | some name => .error (.statement (.unresolvedType name))
      | none => .ok ⟨text, tree.expand catalog.definition?⟩ := by
  simp only [prepare, resolved, Statement.resolve_eq, resolvedOr]
  cases firstUnbound? catalog.definition? tree.references <;> rfl

end Prepare

/-- A statement that is kept as text only cannot be prepared. One that is read can be prepared exactly if
its references are bound: its text, its kind and everything but its types are kept. Otherwise the first
reference without a definition is told, from left to right and at every depth. Resolving types twice is
resolving them once by resolved definitions, and a type without references resolves to itself. -/
theorem prepared_iff_bound (catalog : Catalog) (parsed : ParsedStatement) :
    (parsed.statement? = none → prepare catalog parsed = .error .unread) ∧
    (∀ tree, parsed.statement? = some tree →
      ((∃ found, prepare catalog parsed = .ok found) ↔
        ∀ name ∈ tree.references, (catalog.definition? name).isSome = true) ∧
      (∀ found, prepare catalog parsed = .ok found → found.text = parsed.text ∧
        found.kind = parsed.kind ∧ Retyped catalog.definition? tree found.statement) ∧
      ∀ error, prepare catalog parsed = .error error → ∃ name before after,
        error = .statement (.unresolvedType name) ∧ tree.references = before ++ name :: after ∧
        (∀ other ∈ before, (catalog.definition? other).isSome = true) ∧
        catalog.definition? name = none) ∧
    (∀ (type found : DataType) (first second : String → Option DataType),
      (∃ between, type.resolve first = .ok between ∧ between.resolve second = .ok found) ↔
        type.resolve (thenResolved first second) = .ok found) ∧
    ∀ (type : DataType) (lookup : String → Option DataType), type.references = [] →
      type.resolve lookup = .ok type := by
  obtain ⟨text, statement?⟩ := parsed
  refine ⟨?_, ?_, fun _ _ _ _ => resolve_twice_iff,
    fun type lookup => resolve_of_references_eq_nil lookup type⟩
  · rintro rfl
    rfl
  rintro tree rfl
  refine ⟨?_, fun found h => ?_, fun error h => ?_⟩
  · have hbound : firstUnbound? catalog.definition? tree.references = none ↔
        ∀ name ∈ tree.references, (catalog.definition? name).isSome = true := firstUnbound?_eq_none_iff
    rw [prepare_eq, ← hbound]
    cases firstUnbound? catalog.definition? tree.references <;> simp
  · obtain ⟨htext, hretyped⟩ := prepare_eq_ok_iff.mp h
    exact ⟨htext, hretyped.kind, hretyped⟩
  · rw [prepare_eq] at h
    split at h
    · next name hname =>
      cases h
      obtain ⟨hnone, before, after, hsplit, hbefore⟩ := firstUnbound?_eq_some_iff.mp hname
      exact ⟨name, before, after, rfl, hsplit, hbefore, hnone⟩
    · cases h

def sampleReferences : Statement :=
  .create ⟨.stream, "S", [⟨"X", .array (.reference "B"), .key⟩,
      ⟨"Y", .map (.base .string) (.struct [("F", .reference "A"), ("G", .reference "C")]), .none⟩],
    ⟨"t", .shared "JSON", none, none, none, []⟩, true, false, false⟩

/-- A catalog that is not closed. -/
def sampleDefinitions : Catalog := ⟨[("B", .reference "D")]⟩

/-- A catalog that is not closed either, but in which the custom types of the stream are found. -/
def moreDefinitions : Catalog :=
  ⟨[("B", .reference "D"), ("A", .base .bigint), ("C", .array (.reference "B"))]⟩

theorem prepared_iff_bound_nested :
    prepare sampleDefinitions ⟨"CREATE STREAM S", some sampleReferences⟩ =
      .error (.statement (.unresolvedType "A")) ∧
    (¬∃ found, prepare sampleDefinitions ⟨"CREATE STREAM S", some sampleReferences⟩ = .ok found) ∧
    (∃ name before after,
      PreparationError.statement (.unresolvedType "A") = .statement (.unresolvedType name) ∧
      sampleReferences.references = before ++ name :: after ∧
      (∀ other ∈ before, (sampleDefinitions.definition? other).isSome = true) ∧
      sampleDefinitions.definition? name = none) ∧
    (∃ found, prepare moreDefinitions ⟨"CREATE STREAM S", some sampleReferences⟩ = .ok found ∧
      found.text = "CREATE STREAM S" ∧
      Retyped moreDefinitions.definition? sampleReferences found.statement) ∧
    (DataType.array (.decimal 4 2)).references = [] ∧
    (DataType.array (.decimal 4 2)).resolve sampleDefinitions.definition? =
      .ok (.array (.decimal 4 2)) := by
  have herror : prepare sampleDefinitions ⟨"CREATE STREAM S", some sampleReferences⟩ =
      .error (.statement (.unresolvedType "A")) := by decide
  obtain ⟨-, hread, -, hfree⟩ :=
    prepared_iff_bound sampleDefinitions ⟨"CREATE STREAM S", some sampleReferences⟩
  obtain ⟨hiff, -, htold⟩ := hread sampleReferences rfl
  obtain ⟨-, hmore, -⟩ := prepared_iff_bound moreDefinitions ⟨"CREATE STREAM S", some sampleReferences⟩
  obtain ⟨hbound, hkept, -⟩ := hmore sampleReferences rfl
  refine ⟨herror, ?_, htold _ herror, ?_, rfl, hfree _ _ rfl⟩
  · rw [hiff]
    decide
  · obtain ⟨found, hfound⟩ := hbound.mpr (by decide)
    obtain ⟨htext, -, hretyped⟩ := hkept found hfound
    exact ⟨found, hfound, htext, hretyped⟩

/-- The custom types that a statement refers to as it stands in a text; there are none in one that is kept
as text only. -/
def Sql.ParsedStatement.references (parsed : ParsedStatement) : List String :=
  (parsed.statement?.map Statement.references).getD []

/-- That all references are bound is not enough: a query has none, but it is kept as text only. -/
theorem query_not_prepared :
    parse "SELECT 1" = .ok [⟨"SELECT 1", none⟩] ∧
    ¬((∃ found, prepare .empty ⟨"SELECT 1", none⟩ = .ok found) ↔
      ∀ name ∈ ParsedStatement.references ⟨"SELECT 1", none⟩,
        (Catalog.empty.definition? name).isSome = true) := by
  refine ⟨by decide +kernel, fun h => ?_⟩
  obtain ⟨found, hfound⟩ := h.mpr (List.forall_mem_nil _)
  cases hfound

end TopicPlan
