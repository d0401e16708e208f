import TopicPlan.Proofs.ClauseValidation
import TopicPlan.Proofs.DistinctFields

/-! Well-formed statements. What the grammar reads has distinct columns that are keyed as the kind of
source asks for, decimals whose scales fit their precisions, and properties of the sorts that they take.
Main statement: so it is for every statement that is read, prepared with types that were registered
before, or completed with default formats. -/
namespace TopicPlan
open Sql Sql.DataType

/-! ### Decimals -/

namespace Sql.DataType

/-- A decimal has digits, and not more of them behind the point than it has in all. -/
def SoundDecimals (type : DataType) : Prop :=
  ∀ precision scale, .decimal precision scale ∈ type.parts →
    1 ≤ precision ∧ 0 ≤ scale ∧ scale ≤ precision

variable {definition? : String → Option DataType}

theorem soundDecimals_base (base : BaseType) : (DataType.base base).SoundDecimals := by
  simp [SoundDecimals, parts]

theorem soundDecimals_reference (name : String) : (reference name).SoundDecimals := by
  simp [SoundDecimals, parts]

theorem soundDecimals_decimal {precision scale : Int} : (decimal precision scale).SoundDecimals ↔
    1 ≤ precision ∧ 0 ≤ scale ∧ scale ≤ precision := by
  simp [SoundDecimals, parts]

theorem soundDecimals_array {item : DataType} :
    (array item).SoundDecimals ↔ item.SoundDecimals := by
  simp [SoundDecimals, parts]

theorem soundDecimals_map {key value : DataType} :
    (map key value).SoundDecimals ↔ key.SoundDecimals ∧ value.SoundDecimals := by
  have hparts (precision scale : Int) : decimal precision scale ∈ (map key value).parts ↔
      decimal precision scale ∈ key.parts ∨ decimal precision scale ∈ value.parts := by simp [parts]
  constructor
  · exact fun h => ⟨fun precision scale hkey => h _ _ ((hparts _ _).mpr (Or.inl hkey)),
      fun precision scale hvalue => h _ _ ((hparts _ _).mpr (Or.inr hvalue))⟩
  · rintro ⟨hkey, hvalue⟩ precision scale hpart
    exact ((hparts precision scale).mp hpart).elim (hkey _ _) (hvalue _ _)

theorem soundDecimals_struct {fields : Fields} :
    (struct fields).SoundDecimals ↔ ∀ field ∈ fields, field.2.SoundDecimals := by
  unfold SoundDecimals
  rw [parts, Schema.fieldParts_eq_flatMap]
  constructor
  · intro h field hfield precision scale hpart
    refine h precision scale (List.mem_cons_of_mem _ ?_)
    exact List.mem_flatMap.mpr ⟨field, hfield, hpart⟩
  · intro h precision scale hpart
    rcases List.mem_cons.mp hpart with hself | hinner
    · cases hself
    · obtain ⟨field, hfield, hmem⟩ := List.mem_flatMap.mp hinner
      exact h field hfield precision scale hmem

mutual

theorem soundDecimals_of_saysType {spelling : Spelling} : {type : DataType} → {tokens : List Token} →
    SaysType spelling type tokens → type.SoundDecimals
  | _, _, .base _ _ | _, _, .bounded _ _ _ _ => soundDecimals_base _
  | _, _, .decimal _ _ _ _ _ _ hpositive hle => soundDecimals_decimal.mpr (by omega)
  | _, _, .array _ _ hitem _ => soundDecimals_array.mpr (soundDecimals_of_saysType hitem)
  | _, _, .map _ _ hkey _ hvalue _ =>
    soundDecimals_map.mpr ⟨soundDecimals_of_saysType hkey, soundDecimals_of_saysType hvalue⟩
  | _, _, .joinedStruct _ _ | _, _, .emptyStruct _ _ _ => soundDecimals_struct.mpr (by simp)
  | _, _, .struct _ _ hfields _ => soundDecimals_struct.mpr (soundDecimals_of_saysFields hfields)
  | _, _, .quoted _ | _, _, .reference _ _ => soundDecimals_reference _

theorem soundDecimals_of_saysFields {spelling : Spelling} : {fields : Fields} →
    {tokens : List Token} → SaysFields spelling fields tokens →
    ∀ field ∈ fields, field.2.SoundDecimals
  | _, _, .last _ htype => List.forall_mem_singleton.mpr (soundDecimals_of_saysType htype)
  | _, _, .more _ htype _ hrest =>
    List.forall_mem_cons.mpr ⟨soundDecimals_of_saysType htype, soundDecimals_of_saysFields hrest⟩

end

mutual

theorem soundDecimals_expand
    (hdefinitions : ∀ name type, definition? name = some type → type.SoundDecimals) :
    (type : DataType) → type.SoundDecimals → (type.expand definition?).SoundDecimals
  | .base _, h | .decimal .., h => h
  | .array item, h => by
    rw [expand]
    exact soundDecimals_array.mpr (soundDecimals_expand hdefinitions item (soundDecimals_array.mp h))
  | .map key value, h => by
    obtain ⟨hkey, hvalue⟩ := soundDecimals_map.mp h
    rw [expand]
    exact soundDecimals_map.mpr ⟨soundDecimals_expand hdefinitions key hkey,
      soundDecimals_expand hdefinitions value hvalue⟩
  | .struct fields, h => by
    rw [expand]
    exact soundDecimals_struct.mpr
      (soundDecimals_expandFields hdefinitions fields (soundDecimals_struct.mp h))
  | .reference name, _ => by
    rw [expand]
    cases hname : definition? name with
    | none => exact soundDecimals_reference name
    | some type => exact hdefinitions name type hname

theorem soundDecimals_expandFields
    (hdefinitions : ∀ name type, definition? name = some type → type.SoundDecimals) :
    (fields : Fields) → (∀ field ∈ fields, field.2.SoundDecimals) →
    ∀ field ∈ expandFields definition? fields, field.2.SoundDecimals
  | [], _ => by simp [expandFields]
  | (name, type) :: rest, h => by
    obtain ⟨htype, hrest⟩ := List.forall_mem_cons.mp h
    rw [expandFields]
    exact List.forall_mem_cons.mpr ⟨soundDecimals_expand hdefinitions type htype,
      soundDecimals_expandFields hdefinitions rest hrest⟩

end

end Sql.DataType

/-! ### Properties -/

namespace Sql.Properties

/-- The properties that are kept, told by the clause that gives them. -/
structure WellFormed (p : Properties) : Prop where
  distinct : (p.values.map (·.1)).Nodup
  known : ∀ entry ∈ p.values, ∃ property : Property, property.name = entry.1
  topic : ∃ text, (Property.kafkaTopic.name, .text text) ∈ p.values
  formats : ∀ property ∈ [Property.format, .keyFormat, .valueFormat], ∀ value,
    (property.name, value) ∈ p.values → ∃ text, value = .text text
  counts : ∀ property ∈ [Property.partitions, .replicas], ∀ value,
    (property.name, value) ∈ p.values → ∃ n : Int, 1 ≤ n ∧ value = .int n
  wrap : ∀ value, (Property.wrapSingleValue.name, value) ∈ p.values → ∃ b, value = .bool b
  oneFormat : ∀ shared, (Property.format.name, shared) ∈ p.values → ∀ value,
    (Property.keyFormat.name, value) ∉ p.values ∧ (Property.valueFormat.name, value) ∉ p.values

theorem mem_values_iff {p : Properties} (h : (p.free.map (·.1)).Nodup) (property : Property)
    (value : Literal) : (property.name, value) ∈ p.values ↔ p.value? property = some value := by
  rw [← get?_values]
  exact ⟨OrderedMap.get?_eq_some_of_mem (nodup_values h), OrderedMap.mem_of_get?⟩

theorem wellFormed_of_free {p : Properties} (hfree : (p.free.map (·.1)).Nodup)
    (hpartitions : ∀ n ∈ p.partitions, 1 ≤ n) (hreplicas : ∀ n ∈ p.replicas, 1 ≤ n) :
    p.WellFormed where
  distinct := nodup_values hfree
  known entry hentry := name_of_mem_values hentry
  topic := ⟨p.topic, (mem_values_iff hfree .kafkaTopic _).mpr rfl⟩
  formats property hproperty value hvalue := by
    have hfound := (mem_values_iff hfree property value).mp hvalue
    obtain rfl | rfl | rfl :
        property = .format ∨ property = .keyFormat ∨ property = .valueFormat := by
      simpa using hproperty
    all_goals
      obtain ⟨text, -, hkept⟩ := Option.map_eq_some_iff.mp hfound
      exact ⟨text, hkept.symm⟩
  counts property hproperty value hvalue := by
    have hfound := (mem_values_iff hfree property value).mp hvalue
    obtain rfl | rfl : property = .partitions ∨ property = .replicas := by simpa using hproperty
    · obtain ⟨n, hn, rfl⟩ := Option.map_eq_some_iff.mp hfound
      exact ⟨n, Int.ofNat_le.mpr (hpartitions n hn), rfl⟩
    · obtain ⟨n, hn, rfl⟩ := Option.map_eq_some_iff.mp hfound
      exact ⟨n, Int.ofNat_le.mpr (hreplicas n hn), rfl⟩
  wrap value hvalue := by
    have hfound := (mem_values_iff hfree .wrapSingleValue value).mp hvalue
    obtain ⟨b, -, rfl⟩ := Option.map_eq_some_iff.mp hfound
    exact ⟨b, rfl⟩
  oneFormat shared hshared value := by
    have hfound := (mem_values_iff hfree .format shared).mp hshared
    rw [mem_values_iff hfree .keyFormat, mem_values_iff hfree .valueFormat]
    unfold value? formatText? at hfound ⊢
    cases hformats : p.formats <;> simp_all

/-- What the type of properties leaves open: whether one that is kept as it is comes twice, and whether
the counts are positive. -/
theorem wellFormed_iff {p : Properties} : p.WellFormed ↔ (p.free.map (·.1)).Nodup ∧
    (∀ n ∈ p.partitions, 1 ≤ n) ∧ ∀ n ∈ p.replicas, 1 ≤ n := by
  constructor
  · intro h
    have hfree : (p.free.map (·.1)).Nodup := by
      have hnames := (names_freeEntries p.values).nodup h.distinct
      rw [filterMap_values] at hnames
      refine List.Nodup.of_map (fun free => (Property.free free).name) ?_
      rwa [List.map_map]
    have hcount (property : Property) (hproperty : property ∈ [Property.partitions, .replicas])
        {n : Nat} (hn : p.value? property = some (.int n)) : 1 ≤ n := by
      obtain ⟨m, hm, hsame⟩ := h.counts property hproperty _ ((mem_values_iff hfree property _).mpr hn)
      cases hsame
      exact Int.ofNat_le.mp hm
    refine ⟨hfree, fun n hn => ?_, fun n hn => ?_⟩
    · exact hcount .partitions (by simp) (Option.map_eq_some_iff.mpr ⟨n, hn, rfl⟩)
    · exact hcount .replicas (by simp) (Option.map_eq_some_iff.mpr ⟨n, hn, rfl⟩)
  · rintro ⟨hfree, hpartitions, hreplicas⟩
    exact wellFormed_of_free hfree hpartitions hreplicas

theorem wellFormed_of_ofLiterals {literals : List (String × Literal)} {p : Properties}
    (h : ofLiterals literals = .ok p) : p.WellFormed := by
  obtain ⟨hpartitions, hreplicas⟩ := one_le_of_ofLiterals h
  exact wellFormed_of_free (nodup_free_of_ofLiterals h) hpartitions hreplicas

theorem ofLiterals_values_iff {p : Properties} : ofLiterals p.values = .ok p ↔ p.WellFormed := by
  refine ⟨wellFormed_of_ofLiterals, fun h => ?_⟩
  obtain ⟨hfree, hpartitions, hreplicas⟩ := wellFormed_iff.mp h
  exact ofLiterals_values_of_nodup hfree hpartitions hreplicas

theorem wellFormed_withFormats {p : Properties} {key value : String} :
    (p.withFormats key value).WellFormed ↔ p.WellFormed := by
  rw [wellFormed_iff, wellFormed_iff]
  rfl

end Sql.Properties

/-! ### Statements -/

namespace Sql

def Column.headerKey? (column : Column) : Option String :=
  match column.constraint with
  | .header key => some key
  | _ => none

structure Source.WellFormed (source : Source) : Prop where
  distinct : (source.columns.map (·.name)).Nodup
  keyed : ∀ column ∈ source.columns, source.kind.Allows column.constraint
  headers : ∀ column ∈ source.columns,
    column.headerKey?.isSome = true ↔ ∃ key, column.constraint = .header key
  decimals : ∀ column ∈ source.columns, column.type.SoundDecimals
  properties : source.properties.WellFormed

/-- A registration has a type alone, and a source all that a source needs. -/
def Statement.WellFormed : Statement → Prop
  | .register registration => registration.type.SoundDecimals
  | .create source => source.WellFormed

theorem Column.isSome_headerKey?_iff (column : Column) :
    column.headerKey?.isSome = true ↔ ∃ key, column.constraint = .header key := by
  unfold headerKey?
  cases column.constraint <;> simp

theorem soundDecimals_of_saysList {spelling : Spelling} {columns : List Column}
    {tokens : List Token} (h : SaysList spelling (SaysColumn spelling) columns tokens) :
    ∀ column ∈ columns, column.type.SoundDecimals := by
  have hone {column : Column} {tokens : List Token} (h : SaysColumn spelling column tokens) :
      column.type.SoundDecimals := by
    cases h with
    | mk _ htype _ => exact soundDecimals_of_saysType htype
  induction h with
  | last h => exact List.forall_mem_singleton.mpr (hone h)
  | more h _ _ ih => exact List.forall_mem_cons.mpr ⟨hone h, ih⟩

theorem Says.wellFormed {spelling : Spelling} {kind : StatementKind} {tree : Statement}
    {tokens : List Token} (h : Says spelling kind tree tokens) : tree.WellFormed := by
  cases h with
  | register _ _ _ _ _ hdefinition => exact soundDecimals_of_saysType hdefinition
  | create hdeclaration hcolumns hallowed _ hproperties =>
    refine ⟨hcolumns, hallowed, fun column _ => column.isSome_headerKey?_iff, ?_,
      Properties.wellFormed_of_ofLiterals hproperties⟩
    cases hdeclaration with
    | mk _ _ _ _ _ _ hsaid _ =>
      cases hsaid with
      | none => exact List.forall_mem_nil _
      | some _ hlist _ => exact soundDecimals_of_saysList hlist

theorem wellFormed_of_statement {tokens : List Token} {tree : Statement}
    (h : statement tokens = .ok (some tree)) : tree.WellFormed := by
  obtain ⟨opened, -, htold⟩ := says_of_allFit (allFit_lax tokens) h
  exact htold.wellFormed

/-- Types that sound definitions take part in are sound, and nothing else about a statement changes. -/
theorem Statement.WellFormed.resolve {definition? : String → Option DataType} {tree found : Statement}
    (hdefinitions : ∀ name type, definition? name = some type → type.SoundDecimals)
    (htree : tree.WellFormed) (h : tree.resolve definition? = .ok found) : found.WellFormed := by
  cases tree with
  | register registration =>
    obtain ⟨-, rfl⟩ := resolve_register_eq_ok_iff.mp h
    exact soundDecimals_expand hdefinitions registration.type htree
  | create source =>
    obtain ⟨-, rfl⟩ := resolve_create_eq_ok_iff.mp h
    have hnames : (source.expand definition?).columns.map (·.name) = source.columns.map (·.name) := by
      rw [Source.expand, List.map_map]
      rfl
    refine ⟨hnames ▸ htree.distinct, ?_, fun column _ => column.isSome_headerKey?_iff, ?_,
      htree.properties⟩
    · intro column hcolumn
      obtain ⟨original, horiginal, rfl⟩ := List.mem_map.mp hcolumn
      exact htree.keyed original horiginal
    · intro column hcolumn
      obtain ⟨original, horiginal, rfl⟩ := List.mem_map.mp hcolumn
      exact soundDecimals_expand hdefinitions original.type (htree.decimals original horiginal)

end Sql

theorem Sql.Statement.WellFormed.withDefaultFormats {config : EngineConfig} {tree found : Statement}
    (htree : tree.WellFormed) (h : config.withDefaultFormatsIn tree = .ok found) :
    found.WellFormed := by
  cases tree with
  | register registration =>
    cases h
    exact htree
  | create source =>
    obtain ⟨after, hafter, rfl⟩ := map_eq_ok.mp h
    obtain ⟨-, -, rfl⟩ := withDefaultFormats_eq_ok_iff.mp hafter
    exact ⟨htree.distinct, htree.keyed, htree.headers, htree.decimals,
      Properties.wellFormed_withFormats.mpr htree.properties⟩

/-! ### Registered types -/

/-- All types of a catalog have a property that types have as they are read, if it is kept where
definitions that have it take the place of references. -/
theorem Reachable.types {P : DataType → Prop}
    (hread : ∀ {tokens registration}, statement tokens = .ok (some (.register registration)) →
      P registration.type)
    (hexpand : ∀ {definition?} (type : DataType),
      (∀ name other, definition? name = some other → P other) → P type → P (type.expand definition?))
    {catalog : Catalog} (h : Reachable catalog) :
    ∀ name type, catalog.definition? name = some type → P type := by
  induction h with
  | empty =>
    intro name type hname
    cases hname
  | @read before extraction config sql _ hextract ih =>
    have hafter {parsed : ParsedStatement} {topic? : Option Topic} {after : Catalog}
        (hparse : parse sql = .ok [parsed])
        (hstatement : (readStatement config before parsed.statement?).result = .ok (topic?, after)) :
        ∀ name type, after.definition? name = some type → P type := by
      obtain ⟨tokens, htokens⟩ := statement_of_parse hparse
      rcases hparsed : parsed.statement? with _ | registration | source
      · rw [hparsed] at hstatement
        cases hstatement
        exact ih
      · rw [hparsed] at hstatement htokens
        obtain ⟨-, -, rfl⟩ := readStatement_register.mp hstatement
        intro name type hname
        rw [Catalog.definition?_register] at hname
        split at hname
        · cases hname
          exact hexpand registration.type ih (hread htokens)
        · exact ih name type hname
      · rw [hparsed] at hstatement
        obtain ⟨-, rfl, -⟩ := readStatement_create.mp hstatement
        exact ih
    cases readAs_of_extract hextract with
    | unparsed _ | blank _ | refused _ _ => exact ih
    | silent hparse hstatement | implied hparse hstatement => exact hafter hparse hstatement

theorem Reachable.soundDecimals {catalog : Catalog} (h : Reachable catalog) :
    ∀ name type, catalog.definition? name = some type → type.SoundDecimals :=
  h.types (fun hread => wellFormed_of_statement hread)
    fun type hdefinitions htype => soundDecimals_expand hdefinitions type htype

/-! ### All statements that are made -/

/-- The statements that come from a text: as they are read, prepared with the types of any catalog that
reading texts leaves, or completed with the default formats of any configuration. -/
inductive Made (sql : String) : Statement → Prop
  | read {statements : List ParsedStatement} {parsed : ParsedStatement} {tree : Statement}
      (hparse : parse sql = .ok statements) (hmem : parsed ∈ statements)
      (htree : parsed.statement? = some tree) : Made sql tree
  | prepared {catalog : Catalog} {tree found : Statement} (hmade : Made sql tree)
      (hcatalog : Reachable catalog) (h : resolved catalog tree = .ok found) : Made sql found
  | completed {tree found : Statement} (config : EngineConfig) (hmade : Made sql tree)
      (h : config.withDefaultFormatsIn tree = .ok found) : Made sql found

/-- Whatever is made of a text is well formed. -/
theorem made_wellFormed {sql : String} {tree : Statement} (h : Made sql tree) : tree.WellFormed := by
  induction h with
  | read hparse hmem htree =>
    obtain ⟨tokens, htokens⟩ := statement_of_mem_parse hparse hmem
    rw [htree] at htokens
    exact wellFormed_of_statement htokens
  | prepared _ hcatalog h ih => exact ih.resolve hcatalog.soundDecimals (resolved_eq_ok_iff.mp h)
  | completed config _ h ih => exact ih.withDefaultFormats h

/-- A table that a text declares with a registered type, as it is read, prepared and completed. -/
def sampleTable (item : DataType) (formats : Formats) : Statement :=
  .create ⟨.table, "T", [⟨"K", .base .integer, .primaryKey⟩, ⟨"V", .array item, .none⟩],
    ⟨"t", formats, some 3, none, none, []⟩, false, false, false⟩

theorem made_wellFormed_table :
    Made "CREATE TABLE T (K INT PRIMARY KEY, V ARRAY<D>) WITH (kafka_topic='t', partitions='3')"
      (sampleTable (.decimal 10 2) (.separate (some "KAFKA") (some "JSON"))) ∧
    (sampleTable (.decimal 10 2) (.separate (some "KAFKA") (some "JSON"))).WellFormed := by
  let catalog : Catalog := ⟨[("D", .decimal 10 2)]⟩
  let config : EngineConfig := { EngineConfig.standard with defaultValueFormat := some "json" }
  have hregister : (extract .standard .empty "REGISTER TYPE D AS DECIMAL(10, 2)").result =
      .ok ⟨.nothing, catalog⟩ := by decide +kernel
  have hcatalog : Reachable catalog := .read .standard _ .empty hregister
  have hparse :
      parse "CREATE TABLE T (K INT PRIMARY KEY, V ARRAY<D>) WITH (kafka_topic='t', partitions='3')" =
      .ok [⟨"CREATE TABLE T (K INT PRIMARY KEY, V ARRAY<D>) WITH (kafka_topic='t', partitions='3')",
        some (sampleTable (.reference "D") (.separate none none))⟩] := by decide +kernel
  have hprepared : resolved catalog (sampleTable (.reference "D") (.separate none none)) =
      .ok (sampleTable (.decimal 10 2) (.separate none none)) := by decide +kernel
  have hcompleted : config.withDefaultFormatsIn (sampleTable (.decimal 10 2) (.separate none none)) =
      .ok (sampleTable (.decimal 10 2) (.separate (some "KAFKA") (some "JSON"))) := by decide +kernel
  have hread := Made.read hparse List.mem_cons_self rfl
  have hmade := (hread.prepared hcatalog hprepared).completed config hcompleted
  exact ⟨hmade, made_wellFormed hmade⟩

end TopicPlan
