import TopicPlan.Proofs.DistinctFields
import TopicPlan.Proofs.WrittenTexts
import Mathlib.Data.List.Nodup

/-! The names that an Avro schema defines. Every record of a schema stands at the end of a path of
names, and is named after that path: the parts with a low line before each. So a schema defines a name
twice where two paths have one text, or where one record has two fields of one name; paths whose parts
have no low line in them are never taken for each other. -/
namespace TopicPlan
namespace Schema
open Sql (BaseType DataType Fields)
open Sql.DataType

namespace AvroType

mutual

/-- The names of the fields of all records that a type defines, in the order of the records. -/
def recordFieldNames : AvroType → List (List String)
  | .primitive _ | .logical .. | .decimal .. => []
  | .optional type => type.recordFieldNames
  | .array items => items.recordFieldNames
  | .map values => values.recordFieldNames
  | .record _ fields => fields.map (·.1) :: innerFieldNames fields

def innerFieldNames : List (String × AvroType) → List (List String)
  | [] => []
  | (_, type) :: rest => type.recordFieldNames ++ innerFieldNames rest

end

/-- A schema that defines each name once: no two records have both their namespace and their name in
common, and no record has two fields of one name. -/
structure DefinesOnce (type : AvroType) : Prop where
  records : (type.recordNames.map splitName).Nodup
  fields : ∀ names ∈ type.recordFieldNames, names.Nodup

end AvroType

/-- The text of a path of names, which is part of the full name of what stands at its end. -/
def pathText : List String → String
  | [] => ""
  | part :: rest => "_" ++ part ++ pathText rest

mutual

/-- The paths to the records that a column of a type needs, outer before inner ones. -/
def recordPaths : DataType → List (List String)
  | .base _ | .decimal .. | .reference _ => []
  | .array item => recordPaths item
  | .map key value =>
    if key = .base .string then recordPaths value
    else ["MapEntry"] :: ((recordPaths key).map ("MapEntry" :: "key" :: ·) ++
      (recordPaths value).map ("MapEntry" :: "value" :: ·))
  | .struct fields => [] :: fieldRecordPaths fields

def fieldRecordPaths : Fields → List (List String)
  | [] => []
  | (name, type) :: rest => (recordPaths type).map (name :: ·) ++ fieldRecordPaths rest

end

theorem partName_append_pathText (fullName part : String) (path : List String) :
    AvroType.partName fullName part ++ pathText path = fullName ++ pathText (part :: path) := by
  simp only [AvroType.partName, pathText, String.append_assoc]

mutual

/-- The records of a column are named after the paths to them. -/
theorem recordNames_of_ofType (fullName : String) : (type : DataType) → ∀ {avro : AvroType},
    AvroType.ofType fullName type = .ok avro →
      avro.recordNames = (recordPaths type).map (fullName ++ pathText ·)
  | .base b, avro, h => by
    cases h
    cases b <;> rfl
  | .decimal precision scale, avro, h => by
    cases h
    rfl
  | .array item, avro, h => by
    obtain ⟨items, hitem, rfl⟩ := avro_array_eq_ok.mp h
    rw [recordPaths, ← recordNames_of_ofType fullName item hitem]
    rfl
  | .map key value, avro, h => by
    by_cases hkey : key = .base .string
    · subst hkey
      obtain ⟨values, hvalue, rfl⟩ := avro_stringMap_eq_ok.mp h
      rw [recordPaths, if_pos rfl, ← recordNames_of_ofType fullName value hvalue]
      rfl
    · obtain ⟨keys, values, hkeys, hvalues, rfl⟩ := (avro_map_eq_ok hkey).mp h
      have hkeyNames := recordNames_of_ofType _ key hkeys
      have hvalueNames := recordNames_of_ofType _ value hvalues
      have hentry : entryName fullName = fullName ++ pathText ["MapEntry"] := by
        rw [← partName_append_pathText, pathText, String.append_empty, entryName]
      have hnames : (AvroType.array (.record (entryName fullName)
          [("key", .optional keys), ("value", .optional values)])).recordNames =
          entryName fullName :: (keys.recordNames ++ values.recordNames) := by
        simp [AvroType.recordNames, AvroType.fieldRecordNames]
      simp only [partName_append_pathText, entryName] at hkeyNames hvalueNames
      rw [hnames, hentry, hkeyNames, hvalueNames, recordPaths, if_neg hkey, List.map_cons,
        List.map_append, List.map_map, List.map_map]
      rfl
  | .struct fields, avro, h => by
    obtain ⟨parts, hparts, rfl⟩ := avro_struct_eq_ok.mp h
    have hnames := fieldRecordNames_of_ofFields fullName fields hparts
    rw [AvroType.recordNames, hnames, recordPaths, List.map_cons, pathText, String.append_empty]
  | .reference name, avro, h => by cases h

theorem fieldRecordNames_of_ofFields (fullName : String) : (fields : Fields) →
    ∀ {parts : List (String × AvroType)}, AvroType.ofFields fullName fields = .ok parts →
      AvroType.fieldRecordNames parts = (fieldRecordPaths fields).map (fullName ++ pathText ·)
  | [], parts, h => by
    cases h
    rfl
  | (name, type) :: rest, parts, h => by
    obtain ⟨part, more, htype, hrest, rfl⟩ := avroFields_cons_eq_ok.mp h
    have hnames := recordNames_of_ofType _ type htype
    have hmore := fieldRecordNames_of_ofFields fullName rest hrest
    simp only [partName_append_pathText] at hnames
    rw [AvroType.fieldRecordNames, AvroType.recordNames, hnames, hmore, fieldRecordPaths,
      List.map_append, List.map_map]
    rfl

end

mutual

theorem recordFieldNames_of_ofType (fullName : String) : (type : DataType) → ∀ {avro : AvroType},
    AvroType.ofType fullName type = .ok avro →
      ((∀ names ∈ avro.recordFieldNames, names.Nodup) ↔ StructsDistinct type)
  | .base b, avro, h => by
    cases h
    cases b <;> simp [AvroType.ofBase, AvroType.recordFieldNames, StructsDistinct, parts]
  | .decimal precision scale, avro, h => by
    cases h
    simp [AvroType.recordFieldNames, StructsDistinct, parts]
  | .array item, avro, h => by
    obtain ⟨items, hitem, rfl⟩ := avro_array_eq_ok.mp h
    rw [structsDistinct_array, ← recordFieldNames_of_ofType fullName item hitem]
    rfl
  | .map key value, avro, h => by
    rw [structsDistinct_map]
    by_cases hkey : key = .base .string
    · subst hkey
      obtain ⟨values, hvalue, rfl⟩ := avro_stringMap_eq_ok.mp h
      have hstring : StructsDistinct (.base .string) := by simp [StructsDistinct, parts]
      rw [and_iff_right hstring, ← recordFieldNames_of_ofType fullName value hvalue]
      rfl
    · obtain ⟨keys, values, hkeys, hvalues, rfl⟩ := (avro_map_eq_ok hkey).mp h
      rw [← recordFieldNames_of_ofType _ key hkeys, ← recordFieldNames_of_ofType _ value hvalues]
      simp [AvroType.recordFieldNames, AvroType.innerFieldNames, or_imp, forall_and]
  | .struct fields, avro, h => by
    obtain ⟨parts, hparts, rfl⟩ := avro_struct_eq_ok.mp h
    obtain ⟨hnames, hinner⟩ := innerFieldNames_of_ofFields fullName fields hparts
    rw [structsDistinct_struct, ← hinner, AvroType.recordFieldNames, List.forall_mem_cons, hnames]
  | .reference name, avro, h => by cases h

theorem innerFieldNames_of_ofFields (fullName : String) : (fields : Fields) →
    ∀ {parts : List (String × AvroType)}, AvroType.ofFields fullName fields = .ok parts →
      parts.map (·.1) = fields.map (·.1) ∧
      ((∀ names ∈ AvroType.innerFieldNames parts, names.Nodup) ↔
        ∀ field ∈ fields, StructsDistinct field.2)
  | [], parts, h => by
    cases h
    simp [AvroType.innerFieldNames]
  | (name, type) :: rest, parts, h => by
    obtain ⟨part, more, htype, hrest, rfl⟩ := avroFields_cons_eq_ok.mp h
    obtain ⟨hnames, hinner⟩ := innerFieldNames_of_ofFields fullName rest hrest
    refine ⟨by rw [List.map_cons, List.map_cons, hnames], ?_⟩
    rw [AvroType.innerFieldNames, List.forall_mem_append, List.forall_mem_cons, hinner,
      AvroType.recordFieldNames, recordFieldNames_of_ofType _ type htype]

end

section Paths

theorem mem_fieldRecordPaths {path : List String} {fields : Fields} :
    path ∈ fieldRecordPaths fields ↔
      ∃ field ∈ fields, ∃ inner ∈ recordPaths field.2, field.1 :: inner = path := by
  induction fields with
  | nil => simp [fieldRecordPaths]
  | cons field rest ih => simp [fieldRecordPaths, ih]

mutual

theorem recordPaths_nodup : (type : DataType) → StructsDistinct type → (recordPaths type).Nodup
  | .base _, _ | .decimal .., _ | .reference _, _ => by simp [recordPaths]
  | .array item, h => by
    rw [recordPaths]
    exact recordPaths_nodup item (structsDistinct_array.mp h)
  | .map key value, h => by
    obtain ⟨hkey, hvalue⟩ := structsDistinct_map.mp h
    rw [recordPaths]
    split
    · exact recordPaths_nodup value hvalue
    · have hkeys := recordPaths_nodup key hkey
      have hvalues := recordPaths_nodup value hvalue
      rw [List.nodup_cons, List.nodup_append']
      refine ⟨by simp, hkeys.map fun p q hpq => ?_, hvalues.map fun p q hpq => ?_, ?_⟩
      · simpa using hpq
      · simpa using hpq
      · simp [List.disjoint_left]
  | .struct fields, h => by
    obtain ⟨hnames, hinner⟩ := structsDistinct_struct.mp h
    rw [recordPaths, List.nodup_cons, mem_fieldRecordPaths]
    exact ⟨by simp, fieldRecordPaths_nodup fields hnames hinner⟩

theorem fieldRecordPaths_nodup : (fields : Fields) → (fields.map (·.1)).Nodup →
    (∀ field ∈ fields, StructsDistinct field.2) → (fieldRecordPaths fields).Nodup
  | [], _, _ => by simp [fieldRecordPaths]
  | (name, type) :: rest, hnames, hinner => by
    rw [List.map_cons, List.nodup_cons] at hnames
    obtain ⟨htype, hrest⟩ := List.forall_mem_cons.mp hinner
    have hpaths := recordPaths_nodup type htype
    have hmore := fieldRecordPaths_nodup rest hnames.2 hrest
    rw [fieldRecordPaths, List.nodup_append']
    refine ⟨hpaths.map fun p q hpq => (List.cons.inj hpq).2, hmore, ?_⟩
    rw [List.disjoint_left]
    intro path hpath hother
    obtain ⟨inner, -, rfl⟩ := List.mem_map.mp hpath
    obtain ⟨field, hfield, found, -, hfound⟩ := mem_fieldRecordPaths.mp hother
    rw [List.cons.injEq] at hfound
    exact hnames.1 (List.mem_map.mpr ⟨field, hfield, hfound.1⟩)

end

end Paths

section Texts

theorem toList_pathText_cons (part : String) (path : List String) :
    (pathText (part :: path)).toList = '_' :: (part.toList ++ (pathText path).toList) := by
  simp [pathText]

theorem head?_pathText (path : List String) : ∀ c ∈ (pathText path).toList.head?, c = '_' := by
  cases path with
  | nil => simp [pathText]
  | cons part rest => simp [toList_pathText_cons]

theorem pathText_cons_ne_nil (part : String) (path : List String) :
    pathText (part :: path) ≠ pathText [] := by
  intro h
  have hchars := congrArg String.toList h
  rw [toList_pathText_cons] at hchars
  cases hchars

def PathsApart (paths : List (List String)) : Prop :=
  ∀ path ∈ paths, ∀ other ∈ paths, pathText path = pathText other → path = other

def NoLowLine (path : List String) : Prop := ∀ part ∈ path, '_' ∉ part.toList

theorem eq_of_pathText_eq {path other : List String} (hpath : NoLowLine path)
    (hother : NoLowLine other) (h : pathText path = pathText other) : path = other := by
  induction path generalizing other with
  | nil => cases other with
    | nil => rfl
    | cons part rest => exact absurd h.symm (pathText_cons_ne_nil part rest)
  | cons part rest ih => cases other with
    | nil => exact absurd h (pathText_cons_ne_nil part rest)
    | cons second others =>
      obtain ⟨hpart, hrest⟩ := List.forall_mem_cons.mp hpath
      obtain ⟨hsecond, hothers⟩ := List.forall_mem_cons.mp hother
      have hchars := congrArg String.toList h
      rw [toList_pathText_cons, toList_pathText_cons, List.cons.injEq] at hchars
      have hplain : ∀ {name : String}, '_' ∉ name.toList → ∀ c ∈ name.toList, (c != '_') = true := by
        intro name hname c hc
        rw [bne_iff_ne]
        rintro rfl
        exact hname hc
      have hstops : ∀ following, ∀ c ∈ (pathText following).toList.head?, (c != '_') = false := by
        intro following c hc
        rw [head?_pathText following c hc]
        rfl
      obtain ⟨hname, hafter⟩ := append_inj_of_run (hplain hpart) (hplain hsecond) (hstops rest)
        (hstops others) hchars.2
      rw [String.ext hname, ih hrest hothers (String.ext hafter)]

theorem pathsApart_of_noLowLine {paths : List (List String)} (h : ∀ path ∈ paths, NoLowLine path) :
    PathsApart paths :=
  fun path hpath other hother => eq_of_pathText_eq (h path hpath) (h other hother)

end Texts

section Scopes

theorem splitName_cases (s : String) :
    AvroType.splitName s = ("", s) ∨
      ∃ scope name, s = scope ++ "." ++ name ∧ AvroType.splitName s = (scope, name) := by
  have hparts := List.takeWhile_append_dropWhile (p := (· != '.')) (l := s.toList.reverse)
  unfold AvroType.splitName
  simp only
  cases hdrop : s.toList.reverse.dropWhile (· != '.') with
  | nil =>
    rw [hdrop, List.append_nil] at hparts
    left
    rw [hparts]
    simp
  | cons point rest =>
    have hpoint := List.head?_dropWhile_not (· != '.') s.toList.reverse
    rw [hdrop] at hpoint hparts
    have hmark : point = '.' := by simpa using hpoint
    subst hmark
    have hchars := congrArg List.reverse hparts
    rw [List.reverse_reverse] at hchars
    right
    refine ⟨_, _, String.ext (hchars.symm.trans ?_), rfl⟩
    simp

theorem eq_or_of_splitName_eq {s t : String} (h : AvroType.splitName s = AvroType.splitName t) :
    s = t ∨ s = "." ++ t ∨ t = "." ++ s := by
  rcases splitName_cases s with hs | ⟨scope, name, hs, hsplit⟩
  · rcases splitName_cases t with ht | ⟨scope, name, ht, hsplit⟩
    · rw [hs, ht] at h
      exact .inl (Prod.mk.inj h).2
    · rw [hs, hsplit] at h
      obtain ⟨rfl, rfl⟩ := Prod.mk.inj h
      exact .inr (.inr ht)
  · rcases splitName_cases t with ht | ⟨other, second, ht, hsplitOther⟩
    · rw [hsplit, ht] at h
      obtain ⟨rfl, rfl⟩ := Prod.mk.inj h
      exact .inr (.inl hs)
    · rw [hsplit, hsplitOther] at h
      obtain ⟨rfl, rfl⟩ := Prod.mk.inj h
      exact .inl (hs.trans ht.symm)

theorem append_ne_point (root : List Char) (path other : List String) :
    root ++ (pathText path).toList ≠ '.' :: (root ++ (pathText other).toList) := by
  induction root with
  | nil =>
    intro h
    have hpoint := head?_pathText path '.' (by rw [List.nil_append] at h; simp [h])
    exact absurd hpoint (by decide)
  | cons c rest ih =>
    intro h
    rw [List.cons_append, List.cons_append, List.cons.injEq] at h
    obtain ⟨rfl, h⟩ := h
    exact ih h

theorem splitName_path_inj {fullName : String} {path other : List String} :
    AvroType.splitName (fullName ++ pathText path) = AvroType.splitName (fullName ++ pathText other) ↔
      pathText path = pathText other := by
  constructor
  · intro h
    have hpoint : ∀ p q : List String, fullName ++ pathText p ≠ "." ++ (fullName ++ pathText q) := by
      intro p q hname
      have hchars := congrArg String.toList hname
      simp only [String.toList_append] at hchars
      exact append_ne_point fullName.toList p q hchars
    rcases eq_or_of_splitName_eq h with hsame | hsame | hsame
    · have hchars := congrArg String.toList hsame
      simp only [String.toList_append] at hchars
      exact String.ext (List.append_cancel_left hchars)
    · exact absurd hsame (hpoint path other)
    · exact absurd hsame (hpoint other path)
  · intro h
    rw [h]

/-- Records that stand at the ends of different paths have distinct names where the paths are apart. -/
theorem records_nodup_iff {paths : List (List String)} (hpaths : paths.Nodup) (fullName : String) :
    ((paths.map (fullName ++ pathText ·)).map AvroType.splitName).Nodup ↔ PathsApart paths := by
  rw [List.map_map, List.nodup_map_iff_inj_on hpaths]
  simp only [Function.comp_apply, splitName_path_inj]
  rfl

end Scopes

theorem nil_not_mem_fieldRecordPaths (fields : Fields) : [] ∉ fieldRecordPaths fields := by
  rw [mem_fieldRecordPaths]
  rintro ⟨field, -, inner, -, hcons⟩
  cases hcons

theorem pathsApart_nil_cons (fields : Fields) :
    PathsApart ([] :: fieldRecordPaths fields) ↔ PathsApart (fieldRecordPaths fields) := by
  have hne : ∀ path ∈ fieldRecordPaths fields, pathText path ≠ pathText [] := by
    intro path hpath
    cases path with
    | nil => exact absurd hpath (nil_not_mem_fieldRecordPaths fields)
    | cons part rest => exact pathText_cons_ne_nil part rest
  constructor
  · intro h path hpath other hother
    exact h path (List.mem_cons_of_mem _ hpath) other (List.mem_cons_of_mem _ hother)
  · intro h path hpath other hother htext
    rcases List.mem_cons.mp hpath with rfl | hpath <;> rcases List.mem_cons.mp hother with rfl | hother
    · rfl
    · exact absurd htext.symm (hne other hother)
    · exact absurd htext (hne path hpath)
    · exact h path hpath other hother htext

theorem names_of_avroOf {fields : Fields} {unwrap : Bool} {fullName : String} {avro : AvroType}
    (hcolumns : (fields.map (·.1)).Nodup) (h : avroOf fields unwrap fullName = .ok avro) :
    (∃ paths, (paths = fieldRecordPaths fields ∨ paths = [] :: fieldRecordPaths fields) ∧
      avro.recordNames = paths.map (fullName ++ pathText ·)) ∧
    ((∀ names ∈ avro.recordFieldNames, names.Nodup) ↔ ∀ field ∈ fields, StructsDistinct field.2) := by
  by_cases halone : StandsAlone fields unwrap
  · obtain ⟨rfl, hlength⟩ := halone
    obtain ⟨⟨name, type⟩, rfl⟩ := List.length_eq_one_iff.mp hlength
    obtain ⟨part, htype, rfl⟩ := avroOf_eq_ok_alone.mp h
    have hnames := recordNames_of_ofType _ type htype
    simp only [partName_append_pathText] at hnames
    refine ⟨⟨_, .inl rfl, ?_⟩, ?_⟩
    · rw [AvroType.recordNames, hnames, fieldRecordPaths, fieldRecordPaths, List.append_nil, List.map_map]
      rfl
    · rw [AvroType.recordFieldNames, recordFieldNames_of_ofType _ type htype, List.forall_mem_singleton]
  · obtain ⟨parts, hparts, rfl⟩ := (avroOf_eq_ok_record halone).mp h
    have hnames := fieldRecordNames_of_ofFields fullName fields hparts
    obtain ⟨hfields, hinner⟩ := innerFieldNames_of_ofFields fullName fields hparts
    refine ⟨⟨_, .inr rfl, ?_⟩, ?_⟩
    · rw [AvroType.recordNames, hnames, List.map_cons, pathText, String.append_empty]
    · rw [AvroType.recordFieldNames, List.forall_mem_cons, hfields, hinner, and_iff_right hcolumns]

/-- The schema of distinct columns defines each name once exactly when all structs in the columns have
distinct fields and the paths to records are apart. The name of the outermost record does not matter. -/
theorem definesOnce_iff {fields : Fields} {unwrap : Bool} {fullName : String} {avro : AvroType}
    (hcolumns : (fields.map (·.1)).Nodup) (h : avroOf fields unwrap fullName = .ok avro) :
    avro.DefinesOnce ↔
      (∀ field ∈ fields, StructsDistinct field.2) ∧ PathsApart (fieldRecordPaths fields) := by
  obtain ⟨⟨paths, hpaths, hnames⟩, hfields⟩ := names_of_avroOf hcolumns h
  have hrecords : (∀ field ∈ fields, StructsDistinct field.2) →
      ((avro.recordNames.map AvroType.splitName).Nodup ↔ PathsApart (fieldRecordPaths fields)) := by
    intro hdistinct
    have hnodup := fieldRecordPaths_nodup fields hcolumns hdistinct
    rw [hnames]
    rcases hpaths with rfl | rfl
    · exact records_nodup_iff hnodup fullName
    · rw [← pathsApart_nil_cons]
      exact records_nodup_iff (List.nodup_cons.mpr ⟨nil_not_mem_fieldRecordPaths fields, hnodup⟩) fullName
  constructor
  · rintro ⟨honce, hinner⟩
    have hdistinct := hfields.mp hinner
    exact ⟨hdistinct, (hrecords hdistinct).mp honce⟩
  · rintro ⟨hdistinct, hapart⟩
    exact ⟨(hrecords hdistinct).mpr hapart, hfields.mpr hdistinct⟩

end Schema

open Sql Sql.DataType Schema

theorem avroOf_of_valueSchema {config : EngineConfig} {source : Source} {key value : Format}
    {text : String} (h : (valueSchema config source key value).result = .ok (some ⟨.avro, text⟩)) :
    ∃ unwrap avro, avroOf (source.fields .value) unwrap source.avroName = .ok avro ∧
      text = avro.toJson.print := by
  obtain ⟨options, -, hinferred⟩ := infer_of_valueSchema h
  obtain rfl : value = .avro := eq_of_schemaKind? (kind_of_infer hinferred) rfl
  obtain ⟨avro, havro, htext⟩ := bind_pure_eq_ok.mp hinferred
  exact ⟨_, avro, havro, congrArg ValueSchema.text htext⟩

/-- A schema of the Avro kind, for whatever statement it is made and against whatever catalog, defines
each name once exactly when the expanded value columns have no struct with two fields of one name and
no two paths to records with one text. Where structs have distinct fields it is enough that no name on
the way to a record has a low line in it. -/
theorem avro_schema_definesOnce_iff {config : EngineConfig} {catalog : Catalog} {sql : String}
    {topic : Topic} {text : String} (hfinds : Finds config catalog sql topic)
    (hschema : topic.schema = some ⟨.avro, text⟩) :
    ∃ parsed source unwrap avro, parse sql = .ok [parsed] ∧
      parsed.statement? = some (.create source) ∧
      avroOf ((source.expand catalog.definition?).fields .value) unwrap source.avroName = .ok avro ∧
      text = avro.toJson.print ∧
      (avro.DefinesOnce ↔
        (∀ column ∈ (source.expand catalog.definition?).fields .value, StructsDistinct column.2) ∧
        PathsApart (fieldRecordPaths ((source.expand catalog.definition?).fields .value))) ∧
      ((∀ column ∈ (source.expand catalog.definition?).fields .value, StructsDistinct column.2) →
        (∀ path ∈ fieldRecordPaths ((source.expand catalog.definition?).fields .value),
          NoLowLine path) → avro.DefinesOnce) := by
  obtain ⟨parsed, source, hparse, hparsed, ⟨tokens, hstatement⟩, htopic⟩ := source_of_finds hfinds
  obtain ⟨key, value, schema, -, -, hvalue, rfl⟩ := topicOfSource_eq_ok_iff.mp htopic
  obtain rfl : schema = some ⟨.avro, text⟩ := hschema
  obtain ⟨unwrap, avro, havro, htext⟩ := avroOf_of_valueSchema hvalue
  have hcolumns := fields_nodup (columns_nodup_of_statement hstatement) catalog.definition? .value
  have honce := definesOnce_iff hcolumns havro
  refine ⟨parsed, source, unwrap, avro, hparse, hparsed, havro, htext, honce, ?_⟩
  exact fun hdistinct hplain => honce.mpr ⟨hdistinct, pathsApart_of_noLowLine hplain⟩

section Streams

def avroStream (columns : List Column) : Source :=
  ⟨.stream, "S", columns, ⟨"t", .separate none (some "AVRO"), none, none, none, []⟩, false, false,
    false⟩

theorem avroStream_found {sql : String} {columns : List Column} {schema : Option ValueSchema}
    (hsql : (parse sql).map (·.map (·.statement?)) = .ok [some (.create (avroStream columns))])
    (hreferences : (avroStream columns).references = [])
    (hschema : (valueSchema .standard ((avroStream columns).expand Catalog.empty.definition?)
      .kafka .avro).result = .ok schema) :
    Finds .standard .empty sql ⟨"t", 1, 1, schema⟩ :=
  @streamIn_found .avro sql columns schema hsql hreferences hschema

/-- A map whose keys are no strings: three records, for the value, its entries and what they hold. -/
theorem map_schema_definesOnce :
    ∃ (topic : Topic) (text : String) (avro : AvroType), Finds .standard .empty
        "CREATE STREAM S (M MAP<INT, STRUCT<X INT>>) WITH (kafka_topic='t', value_format='AVRO')"
        topic ∧
      topic.schema = some ⟨.avro, text⟩ ∧ text = avro.toJson.print ∧ avro.DefinesOnce := by
  let columns : List Column := [⟨"M", .map (.base .integer) (.struct [("X", .base .integer)]), .none⟩]
  have hsql : (parse
      "CREATE STREAM S (M MAP<INT, STRUCT<X INT>>) WITH (kafka_topic='t', value_format='AVRO')").map
      (·.map (·.statement?)) = .ok [some (.create (avroStream columns))] := by decide +kernel
  have hfinds := avroStream_found hsql rfl rfl
  obtain ⟨parsed, source, unwrap, avro, hparse, hparsed, -, htext, -, hplain⟩ :=
    avro_schema_definesOnce_iff hfinds rfl
  rw [hparse] at hsql
  have hsource : parsed.statement? = some (.create (avroStream columns)) :=
    List.head_eq_of_cons_eq (Except.ok.inj hsql)
  rw [hparsed] at hsource
  cases hsource
  have hfields : ((avroStream columns).expand Catalog.empty.definition?).fields .value =
      [("M", .map (.base .integer) (.struct [("X", .base .integer)]))] := rfl
  rw [hfields] at hplain
  refine ⟨_, _, avro, hfinds, rfl, htext, hplain ?_ ?_⟩
  · simp [StructsDistinct, DataType.parts, DataType.fieldParts]
  · simp [fieldRecordPaths, recordPaths, NoLowLine]

/-- A schema with two fields of one name in one record, and with two records of one name: one for the
field of a column, and one for the column that is named like the two together. -/
def repeatedNames : AvroType :=
  .record defaultAvroName
    [("A", .optional (.record (defaultAvroName ++ "_A")
      [("B", .optional (.record (defaultAvroName ++ "_A_B")
        [("X", .optional (.primitive "int")), ("X", .optional (.primitive "int"))]))])),
      ("A_B", .optional (.record (defaultAvroName ++ "_A_B") [("X", .optional (.primitive "int"))]))]

/-- Neither a field that is repeated in a struct nor a name that two paths have in common is refused. -/
theorem names_defined_twice :
    Finds .standard .empty
      ("CREATE STREAM S (A STRUCT<B STRUCT<X INT, X INT>>, A_B STRUCT<X INT>) " ++
        "WITH (kafka_topic='t', value_format='AVRO')")
      ⟨"t", 1, 1, some ⟨.avro, repeatedNames.toJson.print⟩⟩ ∧
    ¬(repeatedNames.recordNames.map AvroType.splitName).Nodup ∧
    ¬(∀ names ∈ repeatedNames.recordFieldNames, names.Nodup) := by
  refine ⟨?_, fun hrecords => ?_, fun hfields => ?_⟩
  · exact @avroStream_found _
      [⟨"A", .struct [("B", .struct [("X", .base .integer), ("X", .base .integer)])], .none⟩,
        ⟨"A_B", .struct [("X", .base .integer)], .none⟩] _ (by decide +kernel) rfl rfl
  · simp [repeatedNames, AvroType.recordNames, AvroType.fieldRecordNames] at hrecords
  · have htwice := hfields ["X", "X"] (by
      simp [repeatedNames, AvroType.recordFieldNames, AvroType.innerFieldNames])
    exact absurd htwice (by decide)

end Streams

end TopicPlan
