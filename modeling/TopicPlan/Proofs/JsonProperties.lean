import TopicPlan.Proofs.DistinctFields
import TopicPlan.Proofs.OrderedMaps

/-! The properties of a JSON schema. The schema of a struct has one property for each name, so it has
one for each field only where the names are distinct. Columns always are; so the schema of a value keeps
all fields, at every depth, exactly when no struct in the columns repeats a name. -/
namespace TopicPlan
namespace Schema
open Sql (BaseType DataType Fields)
open Sql.DataType JsonSchema

mutual

/-- A document is the schema of a type and keeps all its fields: the properties of every object are the
fields of the struct, in order. -/
inductive Keeps : DataType → Json → Prop
  | base (b : BaseType) : Keeps (.base b) (ofBase b)
  | decimal (precision scale : Int) : Keeps (.decimal precision scale) (ofDecimal precision scale)
  | array {item : DataType} {document : Json} (hitem : Keeps item document) :
      Keeps (.array item) (.object [typed "array", ("items", optional document)])
  | map {value : DataType} {document : Json} (hvalue : Keeps value document) :
      Keeps (.map (.base .string) value)
        (.object [typed "object", connect "map", ("additionalProperties", optional document)])
  | struct {fields : Fields} {properties : List (String × Json)}
      (hfields : KeepsFields 0 fields properties) :
      Keeps (.struct fields) (.object [typed "object", ("properties", .object properties)])

/-- Properties are those of some fields, one for each, numbered from `index` on. -/
inductive KeepsFields : Nat → Fields → List (String × Json) → Prop
  | nil (index : Nat) : KeepsFields index [] []
  | cons {index : Nat} {name : String} {type : DataType} {document : Json} {rest : Fields}
      {properties : List (String × Json)} (htype : Keeps type document)
      (hrest : KeepsFields (index + 1) rest properties) :
      KeepsFields index ((name, type) :: rest) ((name, property index document) :: properties)

end

theorem KeepsFields.names {index : Nat} {fields : Fields} {properties : List (String × Json)}
    (h : KeepsFields index fields properties) : properties.map (·.1) = fields.map (·.1) := by
  induction fields generalizing index properties with
  | nil =>
    cases h
    rfl
  | cons field rest ih =>
    cases h with
    | cons htype hrest => simp [ih hrest]

section Encoder

/-! What the encoder gives for each kind of type, when it gives anything. -/

variable {document : Json}

theorem json_array_eq_ok {item : DataType} :
    JsonSchema.ofType (.array item) = .ok document ↔ ∃ inner, JsonSchema.ofType item = .ok inner ∧
      document = .object [typed "array", ("items", optional inner)] := by
  rw [JsonSchema.ofType, bind_pure_eq_ok]

theorem json_map_eq_ok {key value : DataType} :
    JsonSchema.ofType (.map key value) = .ok document ↔ key = .base .string ∧
      ∃ inner, JsonSchema.ofType value = .ok inner ∧
        document = .object [typed "object", connect "map",
          ("additionalProperties", optional inner)] := by
  rw [JsonSchema.ofType]
  by_cases hkey : key = .base .string
  · rw [if_pos hkey, bind_pure_eq_ok, and_iff_right hkey]
  · simp [hkey]

theorem json_struct_eq_ok {fields : Fields} :
    JsonSchema.ofType (.struct fields) = .ok document ↔
      ∃ properties, JsonSchema.ofFields 0 fields = .ok properties ∧ document = object properties := by
  rw [JsonSchema.ofType, bind_pure_eq_ok]

theorem jsonFields_cons_eq_ok {index : Nat} {name : String} {type : DataType} {rest : Fields}
    {properties : List (String × Json)} :
    JsonSchema.ofFields index ((name, type) :: rest) = .ok properties ↔
      ∃ inner more, JsonSchema.ofType type = .ok inner ∧
        JsonSchema.ofFields (index + 1) rest = .ok more ∧
        properties = (name, property index inner) :: more := by
  rw [JsonSchema.ofFields, bind_eq_ok]
  refine exists_congr fun inner => ?_
  rw [bind_pure_eq_ok]
  exact exists_and_left.symm

end Encoder

section Inversion

/-! What a document that keeps the fields of a type looks like. -/

variable {document : Json}

theorem keeps_array {item : DataType} :
    Keeps (.array item) (.object [typed "array", ("items", optional document)]) ↔
      Keeps item document := by
  constructor
  · intro h
    cases h with
    | array hitem => exact hitem
  · exact .array

theorem keeps_map {value : DataType} :
    Keeps (.map (.base .string) value)
        (.object [typed "object", connect "map", ("additionalProperties", optional document)]) ↔
      Keeps value document := by
  constructor
  · intro h
    cases h with
    | map hvalue => exact hvalue
  · exact .map

theorem keepsFields_cons {index : Nat} {name : String} {type : DataType} {rest : Fields}
    {properties : List (String × Json)} :
    KeepsFields index ((name, type) :: rest) ((name, property index document) :: properties) ↔
      Keeps type document ∧ KeepsFields (index + 1) rest properties := by
  constructor
  · intro h
    cases h with
    | cons htype hrest => exact ⟨htype, hrest⟩
  · exact fun h => .cons h.1 h.2

/-- An object keeps the fields of a struct when their names are distinct: with a name that is
repeated, fewer properties are left than there are fields. -/
theorem keeps_object {fields : Fields} {properties : List (String × Json)}
    (hnames : properties.map (·.1) = fields.map (·.1)) :
    Keeps (.struct fields) (object properties) ↔
      (fields.map (·.1)).Nodup ∧ KeepsFields 0 fields properties := by
  constructor
  · intro h
    have hkept : KeepsFields 0 fields (OrderedMap.lastWins properties) := by
      cases h with
      | struct hfields => exact hfields
    have hkeys : (OrderedMap.lastWins properties).map (·.1) = (properties.map (·.1)).eraseDups :=
      OrderedMap.keys_lastWins properties
    have hnodup : (fields.map (·.1)).Nodup := by
      rw [← hkept.names, hkeys]
      exact OrderedMap.nodup_eraseDups _
    rw [OrderedMap.lastWins_of_nodup (hnames ▸ hnodup)] at hkept
    exact ⟨hnodup, hkept⟩
  · intro h
    have hall : OrderedMap.lastWins properties = properties :=
      OrderedMap.lastWins_of_nodup (hnames ▸ h.1)
    rw [object, hall]
    exact .struct h.2

end Inversion

mutual

/-- The schema of a type keeps all fields exactly when the structs in the type have distinct ones. -/
theorem keeps_iff : (type : DataType) → ∀ {document : Json},
    JsonSchema.ofType type = .ok document → (Keeps type document ↔ StructsDistinct type)
  | .base b, document, h => by
    cases h
    have hdistinct : StructsDistinct (.base b) := by simp [StructsDistinct, parts]
    exact iff_of_true (.base b) hdistinct
  | .decimal precision scale, document, h => by
    cases h
    have hdistinct : StructsDistinct (.decimal precision scale) := by simp [StructsDistinct, parts]
    exact iff_of_true (.decimal precision scale) hdistinct
  | .array item, document, h => by
    obtain ⟨inner, hinner, rfl⟩ := json_array_eq_ok.mp h
    rw [keeps_array, structsDistinct_array, keeps_iff item hinner]
  | .map key value, document, h => by
    obtain ⟨rfl, inner, hinner, rfl⟩ := json_map_eq_ok.mp h
    have hstring : StructsDistinct (.base .string) := by simp [StructsDistinct, parts]
    rw [keeps_map, structsDistinct_map, and_iff_right hstring, keeps_iff value hinner]
  | .struct fields, document, h => by
    obtain ⟨properties, hproperties, rfl⟩ := json_struct_eq_ok.mp h
    obtain ⟨hnames, hfields⟩ := keepsFields_iff 0 fields hproperties
    rw [keeps_object hnames, structsDistinct_struct, hfields]
  | .reference name, document, h => by cases h

theorem keepsFields_iff (index : Nat) : (fields : Fields) →
    ∀ {properties : List (String × Json)}, JsonSchema.ofFields index fields = .ok properties →
      properties.map (·.1) = fields.map (·.1) ∧
      (KeepsFields index fields properties ↔ ∀ field ∈ fields, StructsDistinct field.2)
  | [], properties, h => by
    cases h
    exact ⟨rfl, iff_of_true (.nil index) (List.forall_mem_nil _)⟩
  | (name, type) :: rest, properties, h => by
    obtain ⟨inner, more, hinner, hmore, rfl⟩ := jsonFields_cons_eq_ok.mp h
    obtain ⟨hnames, hrest⟩ := keepsFields_iff (index + 1) rest hmore
    refine ⟨by simp [hnames], ?_⟩
    rw [keepsFields_cons, keeps_iff type hinner, hrest, List.forall_mem_cons]

end

end Schema

open Sql Sql.DataType Schema

theorem jsonSchemaOf_of_valueSchema {config : EngineConfig} {source : Source} {key value : Format}
    {text : String} (h : (valueSchema config source key value).result = .ok (some ⟨.json, text⟩)) :
    ∃ options document, (serdeOptions config source key value).result = .ok options ∧
      jsonSchemaOf (source.fields .value) (options.value == some .unwrapSingleValues) =
        .ok document ∧ text = document.print := by
  obtain ⟨options, hoptions, hinferred⟩ := infer_of_valueSchema h
  obtain rfl : value = .jsonSchema := eq_of_schemaKind? (kind_of_infer hinferred) rfl
  obtain ⟨document, hdocument, htext⟩ := bind_pure_eq_ok.mp hinferred
  exact ⟨options, document, hoptions, hdocument, congrArg ValueSchema.text htext⟩

/-- A schema of the JSON kind with its record, for whatever statement it is made and against whatever
catalog, keeps all fields exactly when no struct in the expanded value columns has two fields of one
name. The columns themselves never stand in the way. -/
theorem json_schema_keeps_iff {config : EngineConfig} {catalog : Catalog} {sql : String}
    {topic : Topic} {text : String} (hfinds : Finds config catalog sql topic)
    (hschema : topic.schema = some ⟨.json, text⟩) :
    ∃ parsed source key value options document, parse sql = .ok [parsed] ∧
      parsed.statement? = some (.create source) ∧
      (serdeOptions config (source.expand catalog.definition?) key value).result = .ok options ∧
      jsonSchemaOf ((source.expand catalog.definition?).fields .value)
        (options.value == some .unwrapSingleValues) = .ok document ∧ text = document.print ∧
      (¬StandsAlone ((source.expand catalog.definition?).fields .value)
          (options.value == some .unwrapSingleValues) →
        (Keeps (.struct ((source.expand catalog.definition?).fields .value)) document ↔
          ∀ column ∈ (source.expand catalog.definition?).fields .value,
            StructsDistinct column.2)) := by
  obtain ⟨parsed, source, hparse, hparsed, ⟨tokens, hstatement⟩, htopic⟩ := source_of_finds hfinds
  obtain ⟨key, value, schema, -, -, hvalue, rfl⟩ := topicOfSource_eq_ok_iff.mp htopic
  obtain rfl : schema = some ⟨.json, text⟩ := hschema
  obtain ⟨options, document, hoptions, hdocument, htext⟩ := jsonSchemaOf_of_valueSchema hvalue
  refine ⟨parsed, source, key, value, options, document, hparse, hparsed, hoptions, hdocument, htext,
    ?_⟩
  intro hwrapped
  rw [jsonSchemaOf_record hwrapped] at hdocument
  have hcolumns := fields_nodup (columns_nodup_of_statement hstatement) catalog.definition? .value
  rw [keeps_iff _ hdocument, structsDistinct_struct, and_iff_right hcolumns]

/-- A struct in an array beside a column of the name of one of its fields. -/
theorem json_schema_keeps_nested :
    ∃ (topic : Topic) (text : String) (document : Json), Finds .standard .empty
        ("CREATE STREAM S (A ARRAY<STRUCT<X INT, Y STRING>>, X INT) " ++
          "WITH (kafka_topic='t', value_format='JSON_SR')") topic ∧
      topic.schema = some ⟨.json, text⟩ ∧ text = document.print ∧
      Keeps (.struct [("A", .array (.struct [("X", .base .integer), ("Y", .base .string)])),
        ("X", .base .integer)]) document := by
  let columns : List Column := [⟨"A", .array (.struct [("X", .base .integer), ("Y", .base .string)]),
    .none⟩, ⟨"X", .base .integer, .none⟩]
  have hsql : (parse ("CREATE STREAM S (A ARRAY<STRUCT<X INT, Y STRING>>, X INT) " ++
      "WITH (kafka_topic='t', value_format='JSON_SR')")).map (·.map (·.statement?)) =
      .ok [some (.create (streamIn .jsonSchema columns))] := by decide +kernel
  have hfinds := streamIn_found hsql rfl rfl
  obtain ⟨parsed, source, key, value, options, document, hparse, hparsed, -, -, htext, hkeeps⟩ :=
    json_schema_keeps_iff hfinds rfl
  rw [hparse] at hsql
  have hsource : parsed.statement? = some (.create (streamIn .jsonSchema columns)) :=
    List.head_eq_of_cons_eq (Except.ok.inj hsql)
  rw [hparsed] at hsource
  cases hsource
  have hfields : ((streamIn .jsonSchema columns).expand Catalog.empty.definition?).fields .value =
      [("A", .array (.struct [("X", .base .integer), ("Y", .base .string)])),
        ("X", .base .integer)] := rfl
  rw [hfields] at hkeeps
  have hkept := hkeeps (fun halone => absurd halone.2 (by decide))
  refine ⟨_, _, document, hfinds, rfl, htext, hkept.mpr ?_⟩
  simp [StructsDistinct, DataType.parts, DataType.fieldParts]

/-- The schema of a column whose struct has a field twice: one property is left, the second one. -/
def lostField : Json :=
  JsonSchema.object [("A", JsonSchema.property 0
    (JsonSchema.object [("X", JsonSchema.property 1 (JsonSchema.ofBase .string))]))]

/-- A struct with a repeated field is not refused, and its schema has lost the first of the two. -/
theorem field_lost :
    Finds .standard .empty
      "CREATE STREAM S (A STRUCT<X INT, X STRING>) WITH (kafka_topic='t', value_format='JSON_SR')"
      ⟨"t", 1, 1, some ⟨.json, lostField.print⟩⟩ ∧
    ¬Keeps (.struct [("A", .struct [("X", .base .integer), ("X", .base .string)])]) lostField := by
  constructor
  · exact @streamIn_found .jsonSchema _
      [⟨"A", .struct [("X", .base .integer), ("X", .base .string)], .none⟩] _ (by decide +kernel) rfl rfl
  · have hdocument : JsonSchema.ofType
        (.struct [("A", .struct [("X", .base .integer), ("X", .base .string)])]) = .ok lostField := rfl
    rw [keeps_iff _ hdocument]
    intro hdistinct
    have htwice := hdistinct [("X", .base .integer), ("X", .base .string)]
      (by simp [DataType.parts, DataType.fieldParts])
    simp at htwice

end TopicPlan
