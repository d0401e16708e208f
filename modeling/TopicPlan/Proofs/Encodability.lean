import TopicPlan.Proofs.MessageWriting
import TopicPlan.Schema.Value

/-! Which columns have a schema in a format. An encoder fails only at a part that its format cannot
hold, wherever in a type that part stands, and at a reference; so success is told by the parts alone,
and does not depend on names, numbers or on whether a single column is wrapped. -/
namespace TopicPlan
namespace Sql.DataType

mutual

/-- A type and all types in it, at every depth. -/
def parts : DataType → List DataType
  | .base b => [.base b]
  | .decimal precision scale => [.decimal precision scale]
  | .array item => .array item :: item.parts
  | .map key value => .map key value :: (key.parts ++ value.parts)
  | .struct fields => .struct fields :: fieldParts fields
  | .reference name => [.reference name]

def fieldParts : Fields → List DataType
  | [] => []
  | (_, type) :: rest => type.parts ++ fieldParts rest

end

end Sql.DataType

namespace Schema
open Sql (BaseType DataType Fields)
open Sql.DataType

def protobufKeys : List DataType :=
  [.base .string, .base .integer, .base .bigint, .base .boolean]

/-- What a format asks of one part of a type. Only maps and arrays are ever refused. -/
def Admits : Format → DataType → Prop
  | .jsonSchema, .map key _ => key = .base .string
  | .protobuf, .array item => ProtobufWriter.isCollection item = false
  | .protobuf, .map key value => key ∈ protobufKeys ∧ ProtobufWriter.isCollection value = false
  | _, _ => True

/-- All parts of a type are as a format asks, and none is a reference. -/
structure Encodable (format : Format) (type : DataType) : Prop where
  references : type.references = []
  admitted : ∀ part ∈ type.parts, Admits format part

structure FieldsEncodable (format : Format) (fields : Fields) : Prop where
  references : fieldReferences fields = []
  admitted : ∀ part ∈ fieldParts fields, Admits format part

section Parts

variable {format : Format}

theorem encodable_base (b : BaseType) : Encodable format (.base b) :=
  ⟨rfl, by cases format <;> simp [parts, Admits]⟩

theorem encodable_decimal (precision scale : Int) : Encodable format (.decimal precision scale) :=
  ⟨rfl, by cases format <;> simp [parts, Admits]⟩

theorem not_encodable_reference (name : String) : ¬Encodable format (.reference name) := by
  intro h
  have hnone := h.references
  simp [references] at hnone

theorem encodable_array {item : DataType} :
    Encodable format (.array item) ↔ Admits format (.array item) ∧ Encodable format item := by
  constructor
  · rintro ⟨hreferences, hadmitted⟩
    rw [references] at hreferences
    rw [parts, List.forall_mem_cons] at hadmitted
    exact ⟨hadmitted.1, hreferences, hadmitted.2⟩
  · rintro ⟨harray, hreferences, hadmitted⟩
    refine ⟨by rw [references, hreferences], ?_⟩
    rw [parts, List.forall_mem_cons]
    exact ⟨harray, hadmitted⟩

theorem encodable_map {key value : DataType} :
    Encodable format (.map key value) ↔
      Admits format (.map key value) ∧ Encodable format key ∧ Encodable format value := by
  constructor
  · rintro ⟨hreferences, hadmitted⟩
    rw [references, List.append_eq_nil_iff] at hreferences
    rw [parts, List.forall_mem_cons, List.forall_mem_append] at hadmitted
    exact ⟨hadmitted.1, ⟨hreferences.1, hadmitted.2.1⟩, ⟨hreferences.2, hadmitted.2.2⟩⟩
  · rintro ⟨hmap, hkey, hvalue⟩
    refine ⟨by rw [references, hkey.references, hvalue.references]; rfl, ?_⟩
    rw [parts, List.forall_mem_cons, List.forall_mem_append]
    exact ⟨hmap, hkey.admitted, hvalue.admitted⟩

theorem encodable_struct {fields : Fields} :
    Encodable format (.struct fields) ↔ FieldsEncodable format fields := by
  have hstruct : Admits format (.struct fields) := by cases format <;> trivial
  constructor
  · rintro ⟨hreferences, hadmitted⟩
    rw [parts, List.forall_mem_cons] at hadmitted
    exact ⟨hreferences, hadmitted.2⟩
  · rintro ⟨hreferences, hadmitted⟩
    refine ⟨hreferences, ?_⟩
    rw [parts, List.forall_mem_cons]
    exact ⟨hstruct, hadmitted⟩

theorem fieldsEncodable_nil : FieldsEncodable format [] := ⟨rfl, by simp [fieldParts]⟩

theorem fieldsEncodable_cons {name : String} {type : DataType} {rest : Fields} :
    FieldsEncodable format ((name, type) :: rest) ↔
      Encodable format type ∧ FieldsEncodable format rest := by
  constructor
  · rintro ⟨hreferences, hadmitted⟩
    rw [fieldReferences, List.append_eq_nil_iff] at hreferences
    rw [fieldParts, List.forall_mem_append] at hadmitted
    exact ⟨⟨hreferences.1, hadmitted.1⟩, ⟨hreferences.2, hadmitted.2⟩⟩
  · rintro ⟨htype, hrest⟩
    refine ⟨by rw [fieldReferences, htype.references, hrest.references]; rfl, ?_⟩
    rw [fieldParts, List.forall_mem_append]
    exact ⟨htype.admitted, hrest.admitted⟩

theorem fieldsEncodable_iff {fields : Fields} :
    FieldsEncodable format fields ↔ ∀ field ∈ fields, Encodable format field.2 := by
  induction fields with
  | nil => simp [fieldsEncodable_nil]
  | cons field rest ih => rw [fieldsEncodable_cons, ih, List.forall_mem_cons]

end Parts

theorem succeeds_bind_pure {ε α β : Type} {x : Except ε α} {f : α → β} :
    Succeeds (x >>= fun a => pure (f a)) ↔ Succeeds x := by
  have h := succeeds_bind (x := x) (f := fun a => pure (f a)) (P := True) (by simp)
  rw [h, and_true]

mutual

theorem avro_succeeds_iff (fullName : String) : (type : DataType) →
    (Succeeds (AvroType.ofType fullName type) ↔ Encodable .avro type)
  | .base b => by simp [AvroType.ofType, encodable_base]
  | .decimal precision scale => by simp [AvroType.ofType, encodable_decimal]
  | .array item => by
    have hitem := avro_succeeds_iff fullName item
    rw [AvroType.ofType, succeeds_bind_pure, hitem, encodable_array]
    simp [Admits]
  | .map key value => by
    rw [encodable_map, AvroType.ofType]
    split
    · next hkey =>
      have hvalue := avro_succeeds_iff fullName value
      subst hkey
      rw [succeeds_bind_pure, hvalue]
      simp [Admits, encodable_base]
    · have hkey := avro_succeeds_iff
        (AvroType.partName (AvroType.partName fullName "MapEntry") "key") key
      have hvalue := avro_succeeds_iff
        (AvroType.partName (AvroType.partName fullName "MapEntry") "value") value
      rw [succeeds_bind fun _ => succeeds_bind_pure.trans hvalue, hkey]
      simp [Admits]
  | .struct fields => by
    rw [AvroType.ofType, succeeds_bind_pure, avroFields_succeeds_iff fullName fields,
      encodable_struct]
  | .reference name => by simp [AvroType.ofType, not_encodable_reference]

theorem avroFields_succeeds_iff (fullName : String) : (fields : Fields) →
    (Succeeds (AvroType.ofFields fullName fields) ↔ FieldsEncodable .avro fields)
  | [] => by simp [AvroType.ofFields, fieldsEncodable_nil]
  | (name, type) :: rest => by
    have htype := avro_succeeds_iff (AvroType.partName fullName name) type
    have hrest := avroFields_succeeds_iff fullName rest
    rw [AvroType.ofFields, succeeds_bind fun _ => succeeds_bind_pure.trans hrest, htype,
      fieldsEncodable_cons]

end

section Avro

/-! What the Avro encoder gives for each kind of type, when it gives anything. -/

variable {fullName : String} {avro : AvroType}

theorem avro_array_eq_ok {item : DataType} :
    AvroType.ofType fullName (.array item) = .ok avro ↔
      ∃ items, AvroType.ofType fullName item = .ok items ∧ avro = .array (.optional items) := by
  rw [AvroType.ofType, bind_pure_eq_ok]

theorem avro_stringMap_eq_ok {value : DataType} :
    AvroType.ofType fullName (.map (.base .string) value) = .ok avro ↔
      ∃ values, AvroType.ofType fullName value = .ok values ∧ avro = .map (.optional values) := by
  rw [AvroType.ofType, if_pos rfl, bind_pure_eq_ok]

def entryName (fullName : String) : String := AvroType.partName fullName "MapEntry"

theorem avro_map_eq_ok {key value : DataType} (h : key ≠ .base .string) :
    AvroType.ofType fullName (.map key value) = .ok avro ↔
      ∃ keys values,
        AvroType.ofType (AvroType.partName (entryName fullName) "key") key = .ok keys ∧
        AvroType.ofType (AvroType.partName (entryName fullName) "value") value = .ok values ∧
        avro = .array (.record (entryName fullName)
          [("key", .optional keys), ("value", .optional values)]) := by
  rw [AvroType.ofType, if_neg h, bind_eq_ok]
  refine exists_congr fun keys => ?_
  rw [bind_pure_eq_ok]
  exact exists_and_left.symm

theorem avro_struct_eq_ok {fields : Fields} :
    AvroType.ofType fullName (.struct fields) = .ok avro ↔
      ∃ parts, AvroType.ofFields fullName fields = .ok parts ∧ avro = .record fullName parts := by
  rw [AvroType.ofType, bind_pure_eq_ok]

theorem avroFields_cons_eq_ok {name : String} {type : DataType} {rest : Fields}
    {parts : List (String × AvroType)} :
    AvroType.ofFields fullName ((name, type) :: rest) = .ok parts ↔
      ∃ part more, AvroType.ofType (AvroType.partName fullName name) type = .ok part ∧
        AvroType.ofFields fullName rest = .ok more ∧ parts = (name, .optional part) :: more := by
  rw [AvroType.ofFields, bind_eq_ok]
  refine exists_congr fun part => ?_
  rw [bind_pure_eq_ok]
  exact exists_and_left.symm

/-- The columns of a value stand without their record: there is one, and it is unwrapped. -/
def StandsAlone (fields : Fields) (unwrap : Bool) : Prop := unwrap = true ∧ fields.length = 1

theorem not_standsAlone (fields : Fields) : ¬StandsAlone fields false :=
  fun halone => Bool.false_ne_true halone.1

/-! Columns that do not stand alone are encoded with their record. -/

theorem avroOf_record {fields : Fields} {unwrap : Bool} (h : ¬StandsAlone fields unwrap) :
    avroOf fields unwrap fullName = avroRecord fullName fields := by
  unfold avroOf
  split
  · exact absurd ⟨rfl, rfl⟩ h
  · rfl

theorem jsonSchemaOf_record {fields : Fields} {unwrap : Bool} (h : ¬StandsAlone fields unwrap) :
    jsonSchemaOf fields unwrap = JsonSchema.ofType (.struct fields) := by
  unfold jsonSchemaOf
  split
  · exact absurd ⟨rfl, rfl⟩ h
  · rfl

theorem protobufOf_record {fields : Fields} {unwrap : Bool} (h : ¬StandsAlone fields unwrap) :
    protobufOf fields unwrap = ProtobufFile.ofRecord fields := by
  unfold protobufOf
  split
  · exact absurd ⟨rfl, rfl⟩ h
  · rfl

theorem avroOf_eq_ok_alone {name : String} {type : DataType} :
    avroOf [(name, type)] true fullName = .ok avro ↔
      ∃ part, AvroType.ofType (AvroType.partName fullName name) type = .ok part ∧
        avro = .optional part := by
  show avroUnwrapped fullName name type = .ok avro ↔ _
  rw [avroUnwrapped, bind_pure_eq_ok]

theorem avroOf_eq_ok_record {fields : Fields} {unwrap : Bool} (h : ¬StandsAlone fields unwrap) :
    avroOf fields unwrap fullName = .ok avro ↔
      ∃ parts, AvroType.ofFields fullName fields = .ok parts ∧ avro = .record fullName parts := by
  rw [avroOf_record h, avroRecord, bind_pure_eq_ok]

end Avro

mutual

theorem jsonSchema_succeeds_iff : (type : DataType) →
    (Succeeds (JsonSchema.ofType type) ↔ Encodable .jsonSchema type)
  | .base b => by simp [JsonSchema.ofType, encodable_base]
  | .decimal precision scale => by simp [JsonSchema.ofType, encodable_decimal]
  | .array item => by
    rw [JsonSchema.ofType, succeeds_bind_pure, jsonSchema_succeeds_iff item, encodable_array]
    simp [Admits]
  | .map key value => by
    rw [encodable_map, JsonSchema.ofType]
    split
    · next hkey =>
      subst hkey
      rw [succeeds_bind_pure, jsonSchema_succeeds_iff value]
      simp [Admits, encodable_base]
    · next hkey => simp [Admits, hkey]
  | .struct fields => by
    rw [JsonSchema.ofType, succeeds_bind_pure, jsonSchemaFields_succeeds_iff 0 fields,
      encodable_struct]
  | .reference name => by simp [JsonSchema.ofType, not_encodable_reference]

theorem jsonSchemaFields_succeeds_iff (index : Nat) : (fields : Fields) →
    (Succeeds (JsonSchema.ofFields index fields) ↔ FieldsEncodable .jsonSchema fields)
  | [] => by simp [JsonSchema.ofFields, fieldsEncodable_nil]
  | (name, type) :: rest => by
    have hrest := jsonSchemaFields_succeeds_iff (index + 1) rest
    rw [JsonSchema.ofFields, succeeds_bind fun _ => succeeds_bind_pure.trans hrest,
      jsonSchema_succeeds_iff type, fieldsEncodable_cons]

end

section Protobuf
open ProtobufWriter

/-- What the writer finds for the key of a map tells whether maps may have it. -/
theorem mem_mapKeys_iff {indent : Nat} {nested : List String} {w : ProtobufWriter} {key : DataType}
    {found : (String × List String) × ProtobufWriter}
    (h : fieldType indent nested key w = .ok found) :
    found.1.1 ∈ mapKeys ↔ key ∈ protobufKeys := by
  cases key with
  | base b =>
    cases h
    show baseName b ∈ mapKeys ↔ .base b ∈ protobufKeys
    cases b <;> decide
  | decimal precision scale =>
    cases h
    have hname : decimalName ∉ mapKeys := by decide
    exact iff_of_false hname (by simp [protobufKeys])
  | array item => exact iff_of_false (not_mapKey_array h) (by simp [protobufKeys])
  | map key value => exact iff_of_false (not_mapKey_map h) (by simp [protobufKeys])
  | struct fields => exact iff_of_false (not_mapKey_struct h) (by simp [protobufKeys])
  | reference name => cases h

mutual

theorem protobuf_succeeds_iff (indent : Nat) (nested : List String) (w : ProtobufWriter) :
    (type : DataType) → (Succeeds (fieldType indent nested type w) ↔ Encodable .protobuf type)
  | .base b => iff_of_true ⟨_, fieldType_base b⟩ (encodable_base b)
  | .decimal precision scale =>
    iff_of_true ⟨_, fieldType_decimal precision scale⟩ (encodable_decimal precision scale)
  | .array item => by
    rw [fieldType_array, encodable_array]
    split
    · next hitem => simp [Admits, hitem]
    · next hitem =>
      rw [succeeds_bind_pure, protobuf_succeeds_iff indent nested w item]
      simp [Admits, hitem]
  | .map key value => by
    rw [fieldType_map, encodable_map, ← protobuf_succeeds_iff indent nested w key, and_left_comm]
    refine succeeds_bind_of_ok fun found hfound => ?_
    have hkey := mem_mapKeys_iff hfound
    have hvalue := protobuf_succeeds_iff indent found.1.2 found.2 value
    split
    · next hrefused =>
      have hnot : key ∉ protobufKeys := by simpa [hkey] using hrefused
      simp [Admits, hnot]
    · next hallowed =>
      have hmem : key ∈ protobufKeys := by simpa [hkey] using hallowed
      split
      · next hcollection => simp [Admits, hcollection]
      · next hplain =>
        rw [succeeds_bind_pure, hvalue]
        simp [Admits, hmem, hplain]
  | .struct fields => by
    rw [fieldType_struct, succeeds_bind_pure, message_eq, succeeds_bind_pure,
      protobufFields_succeeds_iff indent 1 [] w.opening fields, encodable_struct]
  | .reference name => by simp [fieldType_reference, not_encodable_reference]

theorem protobufFields_succeeds_iff (indent number : Nat) (nested : List String)
    (w : ProtobufWriter) : (fields : Fields) →
    (Succeeds (fieldLines indent number nested fields w) ↔ FieldsEncodable .protobuf fields)
  | [] => iff_of_true ⟨_, rfl⟩ fieldsEncodable_nil
  | (name, type) :: rest => by
    rw [fieldLines_cons, fieldsEncodable_cons, ← protobuf_succeeds_iff (indent + 1) nested w type]
    exact succeeds_bind fun found => succeeds_bind_pure.trans
      (protobufFields_succeeds_iff indent (number + 1) found.1.2 found.2 rest)

end

end Protobuf

theorem fieldsEncodable_single {format : Format} {name : String} {type : DataType} :
    FieldsEncodable format [(name, type)] ↔ Encodable format type := by
  rw [fieldsEncodable_cons]
  exact and_iff_left fieldsEncodable_nil

theorem avroOf_succeeds_iff (fields : Fields) (unwrap : Bool) (fullName : String) :
    Succeeds (avroOf fields unwrap fullName) ↔ FieldsEncodable .avro fields := by
  unfold avroOf
  split
  · rw [fieldsEncodable_single, ← avro_succeeds_iff]
    exact succeeds_bind_pure
  · rw [← avroFields_succeeds_iff fullName fields]
    exact succeeds_bind_pure

theorem jsonSchemaOf_succeeds_iff (fields : Fields) (unwrap : Bool) :
    Succeeds (jsonSchemaOf fields unwrap) ↔ FieldsEncodable .jsonSchema fields := by
  unfold jsonSchemaOf
  split
  · rw [fieldsEncodable_single, ← jsonSchema_succeeds_iff]
    exact succeeds_bind_pure
  · rw [← jsonSchemaFields_succeeds_iff 0 fields]
    exact succeeds_bind_pure

theorem protobufOf_succeeds_iff (fields : Fields) :
    Succeeds (protobufOf fields false) ↔ FieldsEncodable .protobuf fields := by
  rw [protobufOf_record (not_standsAlone fields),
    ← protobufFields_succeeds_iff 0 1 [] (ProtobufWriter.opening ⟨0, []⟩)]
  exact succeeds_bind_pure.trans succeeds_bind_pure

/-- Columns have a schema exactly when their format takes all their parts. Only Protobuf minds
whether a single column is left without its record. -/
theorem infer_succeeds_iff {format : Format} (hformat : format.infersSchema = true)
    (fields : Fields) {unwrap : Bool} (hunwrap : format = .protobuf → unwrap = false)
    (avroName : String) :
    Succeeds (ValueSchema.infer format fields unwrap avroName) ↔ FieldsEncodable format fields := by
  cases format with
  | avro => exact Iff.trans succeeds_bind_pure (avroOf_succeeds_iff fields unwrap avroName)
  | jsonSchema => exact Iff.trans succeeds_bind_pure (jsonSchemaOf_succeeds_iff fields unwrap)
  | protobuf =>
    rw [hunwrap rfl]
    exact Iff.trans succeeds_bind_pure (protobufOf_succeeds_iff fields)
  | kafka | none | delimited | json => cases hformat

theorem kind_of_infer {format : Format} {fields : Fields} {unwrap : Bool} {avroName : String}
    {schema : ValueSchema} (h : ValueSchema.infer format fields unwrap avroName = .ok schema) :
    format.schemaKind? = some schema.kind := by
  cases format with
  | avro | jsonSchema | protobuf =>
    obtain ⟨found, -, rfl⟩ := bind_pure_eq_ok.mp h
    rfl
  | kafka | none | delimited | json => cases h

theorem eq_of_schemaKind? {first second : Format} {kind : SchemaKind}
    (hfirst : first.schemaKind? = some kind) (hsecond : second.schemaKind? = some kind) :
    first = second := by
  revert hfirst hsecond
  cases first <;> cases second <;> cases kind <;> decide

end Schema

end TopicPlan
