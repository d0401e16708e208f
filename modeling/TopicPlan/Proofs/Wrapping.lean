import TopicPlan.Proofs.TopicCriterion
import TopicPlan.Proofs.WrittenTexts

/-! What wrapping single values changes. Whatever a source and the configuration say about it, the source
keeps its topic and the kind of its schema; only the text of the schema differs, which is either that of
the record of all value columns or that of a single one without it. -/
namespace TopicPlan
namespace Schema
open Sql (DataType Fields)

/-- The text of a schema for a single column without a record: that of its type, which may be null. -/
inductive BareText (avroName : String) : Format → Fields → String → Prop
  | avro {name : String} {type : DataType} {part : AvroType}
      (h : AvroType.ofType (AvroType.partName avroName name) type = .ok part) :
      BareText avroName .avro [(name, type)] (AvroType.optional part).toJson.print
  | jsonSchema {name : String} {type : DataType} {document : Json}
      (h : JsonSchema.ofType type = .ok document) :
      BareText avroName .jsonSchema [(name, type)] (JsonSchema.optional document).print

inductive RecordText (avroName : String) : Format → Fields → String → Prop
  | avro {fields : Fields} {parts : List (String × AvroType)}
      (h : AvroType.ofFields avroName fields = .ok parts) :
      RecordText avroName .avro fields (AvroType.record avroName parts).toJson.print
  | jsonSchema {fields : Fields} {properties : List (String × Json)}
      (h : JsonSchema.ofFields 0 fields = .ok properties) :
      RecordText avroName .jsonSchema fields (JsonSchema.object properties).print
  | protobuf {fields : Fields} {text : String} (h : ProtobufFile.ofRecord fields = .ok text) :
      RecordText avroName .protobuf fields text

variable {avroName : String} {format : Format} {fields : Fields} {schema : ValueSchema}

/-- A document that may be null starts with a bracket in Avro, and with its alternatives in a JSON
schema; a record starts with its type in both. -/
theorem BareText.not_recordText {text : String} (h : BareText avroName format fields text) :
    ¬RecordText avroName format fields text := by
  intro hrecord
  cases h with
  | avro hpart =>
    generalize hprint : (AvroType.optional _).toJson.print = text at hrecord
    cases hrecord with
    | avro hparts =>
      have hwritten := String.ofList_injective hprint
      cases (List.cons.inj hwritten).1
  | jsonSchema hdocument =>
    generalize hprint : (JsonSchema.optional _).print = text at hrecord
    cases hrecord with
    | jsonSchema hproperties =>
      have hwritten := String.ofList_injective hprint
      have hname : Text.joined "oneOf" = Text.joined "type" :=
        (Json.joined_of_writeText_eq (List.cons.inj hwritten).2).1
      revert hname
      decide +kernel

theorem recordText_of_infer (h : ValueSchema.infer format fields false avroName = .ok schema) :
    RecordText avroName format fields schema.text := by
  have hrecord := not_standsAlone fields
  cases format with
  | avro =>
    obtain ⟨found, hfound, rfl⟩ := bind_pure_eq_ok.mp h
    obtain ⟨parts, hparts, rfl⟩ := (avroOf_eq_ok_record hrecord).mp hfound
    exact .avro hparts
  | jsonSchema =>
    obtain ⟨found, hfound, rfl⟩ := bind_pure_eq_ok.mp h
    rw [jsonSchemaOf_record hrecord, JsonSchema.ofType] at hfound
    obtain ⟨properties, hproperties, rfl⟩ := bind_pure_eq_ok.mp hfound
    exact .jsonSchema hproperties
  | protobuf =>
    obtain ⟨found, hfound, rfl⟩ := bind_pure_eq_ok.mp h
    rw [protobufOf_record hrecord] at hfound
    exact .protobuf hfound
  | kafka | none | delimited | json => cases h

theorem bareText_of_infer (hunwraps : format.unwraps = true) (hone : fields.length = 1)
    (h : ValueSchema.infer format fields true avroName = .ok schema) :
    BareText avroName format fields schema.text := by
  obtain ⟨⟨name, type⟩, rfl⟩ := List.length_eq_one_iff.mp hone
  cases format with
  | avro =>
    obtain ⟨found, hfound, rfl⟩ := bind_pure_eq_ok.mp h
    obtain ⟨part, hpart, rfl⟩ := avroOf_eq_ok_alone.mp hfound
    exact .avro hpart
  | jsonSchema =>
    obtain ⟨found, hfound, rfl⟩ := bind_pure_eq_ok.mp h
    obtain ⟨document, hdocument, rfl⟩ := bind_pure_eq_ok.mp hfound
    exact .jsonSchema hdocument
  | json => cases h
  | kafka | none | delimited | protobuf => cases hunwraps

end Schema
open Sql Sql.DataType Schema

def EngineConfig.wrapping (config : EngineConfig) (configured : Option Bool) : EngineConfig :=
  { config with wrapSingleValues := configured }

def Sql.Source.wrapping (source : Source) (requested : Option Bool) : Source :=
  { source with properties := { source.properties with wrapSingleValue := requested } }

structure Topic.SameButText (topic other : Topic) : Prop where
  name : topic.name = other.name
  partitions : topic.partitions = other.partitions
  replicas : topic.replicas = other.replicas
  kind : topic.schema.map (·.kind) = other.schema.map (·.kind)

theorem leavesBare_wrapping_iff {value : Format} (hinfers : value.infersSchema = true)
    (config : EngineConfig) (source : Source) (requested configured : Option Bool) :
    LeavesBare (config.wrapping configured) (source.wrapping requested) value ↔
      (value = .avro ∨ value = .jsonSchema) ∧ (source.fields .value).length = 1 ∧
        AsksBare requested configured := by
  have hunwraps : value.unwraps = true ↔ value = .avro ∨ value = .jsonSchema := by
    revert hinfers
    cases value <;> decide
  rw [← hunwraps]
  exact and_left_comm

theorem kind_of_valueSchema {config : EngineConfig} {source : Source} {key value : Format}
    {schema : Option ValueSchema} (h : (valueSchema config source key value).result = .ok schema) :
    schema.map (·.kind) = if source.fields .value = [] then none else value.schemaKind? := by
  rw [valueSchema_eq] at h
  by_cases hfields : source.fields .value = []
  · rw [if_neg fun hhas => hhas.2 hfields] at h
    cases h
    rw [if_pos hfields]
    rfl
  · rw [if_neg hfields]
    by_cases hinfers : value.infersSchema = true
    · rw [if_pos ⟨hinfers, hfields⟩] at h
      obtain ⟨found, hfound, rfl⟩ := map_eq_ok.mp h
      exact (kind_of_infer (mapError_eq_ok.mp hfound)).symm
    · rw [if_neg fun hhas => hinfers hhas.1] at h
      cases h
      exact (Option.not_isSome_iff_eq_none.mp hinfers).symm

/-- The text of a schema in one setting: that of the single column where this is asked for and can be
had, and otherwise the given one of the record. -/
structure ShapedBy (source : Source) (value : Format) (requested configured : Option Bool)
    (wrapped : String) (schema : ValueSchema) : Prop where
  record : RecordText source.avroName value (source.fields .value) wrapped
  bare : BareText source.avroName value (source.fields .value) schema.text ↔
    (value = .avro ∨ value = .jsonSchema) ∧ (source.fields .value).length = 1 ∧
      AsksBare requested configured
  otherwise : ¬BareText source.avroName value (source.fields .value) schema.text →
    schema.text = wrapped

theorem shapedBy_of_valueSchema {config : EngineConfig} {source : Source} {key value : Format}
    {requested configured : Option Bool} {record schema : ValueSchema}
    (hrecord : ValueSchema.infer value (source.fields .value) false source.avroName = .ok record)
    (h : (valueSchema (config.wrapping configured) (source.wrapping requested) key value).result =
      .ok (some schema)) :
    ShapedBy source value requested configured record.text schema := by
  have hwrapped := recordText_of_infer hrecord
  rw [valueSchema_eq] at h
  split at h
  · next hhas =>
    obtain ⟨found, hfound, hschema⟩ := map_eq_ok.mp h
    cases hschema
    have hinferred := mapError_eq_ok.mp hfound
    have hiff := leavesBare_wrapping_iff hhas.1 config source requested configured
    by_cases hbare : LeavesBare (config.wrapping configured) (source.wrapping requested) value
    · rw [decide_eq_true hbare] at hinferred
      have htext := bareText_of_infer hbare.2.1 hbare.1 hinferred
      exact ⟨hwrapped, iff_of_true htext (hiff.mp hbare), fun hnot => absurd htext hnot⟩
    · rw [decide_eq_false hbare] at hinferred
      have hsame : schema = record := Except.ok.inj (hinferred.symm.trans hrecord)
      have hnot : ¬BareText source.avroName value (source.fields .value) schema.text := by
        intro htext
        rw [hsame] at htext
        exact htext.not_recordText hwrapped
      exact ⟨hwrapped, iff_of_false hnot fun h => hbare (hiff.mpr h), fun _ => by rw [hsame]⟩
  · cases h

/-- In every setting there is a schema of the same kind, or none in all of them, and its text is that of
the single column or that of the record. -/
theorem valueSchema_wrapping {config : EngineConfig} {source : Source} {key value : Format}
    {schema : Option ValueSchema} (h : (valueSchema config source key value).result = .ok schema) :
    ∃ wrapped : String, ∀ requested configured : Option Bool, ∃ changed : Option ValueSchema,
      (valueSchema (config.wrapping configured) (source.wrapping requested) key value).result =
        .ok changed ∧
      changed.map (·.kind) = schema.map (·.kind) ∧
      ∀ found ∈ changed, ShapedBy source value requested configured wrapped found := by
  have hencodable := (valueSchema_result config source key value).1.mp ⟨schema, h⟩
  have hchanged : ∀ requested configured : Option Bool, ∃ changed : Option ValueSchema,
      (valueSchema (config.wrapping configured) (source.wrapping requested) key value).result =
        .ok changed ∧ changed.map (·.kind) = schema.map (·.kind) := by
    intro requested configured
    obtain ⟨changed, hresult⟩ := (valueSchema_result (config.wrapping configured)
      (source.wrapping requested) key value).1.mpr hencodable
    exact ⟨changed, hresult, (kind_of_valueSchema hresult).trans (kind_of_valueSchema h).symm⟩
  by_cases hinfers : value.infersSchema = true
  · obtain ⟨record, hrecord⟩ := (infer_succeeds_iff hinfers (source.fields .value)
      (fun _ => rfl) source.avroName).mpr (hencodable hinfers)
    refine ⟨record.text, fun requested configured => ?_⟩
    obtain ⟨changed, hresult, hkind⟩ := hchanged requested configured
    refine ⟨changed, hresult, hkind, ?_⟩
    rintro found rfl
    exact shapedBy_of_valueSchema hrecord hresult
  · refine ⟨"", fun requested configured => ?_⟩
    obtain ⟨changed, hresult, hkind⟩ := hchanged requested configured
    refine ⟨changed, hresult, hkind, ?_⟩
    rintro found rfl
    have hsome := (valueSchema_result _ _ key value).2 _ hresult
    exact absurd (hsome.mp rfl).1 hinfers

/-- A source that yields a topic yields one in every setting, which differs from it in the text of the
schema alone. The text is that of the only value column, without a record, exactly where the value
format is AVRO or JSON_SR and the source asks for this, or asks for nothing and the configuration does;
everywhere else it is the text of the record, the same in all settings. -/
theorem wrapping_changes_text_only {config : EngineConfig} {catalog after : Catalog} {source : Source}
    {topic : Topic}
    (h : (readStatement config catalog (some (.create source))).result = .ok (some topic, after)) :
    ∃ value : Format, value.IsNamedBy (config.valueFormatName source.properties) ∧
    ∃ wrapped : String, ∀ requested configured : Option Bool, ∃ changed : Topic,
      (readStatement (config.wrapping configured) catalog
        (some (.create (source.wrapping requested)))).result = .ok (some changed, after) ∧
      (∀ sql text, parse sql = .ok [⟨text, some (.create (source.wrapping requested))⟩] →
        Finds (config.wrapping configured) catalog sql changed) ∧
      changed.SameButText topic ∧
      ∀ schema ∈ changed.schema, ShapedBy (source.expand catalog.definition?) value requested
        configured wrapped schema := by
  obtain ⟨hbound, rfl, found, hfound, htopic⟩ := readStatement_create.mp h
  cases hfound
  obtain ⟨key, value, schema, hkey, hvalue, hschema, rfl⟩ := topicOfSource_eq_ok_iff.mp htopic
  obtain ⟨wrapped, hsettings⟩ := valueSchema_wrapping hschema
  refine ⟨value, hvalue, wrapped, fun requested configured => ?_⟩
  obtain ⟨changed, hchanged, hkind, hshaped⟩ := hsettings requested configured
  let changedTopic := ((source.wrapping requested).expand after.definition?).topicWith changed
  have hread : (readStatement (config.wrapping configured) after
      (some (.create (source.wrapping requested)))).result = .ok (some changedTopic, after) :=
    readStatement_create.mpr ⟨hbound, rfl, _, rfl,
      topicOfSource_eq_ok_iff.mpr ⟨key, value, changed, hkey, hvalue, hchanged, rfl⟩⟩
  refine ⟨changedTopic, hread, ?_, ⟨rfl, rfl, rfl, hkind⟩, hshaped⟩
  intro sql text hparse
  refine ⟨after, ?_⟩
  rw [extract_single hparse, hread]

/-- A stream with one value column, where the configuration asks for it to be left without its record. -/
theorem wrapping_changes_text_only_single :
    let source := streamIn .avro [⟨"V", .base .integer, .none⟩]
    ∃ topic, (readStatement .standard .empty (some (.create source))).result =
        .ok (some topic, .empty) ∧
      ∃ changed schema, (readStatement (EngineConfig.standard.wrapping (some false)) .empty
          (some (.create (source.wrapping none)))).result = .ok (some changed, .empty) ∧
        changed.SameButText topic ∧ changed.schema = some schema ∧
        BareText source.avroName .avro [("V", .base .integer)] schema.text := by
  intro source
  have hschema : (topicOfSource .standard (source.expand Catalog.empty.definition?)).result.map
      (·.schema.isSome) = .ok true := by decide +kernel
  obtain ⟨topic, htopic, hsome⟩ := map_eq_ok.mp hschema
  have hbound : Bound Catalog.empty.definition? source.references := by decide +kernel
  have hread : (readStatement .standard .empty (some (.create source))).result =
      .ok (some topic, .empty) := readStatement_create.mpr ⟨hbound, rfl, topic, rfl, htopic⟩
  have hnamed : Format.avro.IsNamedBy (EngineConfig.standard.valueFormatName source.properties) :=
    Format.isNamedBy_iff.mpr (by decide +kernel)
  obtain ⟨value, hvalue, wrapped, hsettings⟩ := wrapping_changes_text_only hread
  obtain rfl := isNamedBy_unique hnamed hvalue
  obtain ⟨changed, hchanged, -, hsame, hshaped⟩ := hsettings none (some false)
  have hkind : changed.schema.isSome = topic.schema.isSome := by
    rw [← Option.isSome_map, hsame.kind, Option.isSome_map]
  obtain ⟨schema, hfound⟩ := Option.isSome_iff_exists.mp (hkind.trans hsome)
  refine ⟨topic, hread, changed, schema, hchanged, hsame, hfound, ?_⟩
  exact (hshaped schema hfound).bare.mpr ⟨Or.inl rfl, rfl, Or.inr ⟨rfl, rfl⟩⟩

end TopicPlan
