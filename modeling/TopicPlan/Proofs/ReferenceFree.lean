import TopicPlan.Proofs.TopicCriterion

/-! Encoders and references. Only a reference makes an encoder complain of a type that was never
replaced by its definition; what is prepared against a catalog that reading leaves has no references,
so no text is ever refused with that complaint. -/
namespace TopicPlan
namespace Schema
open Sql (DataType Fields)
open Sql.DataType

def PassesReferences {α : Type} (x : Except SchemaError α) : Prop :=
  ∀ format type, x ≠ .error (.unresolved format type)

section Steps

variable {α β : Type}

theorem passes_ok (a : α) : PassesReferences (.ok a) := by
  rintro format type ⟨⟩

theorem passes_bind {x : Except SchemaError α} {f : α → Except SchemaError β}
    (hx : PassesReferences x) (hf : ∀ a, PassesReferences (f a)) : PassesReferences (x >>= f) := by
  cases x with
  | error error =>
    intro format type h
    exact hx format type (congrArg Except.error (Except.error.inj h))
  | ok a => exact hf a

theorem passes_bind_pure {x : Except SchemaError α} {f : α → β} (hx : PassesReferences x) :
    PassesReferences (x >>= fun a => pure (f a)) :=
  passes_bind hx fun a => passes_ok (f a)

end Steps

mutual

theorem avro_passes (fullName : String) : (type : DataType) → type.references = [] →
    PassesReferences (AvroType.ofType fullName type)
  | .base b, _ => passes_ok _
  | .decimal precision scale, _ => passes_ok _
  | .array item, h => passes_bind_pure (avro_passes fullName item h)
  | .map key value, h => by
    rw [references, List.append_eq_nil_iff] at h
    rw [AvroType.ofType]
    split
    · exact passes_bind_pure (avro_passes fullName value h.2)
    · exact passes_bind (avro_passes _ key h.1) fun _ => passes_bind_pure (avro_passes _ value h.2)
  | .struct fields, h => passes_bind_pure (avroFields_passes fullName fields h)
  | .reference name, h => by simp [references] at h

theorem avroFields_passes (fullName : String) : (fields : Fields) → fieldReferences fields = [] →
    PassesReferences (AvroType.ofFields fullName fields)
  | [], _ => passes_ok _
  | (name, type) :: rest, h => by
    rw [fieldReferences, List.append_eq_nil_iff] at h
    exact passes_bind (avro_passes _ type h.1) fun _ =>
      passes_bind_pure (avroFields_passes fullName rest h.2)

end

mutual

theorem jsonSchema_passes : (type : DataType) → type.references = [] →
    PassesReferences (JsonSchema.ofType type)
  | .base b, _ => passes_ok _
  | .decimal precision scale, _ => passes_ok _
  | .array item, h => passes_bind_pure (jsonSchema_passes item h)
  | .map key value, h => by
    rw [references, List.append_eq_nil_iff] at h
    rw [JsonSchema.ofType]
    split
    · exact passes_bind_pure (jsonSchema_passes value h.2)
    · rintro format type ⟨⟩
  | .struct fields, h => passes_bind_pure (jsonSchemaFields_passes 0 fields h)
  | .reference name, h => by simp [references] at h

theorem jsonSchemaFields_passes (index : Nat) : (fields : Fields) → fieldReferences fields = [] →
    PassesReferences (JsonSchema.ofFields index fields)
  | [], _ => passes_ok _
  | (name, type) :: rest, h => by
    rw [fieldReferences, List.append_eq_nil_iff] at h
    exact passes_bind (jsonSchema_passes type h.1) fun _ =>
      passes_bind_pure (jsonSchemaFields_passes (index + 1) rest h.2)

end

section Protobuf
open ProtobufWriter

mutual

theorem protobuf_passes (indent : Nat) (nested : List String) (w : ProtobufWriter) :
    (type : DataType) → type.references = [] → PassesReferences (fieldType indent nested type w)
  | .base b, _ => passes_ok _
  | .decimal precision scale, _ => passes_ok _
  | .array item, h => by
    rw [references] at h
    rw [fieldType_array]
    split
    · rintro format type ⟨⟩
    · exact passes_bind_pure (protobuf_passes indent nested w item h)
  | .map key value, h => by
    rw [references, List.append_eq_nil_iff] at h
    rw [fieldType_map]
    refine passes_bind (protobuf_passes indent nested w key h.1) fun found => ?_
    split
    · rintro format type ⟨⟩
    · split
      · rintro format type ⟨⟩
      · exact passes_bind_pure (protobuf_passes indent found.1.2 found.2 value h.2)
  | .struct fields, h => by
    rw [fieldType_struct, message_eq]
    exact passes_bind_pure (passes_bind_pure (protobufFields_passes indent 1 [] w.opening fields h))
  | .reference name, h => by simp [references] at h

theorem protobufFields_passes (indent number : Nat) (nested : List String) (w : ProtobufWriter) :
    (fields : Fields) → fieldReferences fields = [] →
      PassesReferences (fieldLines indent number nested fields w)
  | [], _ => passes_ok _
  | (name, type) :: rest, h => by
    rw [fieldReferences, List.append_eq_nil_iff] at h
    rw [fieldLines_cons]
    exact passes_bind (protobuf_passes (indent + 1) nested w type h.1) fun found =>
      passes_bind_pure (protobufFields_passes indent (number + 1) found.1.2 found.2 rest h.2)

end

end Protobuf

theorem avroOf_passes {fields : Fields} (h : fieldReferences fields = []) (unwrap : Bool)
    (fullName : String) : PassesReferences (avroOf fields unwrap fullName) := by
  unfold avroOf
  split
  · rw [fieldReferences, List.append_eq_nil_iff] at h
    exact passes_bind_pure (avro_passes _ _ h.1)
  · exact passes_bind_pure (avroFields_passes _ fields h)

theorem jsonSchemaOf_passes {fields : Fields} (h : fieldReferences fields = []) (unwrap : Bool) :
    PassesReferences (jsonSchemaOf fields unwrap) := by
  unfold jsonSchemaOf
  split
  · rw [fieldReferences, List.append_eq_nil_iff] at h
    exact passes_bind_pure (jsonSchema_passes _ h.1)
  · exact passes_bind_pure (jsonSchemaFields_passes 0 fields h)

theorem protobufOf_passes {fields : Fields} (h : fieldReferences fields = []) (unwrap : Bool) :
    PassesReferences (protobufOf fields unwrap) := by
  unfold protobufOf
  split
  · rintro format type ⟨⟩
  · exact passes_bind_pure (passes_bind_pure (protobufFields_passes 0 1 [] _ fields h))

theorem infer_passes {fields : Fields} (h : fieldReferences fields = []) (format : Format)
    (unwrap : Bool) (avroName : String) :
    PassesReferences (ValueSchema.infer format fields unwrap avroName) := by
  cases format with
  | avro => exact passes_bind_pure (avroOf_passes h unwrap avroName)
  | jsonSchema => exact passes_bind_pure (jsonSchemaOf_passes h unwrap)
  | protobuf => exact passes_bind_pure (protobufOf_passes h unwrap)
  | kafka | none | delimited | json => rintro format type ⟨⟩

end Schema

open Sql Sql.DataType Schema

def Noted.PassesReferences {α : Type} (x : Noted StatementError α) : Prop :=
  ∀ format type, x.result ≠ .error (.format (.schema (.unresolved format type)))

theorem Noted.passes_of_eq_ok {α : Type} {x : Noted StatementError α} {a : α}
    (h : x.result = .ok a) : x.PassesReferences := by
  intro format type herror
  rw [h] at herror
  cases herror

theorem Noted.passes_pure {α : Type} (a : α) : (pure a : Noted StatementError α).PassesReferences :=
  Noted.passes_of_eq_ok rfl

theorem Noted.passes_ofExcept {ε α : Type} {x : Except ε α} {restate : ε → StatementError}
    (h : ∀ error, x = .error error →
      ∀ format type, restate error ≠ .format (.schema (.unresolved format type))) :
    (Noted.ofExcept (x.mapError restate)).PassesReferences := by
  intro format type herror
  cases hx : x with
  | error error =>
    rw [hx] at herror
    exact h error hx format type (Except.error.inj herror)
  | ok a =>
    rw [hx] at herror
    cases herror

theorem Noted.passes_bind {α β : Type} {x : Noted StatementError α}
    {f : α → Noted StatementError β} (hx : x.PassesReferences)
    (hf : ∀ a, x.result = .ok a → (f a).PassesReferences) : (x >>= f).PassesReferences := by
  intro format type h
  rw [Noted.result_bind] at h
  cases hresult : x.result with
  | error error =>
    rw [hresult] at h
    exact hx format type (hresult.trans (congrArg Except.error (Except.error.inj h)))
  | ok a =>
    rw [hresult] at h
    exact hf a hresult format type h

theorem formatNamed_passes (name : Option String) : (formatNamed name).PassesReferences := by
  refine Noted.passes_ofExcept ?_
  rintro error - format type ⟨⟩

theorem valueSchema_passes (config : EngineConfig) {source : Source} (key value : Format)
    (h : fieldReferences (source.fields .value) = []) :
    (valueSchema config source key value).PassesReferences := by
  unfold valueSchema
  split
  · obtain ⟨options, hoptions, -⟩ := serdeOptions_result config source key value
    refine Noted.passes_bind (Noted.passes_of_eq_ok hoptions) fun options _ => ?_
    simp only
    split
    · exact Noted.passes_pure _
    · refine Noted.passes_bind (Noted.passes_ofExcept ?_) fun schema _ => Noted.passes_pure _
      rintro error herror format type ⟨⟩
      exact infer_passes h value _ _ format type herror
  · exact Noted.passes_pure _

theorem fields_withDefaultFormats {config : EngineConfig} {source found : Source}
    (h : config.withDefaultFormats source = .ok found) (part : RecordPart) :
    found.fields part = source.fields part := by
  obtain ⟨-, -, rfl⟩ := withDefaultFormats_eq_ok_iff.mp h
  rfl

theorem withDefaultFormats_ne_schema {config : EngineConfig} {source : Source} {error : FormatError}
    (h : config.withDefaultFormats source = .error error) (fault : SchemaError) :
    error ≠ .schema fault := by
  rcases EngineConfig.withDefaultFormats_eq_error_iff.mp h with ⟨rfl, -⟩ | ⟨rfl, -, -⟩ <;> rintro ⟨⟩

theorem topicOfSource_passes (config : EngineConfig) {source : Source}
    (h : fieldReferences (source.fields .value) = []) :
    (topicOfSource config source).PassesReferences := by
  unfold topicOfSource
  refine Noted.passes_bind (Noted.passes_ofExcept ?_) fun found hfound => ?_
  · rintro error herror format type ⟨⟩
    exact withDefaultFormats_ne_schema herror _ rfl
  have hfields := fields_withDefaultFormats (mapError_eq_ok.mp hfound) .value
  refine Noted.passes_bind (formatNamed_passes _) fun key _ => ?_
  refine Noted.passes_bind (formatNamed_passes _) fun value _ => ?_
  refine Noted.passes_bind (valueSchema_passes config key value (hfields ▸ h)) fun schema _ => ?_
  exact Noted.passes_pure _

theorem fieldReferences_eq_nil {fields : Fields} (h : ∀ field ∈ fields, field.2.references = []) :
    fieldReferences fields = [] := by
  induction fields with
  | nil => rfl
  | cons field rest ih =>
    obtain ⟨hfield, hrest⟩ := List.forall_mem_cons.mp h
    rw [fieldReferences, hfield, ih hrest]
    rfl

/-- A statement that is read against a closed catalog is not refused because of a reference. -/
theorem readStatement_passes (config : EngineConfig) {catalog : Catalog}
    (hclosed : catalog.IsClosed) (statement? : Option Statement) :
    (readStatement config catalog statement?).PassesReferences := by
  cases statement? with
  | none => exact Noted.passes_pure _
  | some statement =>
    refine Noted.passes_bind (Noted.passes_ofExcept ?_) fun found hfound => ?_
    · rintro name - format type ⟨⟩
    have hresolved := resolved_eq_ok_iff.mp hfound
    cases statement with
    | register registration =>
      obtain ⟨-, rfl⟩ := resolve_register_eq_ok_iff.mp hresolved
      exact Noted.passes_bind (Noted.passes_of_eq_ok (result_registered_register _ _))
        fun after _ => Noted.passes_pure _
    | create source =>
      obtain ⟨hbound, rfl⟩ := resolve_create_eq_ok_iff.mp hresolved
      have hfields : fieldReferences ((source.expand catalog.definition?).fields .value) = [] :=
        fieldReferences_eq_nil fun field hfield => references_of_mem_fields hclosed hbound hfield
      exact Noted.passes_bind (topicOfSource_passes config hfields) fun topic _ =>
        Noted.passes_pure _

theorem extract_passes {config : EngineConfig} {catalog : Catalog} {sql : String}
    {extraction : Extraction} (hclosed : catalog.IsClosed)
    (h : (extract config catalog sql).result = .ok extraction) (format : Format) (type : DataType) :
    extraction.outcome ≠ .unreadable (.format (.schema (.unresolved format type))) := by
  intro houtcome
  cases readAs_of_extract h with
  | unparsed _ | blank _ | silent _ _ | implied _ _ => cases houtcome
  | refused _ hread =>
    cases houtcome
    exact readStatement_passes config hclosed _ format type hread

end TopicPlan
