import TopicPlan.Proofs.Encodability
import TopicPlan.Proofs.Resolution
import TopicPlan.Proofs.UpperCase
import Mathlib.Control.Monad.Basic

/-! When a text yields a topic. Main statement: a text with one statement yields a topic exactly when it
declares a source whose types are known, whose formats are named, and whose value columns its value
format takes; what it says about wrapping single values never matters. -/
namespace TopicPlan
open Sql Sql.DataType Schema

/-- The name that a source gives in a property for formats, as it is written. -/
def Sql.Properties.formatText? (properties : Properties) : Property → Option String
  | .format => match properties.formats with
    | .shared name => some name
    | .separate _ _ => none
  | .keyFormat => match properties.formats with
    | .shared _ => none
    | .separate key _ => key
  | .valueFormat => match properties.formats with
    | .shared _ => none
    | .separate _ value => value
  | _ => none

/-- The first of some names that is there and not empty. -/
def firstGiven (names : List (Option String)) : String :=
  ((names.filterMap id).find? fun name => !name.isEmpty).getD ""

namespace EngineConfig

def keyFormatName (config : EngineConfig) (properties : Properties) : String :=
  firstGiven [properties.formatText? .keyFormat, properties.formatText? .format,
    some config.defaultKeyFormat]

def valueFormatName (config : EngineConfig) (properties : Properties) : String :=
  firstGiven [properties.formatText? .valueFormat, properties.formatText? .format,
    config.defaultValueFormat]

end EngineConfig

/-- A name, not empty, that reads as a format's in upper case. -/
def Format.IsNamedBy (format : Format) (name : String) : Prop :=
  name ≠ "" ∧ Text.upper name = format.name

theorem Format.name_ne_empty (format : Format) : format.name ≠ "" := by
  cases format <;> decide

theorem upper_empty : Text.upper "" = "" := by decide

theorem Format.isNamedBy_iff {format : Format} {name : String} :
    format.IsNamedBy name ↔ Text.upper name = format.name := by
  constructor
  · exact fun h => h.2
  · intro h
    refine ⟨?_, h⟩
    rintro rfl
    rw [upper_empty] at h
    exact format.name_ne_empty h.symm

theorem Format.ofName_eq_ok_iff {format : Format} {name : String} :
    Format.ofName name = .ok format ↔ Text.upper name = format.name := by
  unfold Format.ofName
  constructor
  · intro h
    cases hfind : Format.all.find? fun format => format.name = Text.upper name with
    | none =>
      rw [hfind] at h
      cases h
    | some found =>
      rw [hfind] at h
      cases h
      have hname := List.find?_some hfind
      exact (of_decide_eq_true hname).symm
  · intro h
    have hfind : (Format.all.find? fun format => format.name = Text.upper name) = some format := by
      rw [h]
      cases format <;> decide
    rw [hfind]

theorem firstGiven_cons (name : String) (names : List (Option String)) :
    firstGiven (some name :: names) = if name.isEmpty then firstGiven names else name := by
  unfold firstGiven
  by_cases h : name.isEmpty <;> simp [h]

theorem firstGiven_none (names : List (Option String)) :
    firstGiven (none :: names) = firstGiven names := rfl

theorem firstGiven_single (name : Option String) : firstGiven [name] = name.getD "" := by
  cases name with
  | none => rfl
  | some name =>
    rw [firstGiven_cons]
    by_cases h : name.isEmpty
    · rw [if_pos h, String.isEmpty_iff.mp h]
      rfl
    · rw [if_neg h]
      rfl

theorem upper_formatName_getD (name default : Option String) :
    Text.upper ((name.bind Properties.formatName?).getD (default.getD "")) =
      Text.upper (firstGiven [name, default]) := by
  cases name with
  | none => rw [firstGiven_none, firstGiven_single, Option.bind_none, Option.getD_none]
  | some name =>
    rw [firstGiven_cons, Option.bind_some, Properties.formatName?]
    by_cases h : name.isEmpty
    · rw [if_pos h, if_pos h, firstGiven_single, Option.getD_none]
    · rw [if_neg h, if_neg h, Option.getD_some, Text.upper_upper]

theorem upper_keyFormatName (config : EngineConfig) (properties : Properties) :
    Text.upper (properties.keyFormat?.getD config.defaultKeyFormat) =
      Text.upper (config.keyFormatName properties) := by
  unfold EngineConfig.keyFormatName Properties.keyFormat? Properties.formatText?
  cases properties.formats with
  | shared name => exact upper_formatName_getD (some name) (some config.defaultKeyFormat)
  | separate key value => exact upper_formatName_getD key (some config.defaultKeyFormat)

theorem upper_valueFormatName (config : EngineConfig) (properties : Properties) :
    Text.upper (properties.valueFormat?.getD (config.defaultValueFormat.getD "")) =
      Text.upper (config.valueFormatName properties) := by
  unfold EngineConfig.valueFormatName Properties.valueFormat? Properties.formatText?
  cases properties.formats with
  | shared name => exact upper_formatName_getD (some name) config.defaultValueFormat
  | separate key value => exact upper_formatName_getD value config.defaultValueFormat

theorem formatNamed_result_eq_ok_iff {name : Option String} {format : Format} :
    (formatNamed name).result = .ok format ↔ Text.upper (name.getD "") = format.name := by
  rw [← Format.ofName_eq_ok_iff]
  unfold formatNamed
  rw [Noted.result_ofExcept, mapError_eq_ok]

theorem formatNamed_upper {name : String} {format : Format} :
    (formatNamed (Properties.formatName? (Text.upper name))).result = .ok format ↔
      Text.upper name = format.name := by
  have hupper : Text.upper ((Properties.formatName? (Text.upper name)).getD "") =
      Text.upper name := by
    unfold Properties.formatName?
    by_cases h : (Text.upper name).isEmpty
    · rw [if_pos h, Option.getD_none, upper_empty, String.isEmpty_iff.mp h]
    · rw [if_neg h, Option.getD_some, Text.upper_upper, Text.upper_upper]
  rw [formatNamed_result_eq_ok_iff, hupper]

def Sql.Source.withFormats (source : Source) (key value : String) : Source :=
  { source with
    properties := source.properties.withFormats (Text.upper key) (Text.upper value) }

theorem keyFormat?_withFormats (source : Source) (key value : String) :
    (source.withFormats key value).properties.keyFormat? =
      Properties.formatName? (Text.upper key) := by
  simp only [Sql.Source.withFormats, Properties.withFormats, Properties.keyFormat?, Option.bind_some]

theorem valueFormat?_withFormats (source : Source) (key value : String) :
    (source.withFormats key value).properties.valueFormat? =
      Properties.formatName? (Text.upper value) := by
  simp only [Sql.Source.withFormats, Properties.withFormats, Properties.valueFormat?,
    Option.bind_some]

theorem valueSchema_withFormats (config : EngineConfig) (source : Source) (first second : String)
    (key value : Format) :
    valueSchema config (source.withFormats first second) key value =
      valueSchema config source key value := rfl

namespace EngineConfig

theorem keyFormat?_getD_eq_empty_iff (config : EngineConfig) (p : Properties) :
    p.keyFormat?.getD config.defaultKeyFormat = "" ↔ config.keyFormatName p = "" := by
  rw [← Text.upper_eq_empty_iff, upper_keyFormatName, Text.upper_eq_empty_iff]

theorem valueFormat?_getD_eq_empty_iff (config : EngineConfig) (p : Properties) :
    p.valueFormat?.getD (config.defaultValueFormat.getD "") = "" ↔ config.valueFormatName p = "" := by
  rw [← Text.upper_eq_empty_iff, upper_valueFormatName, Text.upper_eq_empty_iff]

/-- A source is completed with the names that count, of which there have to be two. -/
theorem withDefaultFormats_eq (config : EngineConfig) (source : Source) :
    config.withDefaultFormats source =
      if config.keyFormatName source.properties = "" then .error .keyFormatMissing
      else if config.valueFormatName source.properties = "" then .error .valueFormatMissing
      else .ok (source.withFormats (config.keyFormatName source.properties)
        (config.valueFormatName source.properties)) := by
  unfold withDefaultFormats Sql.Source.withFormats
  simp only [String.isEmpty_iff, keyFormat?_getD_eq_empty_iff, valueFormat?_getD_eq_empty_iff,
    upper_keyFormatName, upper_valueFormatName]

theorem withDefaultFormats_eq_error_iff {config : EngineConfig} {source : Source} {e : FormatError} :
    config.withDefaultFormats source = .error e ↔
      e = .keyFormatMissing ∧ config.keyFormatName source.properties = "" ∨
      e = .valueFormatMissing ∧ config.keyFormatName source.properties ≠ "" ∧
        config.valueFormatName source.properties = "" := by
  rw [withDefaultFormats_eq]
  by_cases hkey : config.keyFormatName source.properties = ""
  · simp [hkey, @eq_comm _ e]
  · by_cases hvalue : config.valueFormatName source.properties = ""
    · simp [hkey, hvalue, @eq_comm _ e]
    · simp [hkey, hvalue]

end EngineConfig

theorem withDefaultFormats_eq_ok_iff {config : EngineConfig} {source found : Source} :
    config.withDefaultFormats source = .ok found ↔
      config.keyFormatName source.properties ≠ "" ∧ config.valueFormatName source.properties ≠ "" ∧
        found = source.withFormats (config.keyFormatName source.properties)
          (config.valueFormatName source.properties) := by
  rw [EngineConfig.withDefaultFormats_eq]
  by_cases hkey : config.keyFormatName source.properties = ""
  · simp [hkey]
  · by_cases hvalue : config.valueFormatName source.properties = ""
    · simp [hkey, hvalue]
    · simp [hkey, hvalue, @eq_comm _ found]

theorem ne_empty_of_upper_eq_name {name : String} {format : Format}
    (h : Text.upper name = format.name) : name ≠ "" := (Format.isNamedBy_iff.mpr h).1

def Sql.Source.topicWith (source : Source) (schema : Option ValueSchema) : Topic where
  name := source.properties.topic
  partitions := (source.properties.partitions.map Int.ofNat).getD Topic.defaultCount
  replicas := (source.properties.replicas.map Int.ofNat).getD Topic.defaultCount
  schema := schema

/-- A source has a topic when its formats are named and its values have the schema they need. -/
theorem topicOfSource_eq_ok_iff {config : EngineConfig} {source : Source} {topic : Topic} :
    (topicOfSource config source).result = .ok topic ↔
      ∃ (key value : Format) (schema : Option ValueSchema),
        key.IsNamedBy (config.keyFormatName source.properties) ∧
        value.IsNamedBy (config.valueFormatName source.properties) ∧
        (valueSchema config source key value).result = .ok schema ∧
        topic = source.topicWith schema := by
  simp only [Format.isNamedBy_iff]
  unfold topicOfSource
  simp only [Noted.bind_eq_ok, Noted.result_ofExcept, Noted.result_pure, mapError_eq_ok]
  constructor
  · rintro ⟨found, hfound, key, hkey, value, hvalue, schema, hschema, htopic⟩
    obtain ⟨-, -, rfl⟩ := withDefaultFormats_eq_ok_iff.mp hfound
    rw [keyFormat?_withFormats, formatNamed_upper] at hkey
    rw [valueFormat?_withFormats, formatNamed_upper] at hvalue
    rw [valueSchema_withFormats] at hschema
    exact ⟨key, value, schema, hkey, hvalue, hschema, (Except.ok.inj htopic).symm⟩
  · rintro ⟨key, value, schema, hkey, hvalue, hschema, rfl⟩
    have hfound := withDefaultFormats_eq_ok_iff.mpr
      ⟨ne_empty_of_upper_eq_name hkey, ne_empty_of_upper_eq_name hvalue, rfl⟩
    refine ⟨_, hfound, key, ?_, value, ?_, schema, ?_, rfl⟩
    · rw [keyFormat?_withFormats, formatNamed_upper]
      exact hkey
    · rw [valueFormat?_withFormats, formatNamed_upper]
      exact hvalue
    · rw [valueSchema_withFormats]
      exact hschema

/-- What is said about wrapping asks for single values without their record: the source does, or else
the configuration. -/
def AsksBare (requested configured : Option Bool) : Prop :=
  requested = some false ∨ requested = none ∧ configured = some false

instance (requested configured : Option Bool) : Decidable (AsksBare requested configured) :=
  inferInstanceAs (Decidable (_ ∨ _ ∧ _))

theorem valueFeature_eq_unwrap_iff {count : Nat} {format : Format}
    {requested configured : Option Bool} :
    SerdeOptions.valueFeature count format requested configured =
        .ok (some .unwrapSingleValues) ↔
      count = 1 ∧ format.unwraps = true ∧ AsksBare requested configured := by
  have hwraps : format.unwraps = true → format.wraps = true := by
    cases format <;> decide
  unfold SerdeOptions.valueFeature AsksBare
  by_cases hcount : count = 1
  · by_cases hunwraps : format.unwraps = true
    · rcases requested with _ | _ | _ <;> simp [hcount, hunwraps, hwraps hunwraps]
    · cases format.wraps <;> rcases requested with _ | _ | _ <;> simp [hcount, hunwraps]
  · rcases requested with _ | wrap <;> simp [hcount]

def LeavesBare (config : EngineConfig) (source : Source) (value : Format) : Prop :=
  (source.fields .value).length = 1 ∧ value.unwraps = true ∧
    AsksBare source.properties.wrapSingleValue config.wrapSingleValues

instance (config : EngineConfig) (source : Source) (value : Format) :
    Decidable (LeavesBare config source value) := inferInstanceAs (Decidable (_ ∧ _ ∧ _))

/-- There always are options for writing values: what cannot be had is left out of them. -/
theorem serdeOptions_result (config : EngineConfig) (source : Source) (key value : Format) :
    ∃ options : SerdeOptions, (serdeOptions config source key value).result = .ok options ∧
      (options.value == some .unwrapSingleValues) = decide (LeavesBare config source value) := by
  have hiff := @valueFeature_eq_unwrap_iff (source.fields .value).length value
    source.properties.wrapSingleValue config.wrapSingleValues
  unfold serdeOptions SerdeOptions.forSource
  simp only
  cases hfeature : SerdeOptions.valueFeature (source.fields .value).length value
      source.properties.wrapSingleValue config.wrapSingleValues with
  | error error =>
    refine ⟨⟨none, none⟩, rfl, ?_⟩
    rw [hfeature] at hiff
    have hnot : ¬LeavesBare config source value := fun h => by cases hiff.mpr h
    rw [decide_eq_false hnot]
    rfl
  | ok feature =>
    refine ⟨⟨_, feature⟩, rfl, ?_⟩
    rw [hfeature, Except.ok.injEq] at hiff
    rw [Bool.eq_iff_iff, beq_iff_eq, decide_eq_true_iff]
    exact hiff

def Sql.Source.avroName (source : Source) : String :=
  (source.properties.freeText? .avroSchemaFullName).getD defaultAvroName

theorem valueSchema_eq (config : EngineConfig) (source : Source) (key value : Format) :
    (valueSchema config source key value).result =
      if value.infersSchema = true ∧ source.fields .value ≠ [] then
        ((ValueSchema.infer value (source.fields .value) (decide (LeavesBare config source value))
          source.avroName).mapError fun error => StatementError.format (.schema error)).map some
      else .ok none := by
  unfold valueSchema
  by_cases hinfers : value.infersSchema = true
  · obtain ⟨options, hoptions, hunwrap⟩ := serdeOptions_result config source key value
    rw [if_pos hinfers, Noted.result_bind, hoptions]
    simp only [Except.bind, hunwrap]
    by_cases hfields : source.fields .value = []
    · simp [hfields]
    · have hempty : (source.fields .value).isEmpty = false := by simpa using hfields
      rw [hempty, if_neg Bool.false_ne_true, if_pos ⟨hinfers, hfields⟩, Noted.result_map,
        Noted.result_ofExcept]
      rfl
  · simp [hinfers]

/-- A source has the schema that its values need when its value format takes its value columns, and
has one at all when the format has schemas and there are such columns. -/
theorem valueSchema_result (config : EngineConfig) (source : Source) (key value : Format) :
    (Succeeds (valueSchema config source key value).result ↔
      (value.infersSchema = true → FieldsEncodable value (source.fields .value))) ∧
    ∀ schema, (valueSchema config source key value).result = .ok schema →
      (schema.isSome ↔ value.infersSchema = true ∧ source.fields .value ≠ []) := by
  rw [valueSchema_eq]
  split
  · next h =>
    have hprotobuf : value = .protobuf → decide (LeavesBare config source value) = false := by
      rintro rfl
      exact decide_eq_false fun hbare => Bool.false_ne_true hbare.2.1
    have hinfer := infer_succeeds_iff h.1 (source.fields .value) hprotobuf source.avroName
    rw [succeeds_map, succeeds_mapError, hinfer]
    refine ⟨⟨fun hfields _ => hfields, fun hfields => hfields h.1⟩, ?_⟩
    intro schema hschema
    obtain ⟨found, -, rfl⟩ := map_eq_ok.mp hschema
    exact iff_of_true rfl h
  · next h =>
    refine ⟨iff_of_true (succeeds_ok _) ?_, ?_⟩
    · intro hinfers
      have hnone : source.fields .value = [] := by
        by_contra hfields
        exact h ⟨hinfers, hfields⟩
      rw [hnone]
      exact fieldsEncodable_nil
    · intro schema hschema
      cases hschema
      exact iff_of_false (by simp) h

theorem infer_of_valueSchema {config : EngineConfig} {source : Source} {key value : Format}
    {schema : ValueSchema} (h : (valueSchema config source key value).result = .ok (some schema)) :
    ∃ options, (serdeOptions config source key value).result = .ok options ∧
      ValueSchema.infer value (source.fields .value) (options.value == some .unwrapSingleValues)
        ((source.properties.freeText? .avroSchemaFullName).getD defaultAvroName) = .ok schema := by
  obtain ⟨options, hoptions, hbare⟩ := serdeOptions_result config source key value
  rw [valueSchema_eq, ← hbare] at h
  split at h
  · obtain ⟨found, hfound, hsome⟩ := map_eq_ok.mp h
    cases hsome
    exact ⟨options, hoptions, mapError_eq_ok.mp hfound⟩
  · cases h

theorem topicOfSource_succeeds_iff {config : EngineConfig} {source : Source} :
    Succeeds (topicOfSource config source).result ↔ ∃ key value : Format,
      key.IsNamedBy (config.keyFormatName source.properties) ∧
      value.IsNamedBy (config.valueFormatName source.properties) ∧
      (value.infersSchema = true → FieldsEncodable value (source.fields .value)) := by
  constructor
  · rintro ⟨topic, htopic⟩
    obtain ⟨key, value, schema, hkey, hvalue, hschema, -⟩ := topicOfSource_eq_ok_iff.mp htopic
    have hfields := (valueSchema_result config source key value).1.mp ⟨schema, hschema⟩
    exact ⟨key, value, hkey, hvalue, hfields⟩
  · rintro ⟨key, value, hkey, hvalue, hfields⟩
    obtain ⟨schema, hschema⟩ := (valueSchema_result config source key value).1.mpr hfields
    exact ⟨_, topicOfSource_eq_ok_iff.mpr ⟨key, value, schema, hkey, hvalue, hschema, rfl⟩⟩

def Finds (config : EngineConfig) (catalog : Catalog) (sql : String) (topic : Topic) : Prop :=
  ∃ after, (extract config catalog sql).result = .ok ⟨.topic topic, after⟩

theorem parse_single {sql : String} {lexemes chunk : List Lexeme}
    (hlex : lex sql.toList = .ok lexemes) (hone : statementsOf lexemes = [chunk]) :
    parse sql = (parseStatement sql.toList chunk).map ([·]) := by
  have hchunks : parse sql = [chunk].mapM (parseStatement sql.toList) := by
    simp only [parse, hlex, hone]
  rw [hchunks]
  cases hread : parseStatement sql.toList chunk with
  | error error => simp [hread, Except.map, bind, Except.bind]
  | ok parsed => simp [hread, Except.map, bind, Except.bind, pure, Except.pure]

theorem statement_of_mem_parse {sql : String} {statements : List ParsedStatement}
    (h : parse sql = .ok statements) {parsed : ParsedStatement} (hmem : parsed ∈ statements) :
    ∃ tokens, statement tokens = .ok parsed.statement? := by
  unfold parse at h
  split at h
  · cases h
  have hread := forall₂_of_mapM h
  clear h
  generalize statementsOf _ = chunks at hread
  induction hread with
  | nil => cases hmem
  | @cons chunk first _ _ hfirst _ ih =>
    rcases List.mem_cons.mp hmem with rfl | hrest
    · unfold parseStatement at hfirst
      split at hfirst
      · next statement? hstatement =>
        cases hfirst
        exact ⟨reducedTokens chunk, hstatement⟩
      · cases hfirst
    · exact ih hrest

theorem statement_of_parse {sql : String} {parsed : ParsedStatement} (h : parse sql = .ok [parsed]) :
    ∃ tokens, statement tokens = .ok parsed.statement? :=
  statement_of_mem_parse h List.mem_cons_self

/-- A topic that a text yields is that of a source which the text declares, expanded. -/
theorem source_of_finds {config : EngineConfig} {catalog : Catalog} {sql : String} {topic : Topic}
    (h : Finds config catalog sql topic) :
    ∃ parsed source, parse sql = .ok [parsed] ∧ parsed.statement? = some (.create source) ∧
      (∃ tokens, statement tokens = .ok (some (.create source))) ∧
      (topicOfSource config (source.expand catalog.definition?)).result = .ok topic := by
  obtain ⟨after, hresult⟩ := h
  cases readAs_of_extract hresult with
  | implied hparse hread =>
    next parsed =>
    obtain ⟨source, hsource, -, -, htopic⟩ := readStatement_topic.mp hread
    obtain ⟨tokens, htokens⟩ := statement_of_parse hparse
    exact ⟨parsed, source, hparse, hsource, ⟨tokens, hsource ▸ htokens⟩, htopic⟩

theorem not_finds_of_error {config : EngineConfig} {catalog : Catalog} {sql : String}
    {error : ScriptError} (h : parse sql = .error error) (topic : Topic) :
    ¬Finds config catalog sql topic := by
  rintro ⟨after, hresult⟩
  rw [extract_unparsed h, unparsed.eq_def] at hresult
  split at hresult <;> cases hresult

theorem finds_iff {config : EngineConfig} {catalog : Catalog} {sql : String}
    {lexemes chunk : List Lexeme} (hlex : lex sql.toList = .ok lexemes)
    (hone : statementsOf lexemes = [chunk]) {topic : Topic} :
    Finds config catalog sql topic ↔ ∃ source,
      statement (reducedTokens chunk) = .ok (some (.create source)) ∧
      Bound catalog.definition? source.references ∧
      (topicOfSource config (source.expand catalog.definition?)).result = .ok topic := by
  have hparse := parse_single hlex hone
  unfold parseStatement at hparse
  cases hstatement : statement (reducedTokens chunk) with
  | error fault =>
    rw [hstatement] at hparse
    refine iff_of_false (not_finds_of_error hparse topic) ?_
    rintro ⟨source, h, -⟩
    cases h
  | ok statement? =>
    rw [hstatement] at hparse
    have hextract : Finds config catalog sql topic ↔ ∃ after,
        (readStatement config catalog statement?).result = .ok (some topic, after) := by
      unfold Finds
      rw [extract_single hparse]
      refine exists_congr fun after => ?_
      rcases (readStatement config catalog statement?).result with error | ⟨_ | found, left⟩ <;>
        simp
    rw [hextract]
    constructor
    · rintro ⟨after, hread⟩
      obtain ⟨source, rfl, hbound, -, htopic⟩ := readStatement_topic.mp hread
      exact ⟨source, rfl, hbound, htopic⟩
    · rintro ⟨source, hsource, hbound, htopic⟩
      cases hsource
      exact ⟨catalog, readStatement_topic.mpr ⟨source, rfl, hbound, rfl, htopic⟩⟩

/-- What a source needs to have a topic: its types are known, its formats are named, and the format
of its values takes all parts of its value columns. -/
structure Suits (config : EngineConfig) (catalog : Catalog) (source : Source) (value : Format) :
    Prop where
  bound : Bound catalog.definition? source.references
  keyNamed : ∃ key : Format, key.IsNamedBy (config.keyFormatName source.properties)
  valueNamed : value.IsNamedBy (config.valueFormatName source.properties)
  admitted : ∀ field ∈ (source.expand catalog.definition?).fields .value,
    ∀ part ∈ field.2.parts, Admits value part

theorem fields_expand (definition? : String → Option DataType) (source : Source)
    (part : RecordPart) :
    (source.expand definition?).fields part =
      (source.fields part).map fun field => (field.1, field.2.expand definition?) := by
  unfold Source.fields Source.expand
  rw [List.filter_map, List.map_map, List.map_map]
  rfl

theorem references_of_mem_fields {catalog : Catalog} (hclosed : catalog.IsClosed) {source : Source}
    (hbound : Bound catalog.definition? source.references) {part : RecordPart}
    {field : String × DataType} (h : field ∈ (source.expand catalog.definition?).fields part) :
    field.2.references = [] := by
  rw [fields_expand] at h
  obtain ⟨⟨name, type⟩, hfield, rfl⟩ := List.mem_map.mp h
  obtain ⟨column, hcolumn, hname⟩ := List.mem_map.mp hfield
  cases hname
  refine references_expand hclosed column.type fun name hname => hbound name ?_
  exact List.mem_flatMap.mpr ⟨column, (List.mem_filter.mp hcolumn).1, hname⟩

theorem schemas_iff {format : Format} : format.infersSchema = true ↔
    format = .avro ∨ format = .jsonSchema ∨ format = .protobuf := by
  cases format <;> simp [Format.infersSchema, Format.schemaKind?]

theorem admits_of_not_infersSchema {format : Format} (h : format.infersSchema ≠ true)
    (type : DataType) : Admits format type := by
  cases format <;> trivial

theorem isNamedBy_unique {first second : Format} {name : String} (hfirst : first.IsNamedBy name)
    (hsecond : second.IsNamedBy name) : first = second :=
  Format.name_injective (hfirst.2.symm.trans hsecond.2)

theorem valueSchema_succeeds_iff {config : EngineConfig} {catalog : Catalog}
    (hclosed : catalog.IsClosed) {source : Source}
    (hbound : Bound catalog.definition? source.references) {key value : Format} :
    Succeeds (valueSchema config (source.expand catalog.definition?) key value).result ↔
      ∀ field ∈ (source.expand catalog.definition?).fields .value,
        ∀ part ∈ field.2.parts, Admits value part := by
  rw [(valueSchema_result config _ key value).1, fieldsEncodable_iff]
  constructor
  · intro h field hfield part hpart
    by_cases hinfers : value.infersSchema = true
    · exact (h hinfers field hfield).admitted part hpart
    · exact admits_of_not_infersSchema hinfers part
  · intro h _ field hfield
    exact ⟨references_of_mem_fields hclosed hbound hfield, h field hfield⟩

def streamIn (value : Format) (columns : List Column) : Source :=
  ⟨.stream, "S", columns, ⟨"t", .separate none (some value.name), none, none, none, []⟩, false, false,
    false⟩

theorem streamIn_found {value : Format} {sql : String} {columns : List Column}
    {schema : Option ValueSchema}
    (hsql : (parse sql).map (·.map (·.statement?)) = .ok [some (.create (streamIn value columns))])
    (hreferences : (streamIn value columns).references = [])
    (hschema : (valueSchema .standard ((streamIn value columns).expand Catalog.empty.definition?)
      .kafka value).result = .ok schema) :
    Finds .standard .empty sql ⟨"t", 1, 1, schema⟩ := by
  obtain ⟨statements, hparse, hstatements⟩ := map_eq_ok.mp hsql
  obtain ⟨parsed, rfl, hstatement⟩ := List.map_eq_singleton_iff.mp hstatements
  have hkey : Format.kafka.IsNamedBy "KAFKA" := Format.isNamedBy_iff.mpr (by decide +kernel)
  have hname : EngineConfig.standard.valueFormatName (streamIn value columns).properties =
      value.name := by
    show firstGiven [some value.name, none, none] = value.name
    rw [firstGiven_cons, if_neg (mt String.isEmpty_iff.mp value.name_ne_empty)]
  have hvalue : value.IsNamedBy
      (EngineConfig.standard.valueFormatName (streamIn value columns).properties) := by
    rw [hname, Format.isNamedBy_iff]
    cases value <;> decide +kernel
  have htopic : (topicOfSource .standard
      ((streamIn value columns).expand Catalog.empty.definition?)).result = .ok ⟨"t", 1, 1, schema⟩ :=
    topicOfSource_eq_ok_iff.mpr ⟨.kafka, value, schema, hkey, hvalue, hschema, rfl⟩
  have hbound : Bound Catalog.empty.definition? (streamIn value columns).references := by
    rw [hreferences]
    exact List.forall_mem_nil _
  have hread := readStatement_create.mpr ⟨hbound, rfl, _, rfl, htopic⟩
  refine ⟨.empty, ?_⟩
  rw [extract_single hparse, hstatement, hread]

/-- A text with one statement, read against any catalog that reading leaves, yields a topic exactly
when the statement declares a source that suits; the topic is the one the source names, with the
declared counts or one, and has a schema when its format has schemas and there are value columns. What
is asked for about wrapping single values changes nothing in this. -/
theorem topic_found_iff {config : EngineConfig} {catalog : Catalog} {sql : String}
    {lexemes chunk : List Lexeme} (hcatalog : Reachable catalog)
    (hlex : lex sql.toList = .ok lexemes) (hone : statementsOf lexemes = [chunk]) :
    ((∃ topic, Finds config catalog sql topic) ↔ ∃ source value,
      statement (reducedTokens chunk) = .ok (some (.create source)) ∧
      Suits config catalog source value) ∧
    (∀ (topic : Topic) (source : Source) (value : Format), Finds config catalog sql topic →
      statement (reducedTokens chunk) = .ok (some (.create source)) →
      value.IsNamedBy (config.valueFormatName source.properties) →
        topic.name = source.properties.topic ∧
        topic.partitions = (source.properties.partitions.map Int.ofNat).getD 1 ∧
        topic.replicas = (source.properties.replicas.map Int.ofNat).getD 1 ∧
        (topic.schema.isSome ↔ (value = .avro ∨ value = .jsonSchema ∨ value = .protobuf) ∧
          source.fields .value ≠ [])) ∧
    ∀ (source : Source) (wrap : Option Bool),
      Succeeds (topicOfSource config
        { source with properties := { source.properties with wrapSingleValue := wrap } }).result ↔
      Succeeds (topicOfSource config source).result := by
  have hclosed := hcatalog.isClosed
  refine ⟨⟨?_, ?_⟩, ?_, ?_⟩
  · rintro ⟨topic, hfinds⟩
    obtain ⟨source, hsource, hbound, htopic⟩ := (finds_iff hlex hone).mp hfinds
    obtain ⟨key, value, schema, hkey, hvalue, hschema, -⟩ := topicOfSource_eq_ok_iff.mp htopic
    have hadmitted := (valueSchema_succeeds_iff hclosed hbound).mp ⟨schema, hschema⟩
    exact ⟨source, value, hsource, hbound, ⟨key, hkey⟩, hvalue, hadmitted⟩
  · rintro ⟨source, value, hsource, hbound, ⟨key, hkey⟩, hvalue, hadmitted⟩
    have hsucceeds : Succeeds
        (valueSchema config (source.expand catalog.definition?) key value).result :=
      (valueSchema_succeeds_iff hclosed hbound).mpr hadmitted
    obtain ⟨schema, hschema⟩ := hsucceeds
    have htopic : (topicOfSource config (source.expand catalog.definition?)).result =
        .ok ((source.expand catalog.definition?).topicWith schema) :=
      topicOfSource_eq_ok_iff.mpr ⟨key, value, schema, hkey, hvalue, hschema, rfl⟩
    exact ⟨_, (finds_iff hlex hone).mpr ⟨source, hsource, hbound, htopic⟩⟩
  · intro topic source value hfinds hsource hvalue
    obtain ⟨other, hother, hbound, htopic⟩ := (finds_iff hlex hone).mp hfinds
    rw [hsource] at hother
    cases hother
    obtain ⟨key, found, schema, -, hfound, hschema, rfl⟩ := topicOfSource_eq_ok_iff.mp htopic
    obtain rfl := isNamedBy_unique hvalue hfound
    refine ⟨rfl, rfl, rfl, ?_⟩
    rw [← schemas_iff]
    have hsome := (valueSchema_result config _ key value).2 schema hschema
    rw [fields_expand, ne_eq, List.map_eq_nil_iff] at hsome
    exact hsome
  · intro source wrap
    rw [topicOfSource_succeeds_iff, topicOfSource_succeeds_iff]
    rfl

/-- A stream whose only value column is a map with string keys, with a JSON schema for its values. -/
theorem topic_found_map : ∃ lexemes chunk,
    lex "CREATE STREAM S (V MAP<STRING, INT>) WITH (kafka_topic='t', format='json_sr')".toList =
      .ok lexemes ∧ statementsOf lexemes = [chunk] ∧ Reachable .empty ∧
    ∃ topic, Finds .standard .empty
      "CREATE STREAM S (V MAP<STRING, INT>) WITH (kafka_topic='t', format='json_sr')" topic ∧
      topic.name = "t" ∧ topic.schema.isSome := by
  let source : Source := ⟨.stream, "S", [⟨"V", .map (.base .string) (.base .integer), .none⟩],
    ⟨"t", .shared "json_sr", none, none, none, []⟩, false, false, false⟩
  have hread : (lex
      "CREATE STREAM S (V MAP<STRING, INT>) WITH (kafka_topic='t', format='json_sr')".toList).map
      (fun lexemes => (statementsOf lexemes).map fun chunk => statement (reducedTokens chunk)) =
      .ok [.ok (some (.create source))] := by decide +kernel
  obtain ⟨lexemes, hlex, hchunks⟩ := map_eq_ok.mp hread
  obtain ⟨chunk, hone, hstatement⟩ := List.map_eq_singleton_iff.mp hchunks
  have hnamed : Format.jsonSchema.IsNamedBy "json_sr" := by
    refine Format.isNamedBy_iff.mpr ?_
    decide +kernel
  have hsuits : Suits .standard .empty source .jsonSchema := by
    have hfields : (source.expand Catalog.empty.definition?).fields .value =
        [("V", .map (.base .string) (.base .integer))] := rfl
    refine ⟨by simp [Source.references, source, references], ⟨.jsonSchema, hnamed⟩, hnamed, ?_⟩
    rw [hfields]
    simp [parts, Admits]
  obtain ⟨hfound, hdetails, -⟩ := @topic_found_iff .standard .empty _ _ _ .empty hlex hone
  obtain ⟨topic, htopic⟩ := hfound.mpr ⟨source, .jsonSchema, hstatement, hsuits⟩
  obtain ⟨hname, -, -, hschema⟩ := hdetails topic source .jsonSchema htopic hstatement hnamed
  refine ⟨lexemes, chunk, hlex, hone, .empty, topic, htopic, hname, hschema.mpr ⟨by simp, ?_⟩⟩
  simp [source, Source.fields, Column.part, Constraint.part]

end TopicPlan
