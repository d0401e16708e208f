import TopicPlan.EngineConfig
import TopicPlan.Notice
import TopicPlan.Sql.Catalog
import TopicPlan.Topic.Basic

/-!
The topic that a statement implies. A source declaration implies the topic it reads, with the schema
of its value columns where the value format has schemas; a type registration implies no topic but
extends the catalog for the statements after it.
-/

namespace TopicPlan

open Sql (Catalog Source Statement)

namespace EngineConfig

/-- The source with both formats named: those it names itself, or else the configured ones. -/
def withDefaultFormats (config : EngineConfig) (source : Source) : Except FormatError Source :=
  let key := source.properties.keyFormat?.getD config.defaultKeyFormat
  let value := source.properties.valueFormat?.getD (config.defaultValueFormat.getD "")
  if key.isEmpty then .error .keyFormatMissing
  else if value.isEmpty then .error .valueFormatMissing
  else .ok { source with
    properties := source.properties.withFormats (Text.upper key) (Text.upper value) }

def withDefaultFormatsIn (config : EngineConfig) : Statement → Except FormatError Statement
  | .register registration => .ok (.register registration)
  | .create source => (config.withDefaultFormats source).map .create

end EngineConfig

inductive Outcome where
  | topic (topic : Topic)
  | nothing
  | unreadable (error : StatementError)
deriving DecidableEq, Repr

def Outcome.topic? : Outcome → Option Topic
  | .topic found => some found
  | .nothing | .unreadable _ => none

inductive ExtractionError where
  | severalStatements (sql : String)
  | numeralTooLong (digits : Nat)
deriving DecidableEq, Repr

def ExtractionError.message : ExtractionError → String
  | .severalStatements sql => s!"SQL contains more than one statement: {sql}"
  | .numeralTooLong digits => Text.tooLongMessage digits

/-- How the keys and values of a source are written, as far as the statement can have its way; what
it asks for in vain is noted and left out. -/
def serdeOptions (config : EngineConfig) (source : Source) (key value : Format) :
    Noted StatementError SerdeOptions :=
  let options := SerdeOptions.forSource (source.fields .key).length (source.fields .value).length
    key value source.properties.wrapSingleValue config.wrapSingleValues
  match options with
  | .ok options => pure options
  | .error error => do
    Noted.note (.serdeOptionsIgnored source.name error)
    return ⟨none, none⟩

/-- The schema of the values of a source. Formats without schemas have none, and neither has a
source without value columns. -/
def valueSchema (config : EngineConfig) (source : Source) (key value : Format) :
    Noted StatementError (Option Schema.ValueSchema) :=
  if value.infersSchema then do
    let options ← serdeOptions config source key value
    let fields := source.fields .value
    if fields.isEmpty then return none
    else
      let avroName := (source.properties.freeText? .avroSchemaFullName).getD Schema.defaultAvroName
      let schema := Schema.ValueSchema.infer value fields
        (options.value == some .unwrapSingleValues) avroName
      (some ·) <$> Noted.ofExcept (schema.mapError fun e => .format (.schema e))
  else pure none

def formatNamed (name : Option String) : Noted StatementError Format :=
  Noted.ofExcept ((Format.ofName (name.getD "")).mapError fun e => .format (.unknown e))

def topicOfSource (config : EngineConfig) (source : Source) : Noted StatementError Topic := do
  let source ← Noted.ofExcept ((config.withDefaultFormats source).mapError .format)
  let properties := source.properties
  let key ← formatNamed properties.keyFormat?
  let value ← formatNamed properties.valueFormat?
  let schema ← valueSchema config source key value
  return {
    name := properties.topic
    partitions := (properties.partitions.map Int.ofNat).getD Topic.defaultCount
    replicas := (properties.replicas.map Int.ofNat).getD Topic.defaultCount
    schema }

def resolved (catalog : Catalog) (statement : Statement) : Except StatementError Statement :=
  (statement.resolve catalog.definition?).mapError .unresolvedType

inductive PreparationError where
  /-- The statement is kept as text only. -/
  | unread
  | statement (error : StatementError)
deriving DecidableEq, Repr

def PreparationError.message : PreparationError → String
  | .unread => "Statement of kind other cannot be prepared"
  | .statement error => error.message

/-- A statement as it stands in a text, with its types replaced by what a catalog knows of them. -/
def prepare (catalog : Catalog) (parsed : Sql.ParsedStatement) :
    Except PreparationError Sql.PreparedStatement :=
  match parsed.statement? with
  | none => .error .unread
  | some statement => do
    return ⟨parsed.text, ← (resolved catalog statement).mapError .statement⟩

/-- The catalog after a resolved statement, with a notice where a known type changes. -/
def registered (catalog : Catalog) (statement : Statement) : Noted ε Catalog :=
  match statement with
  | .register registration => do
    if (catalog.definition? registration.name).isSome then
      Noted.note (.typeReplaced registration.name)
    return catalog.apply statement
  | .create _ => pure catalog

def readStatement (config : EngineConfig) (catalog : Catalog) :
    Option Statement → Noted StatementError (Option Topic × Catalog)
  | none => pure (none, catalog)
  | some statement => do
    let statement ← Noted.ofExcept (resolved catalog statement)
    match statement with
    | .register _ => return (none, ← registered catalog statement)
    | .create source => return (some (← topicOfSource config source), catalog)

structure Extraction where
  outcome : Outcome
  catalog : Catalog
deriving DecidableEq, Repr

/-- A text that cannot be read changes nothing. -/
def unread (catalog : Catalog) (sql : String) (error : StatementError) : Noted ε Extraction := do
  Noted.note (.statementUnread sql error)
  return ⟨.unreadable error, catalog⟩

def extract (config : EngineConfig) (catalog : Catalog) (sql : String) :
    Noted ExtractionError Extraction :=
  match Sql.parse sql with
  | .error (.malformed (.numeralTooLong digits) _) => Noted.throw (.numeralTooLong digits)
  | .error error => unread catalog sql (.script error)
  | .ok [] => pure ⟨.nothing, catalog⟩
  | .ok [parsed] =>
    let reading := readStatement config catalog parsed.statement?
    match reading.result with
    | .ok (some topic, catalog) => ⟨reading.notices, .ok ⟨.topic topic, catalog⟩⟩
    | .ok (none, catalog) => ⟨reading.notices, .ok ⟨.nothing, catalog⟩⟩
    | .error error =>
      let after : Noted ExtractionError Extraction := unread catalog sql error
      ⟨reading.notices ++ after.notices, after.result⟩
  | .ok (_ :: _ :: _) => Noted.throw (.severalStatements sql)

end TopicPlan
