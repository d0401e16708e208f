import TopicPlan.Sql.Literal
import TopicPlan.OrderedMap
import TopicPlan.Text.Case
import TopicPlan.Text.Codes

/-!
The properties of a source: which topic it reads, how many partitions and replicas the topic has,
and in which formats keys and values are written. `ofLiterals` validates the literals of a `WITH`
clause; `entries` is the view of validated properties as such literals again.
-/

namespace TopicPlan.Sql

/-- Properties that are kept as they are written. -/
inductive FreeProperty where
  | avroSchemaFullName
  | valueDelimiter
  | timestamp
  | timestampFormat
  | keySchemaId
  | valueSchemaId
  | keyDelimiter
  | windowType
  | windowSize
deriving DecidableEq, Repr

inductive Property where
  | kafkaTopic
  | keyFormat
  | valueFormat
  | format
  | partitions
  | replicas
  | wrapSingleValue
  | free (property : FreeProperty)
deriving DecidableEq, Repr

namespace Property

def name : Property → String
  | .kafkaTopic => "KAFKA_TOPIC"
  | .keyFormat => "KEY_FORMAT"
  | .valueFormat => "VALUE_FORMAT"
  | .format => "FORMAT"
  | .partitions => "PARTITIONS"
  | .replicas => "REPLICAS"
  | .wrapSingleValue => "WRAP_SINGLE_VALUE"
  | .free .avroSchemaFullName => "VALUE_AVRO_SCHEMA_FULL_NAME"
  | .free .valueDelimiter => "VALUE_DELIMITER"
  | .free .timestamp => "TIMESTAMP"
  | .free .timestampFormat => "TIMESTAMP_FORMAT"
  | .free .keySchemaId => "KEY_SCHEMA_ID"
  | .free .valueSchemaId => "VALUE_SCHEMA_ID"
  | .free .keyDelimiter => "KEY_DELIMITER"
  | .free .windowType => "WINDOW_TYPE"
  | .free .windowSize => "WINDOW_SIZE"

def all : List Property :=
  [.kafkaTopic, .keyFormat, .valueFormat, .format, .partitions, .replicas, .wrapSingleValue,
    .free .avroSchemaFullName, .free .valueDelimiter, .free .timestamp, .free .timestampFormat,
    .free .keySchemaId, .free .valueSchemaId, .free .keyDelimiter, .free .windowType,
    .free .windowSize]

def ofName? (name : String) : Option Property := all.find? fun property => property.name = name

theorem ofName?_name (property : Property) : ofName? property.name = some property := by
  rcases property with _ | _ | _ | _ | _ | _ | _ | (_ | _ | _ | _ | _ | _ | _ | _ | _) <;> decide

theorem name_of_ofName? {name : String} {property : Property} (h : ofName? name = some property) :
    property.name = name := by
  simpa using List.find?_some h

end Property

/-- The formats of a source: one for keys and values alike, or one for each where it is given. -/
inductive Formats where
  | shared (name : String)
  | separate (key value : Option String)
deriving DecidableEq, Repr

structure Properties where
  topic : String
  formats : Formats
  partitions : Option Nat
  replicas : Option Nat
  wrapSingleValue : Option Bool
  free : List (FreeProperty × Literal)
deriving DecidableEq, Repr

inductive PropertyError where
  | unknown (names : List String)
  | topicMissing
  | formatsConflict
  | notText (property : Property) (value : Literal)
  | notCount (property : Property) (value : Literal)
  | notPositive (property : Property) (value : Literal)
  | notBoolean (property : Property) (value : Literal)
deriving DecidableEq, Repr

def PropertyError.message : PropertyError → String
  | .unknown names =>
    "Invalid config variable(s) in the WITH clause: " ++ ",".intercalate names
  | .topicMissing =>
    s!"Missing required property \"{Property.kafkaTopic.name}\" which has no default value."
  | .formatsConflict =>
    s!"Cannot supply both '{Property.format.name}' and '{Property.keyFormat.name}' or " ++
      s!"'{Property.valueFormat.name}' properties"
  | .notText property value => s!"Property '{property.name}' must be a string: {value.message}"
  | .notCount property value => s!"Invalid value for {property.name}: {value.message}"
  | .notPositive property value =>
    s!"Invalid value for {property.name}: {value.message}, must be positive"
  | .notBoolean property value =>
    s!"Property '{property.name}' is not a boolean value: {value.message}"

namespace Literal

/-- The integer that a value denotes: an integer, a real number without a fraction, or a numeral. -/
def toInt? : Literal → Option Int
  | .int value => some value
  | .real value => value.toInt?
  | .text value => (Text.readInt value.toList).toOption
  | .null | .bool _ => none

def toCount (property : Property) (value : Literal) : Except PropertyError Nat :=
  match value.toInt? with
  | none => .error (.notCount property value)
  | some n => if n < 1 then .error (.notPositive property value) else .ok n.toNat

/-- A truth value, or its name in any case. -/
def toBool (property : Property) : Literal → Except PropertyError Bool
  | .bool value => .ok value
  | .text value =>
    if Text.lower value = "true" then .ok true
    else if Text.lower value = "false" then .ok false
    else .error (.notBoolean property (.text value))
  | value => .error (.notBoolean property value)

def toText (property : Property) : Literal → Except PropertyError String
  | .text value => .ok value
  | value => .error (.notText property value)

end Literal

/-- The literals of a clause by upper-case name; of equal names the last one counts. -/
def upperNames (literals : List (String × Literal)) : OrderedMap String Literal :=
  OrderedMap.lastWins (literals.map fun (name, value) => (Text.upper name, value))

namespace Properties

def readOptional (literals : OrderedMap String Literal) (property : Property)
    (read : Property → Literal → Except PropertyError α) : Except PropertyError (Option α) :=
  match OrderedMap.get? property.name literals with
  | none => .ok none
  | some value => (read property value).map some

def readFormats (literals : OrderedMap String Literal) : Except PropertyError Formats := do
  let given (property : Property) := (OrderedMap.get? property.name literals).isSome
  if given .format && (given .keyFormat || given .valueFormat) then throw .formatsConflict
  match ← readOptional literals .format Literal.toText with
  | some name => return .shared name
  | none =>
    let key ← readOptional literals .keyFormat Literal.toText
    return .separate key (← readOptional literals .valueFormat Literal.toText)

def freeEntry? (entry : String × Literal) : Option (FreeProperty × Literal) :=
  match Property.ofName? entry.1 with
  | some (.free property) => some (property, entry.2)
  | _ => none

/-- The names of a clause that are no properties, sorted. -/
def unknownNames (literals : OrderedMap String Literal) : List String :=
  (literals.keys.filter fun name => (Property.ofName? name).isNone).mergeSort Text.isBefore

/-- The properties that literals under distinct upper-case names give. The checks follow one
another: unknown names, the topic, the formats, the counts, and the wrapping of single values. -/
def validate (literals : OrderedMap String Literal) : Except PropertyError Properties := do
  let unknown := unknownNames literals
  unless unknown.isEmpty do throw (.unknown unknown)
  match OrderedMap.get? Property.kafkaTopic.name literals with
  | some (.text topic) =>
    let formats ← readFormats literals
    let partitions ← readOptional literals .partitions Literal.toCount
    let replicas ← readOptional literals .replicas Literal.toCount
    let wrapSingleValue ← readOptional literals .wrapSingleValue Literal.toBool
    let free := literals.filterMap freeEntry?
    return { topic, formats, partitions, replicas, wrapSingleValue, free }
  | _ => throw .topicMissing

/-- Validates the literals of a clause; names count in any case. -/
def ofLiterals (literals : List (String × Literal)) : Except PropertyError Properties :=
  validate (upperNames literals)

def entries (p : Properties) : List (Property × Literal) :=
  [(.kafkaTopic, .text p.topic)] ++
  (match p.formats with
    | .shared name => [(.format, .text name)]
    | .separate key value =>
      key.toList.map (fun name => (.keyFormat, .text name)) ++
        value.toList.map fun name => (.valueFormat, .text name)) ++
  p.partitions.toList.map (fun n => (.partitions, .int n)) ++
  p.replicas.toList.map (fun n => (.replicas, .int n)) ++
  p.wrapSingleValue.toList.map (fun b => (.wrapSingleValue, .bool b)) ++
  p.free.map fun (property, value) => (.free property, value)

/-- A format's name in upper case, unless it is empty. -/
def formatName? (name : String) : Option String :=
  if name.isEmpty then none else some (Text.upper name)

def keyFormat? (p : Properties) : Option String :=
  match p.formats with
  | .shared name => formatName? name
  | .separate key _ => key.bind formatName?

def valueFormat? (p : Properties) : Option String :=
  match p.formats with
  | .shared name => formatName? name
  | .separate _ value => value.bind formatName?

def freeText? (p : Properties) (property : FreeProperty) : Option String :=
  ((p.free.find? fun entry => entry.1 = property).map (·.2)).map Literal.message

def withFormats (p : Properties) (key value : String) : Properties :=
  { p with formats := .separate (some key) (some value) }

end Properties

end TopicPlan.Sql
