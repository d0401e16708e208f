import TopicPlan.Schema.Error
import TopicPlan.Json.Basic

/-!
Avro schemas of columns. Every column may be missing, so every type is optional. A record is named
after the path of names that leads to it; a map whose keys are not strings is an array of entries.
-/

namespace TopicPlan.Schema

open Sql (BaseType DataType Fields)

/-- An Avro type. Every field of a record has null as its default. -/
inductive AvroType where
  | primitive (name : String)
  | logical (type logicalType : String)
  | decimal (precision scale : Int)
  | optional (type : AvroType)
  | array (items : AvroType)
  | map (values : AvroType)
  | record (fullName : String) (fields : List (String × AvroType))
deriving Repr, Inhabited

namespace AvroType

def ofBase : BaseType → AvroType
  | .boolean => .primitive "boolean"
  | .integer => .primitive "int"
  | .bigint => .primitive "long"
  | .double => .primitive "double"
  | .string => .primitive "string"
  | .bytes => .primitive "bytes"
  | .date => .logical "int" "date"
  | .time => .logical "int" "time-millis"
  | .timestamp => .logical "long" "timestamp-millis"

/-- The name of what stands under `part` in a record or map named `fullName`. -/
def partName (fullName part : String) : String := fullName ++ "_" ++ part

mutual

/-- The type of a column; `fullName` names the record in it, if there is one. -/
def ofType (fullName : String) : DataType → Except SchemaError AvroType
  | .base b => .ok (ofBase b)
  | .decimal precision scale => .ok (.decimal precision scale)
  | .array item => do return .array (.optional (← ofType fullName item))
  | .map key value =>
    if key = .base .string then do return .map (.optional (← ofType fullName value))
    else do
      let entry := partName fullName "MapEntry"
      let key ← ofType (partName entry "key") key
      let value ← ofType (partName entry "value") value
      return .array (.record entry [("key", .optional key), ("value", .optional value)])
  | .struct fields => do return .record fullName (← ofFields fullName fields)
  | .reference name => .error (.unresolved .avro (.reference name))

def ofFields (fullName : String) : Fields → Except SchemaError (List (String × AvroType))
  | [] => .ok []
  | (name, type) :: rest => do
    let type ← ofType (partName fullName name) type
    return (name, .optional type) :: (← ofFields fullName rest)

end

/-- The namespace before the last point of a full name, and the name after it. -/
def splitName (fullName : String) : String × String :=
  let name := fullName.toList.reverse.takeWhile (· != '.')
  let rest := (fullName.toList.reverse.dropWhile (· != '.')).drop 1
  (String.ofList rest.reverse, String.ofList name.reverse)

mutual

/-- The type as a JSON document. An empty namespace is left out. -/
def toJson : AvroType → Json
  | .primitive name => .text name
  | .logical type logicalType =>
    .object [("type", .text type), ("logicalType", .text logicalType)]
  | .decimal precision scale =>
    .object [("type", .text "bytes"), ("logicalType", .text "decimal"),
      ("precision", .int precision), ("scale", .int scale)]
  | .optional type => .array [.text "null", type.toJson]
  | .array items => .object [("type", .text "array"), ("items", items.toJson)]
  | .map values => .object [("type", .text "map"), ("values", values.toJson)]
  | .record fullName fields =>
    let (scope, name) := splitName fullName
    .object ([("type", .text "record"), ("name", .text name)] ++
      (if scope.isEmpty then [] else [("namespace", .text scope)]) ++
      [("fields", .array (fieldsToJson fields))])

def fieldsToJson : List (String × AvroType) → List Json
  | [] => []
  | (name, type) :: rest =>
    .object [("name", .text name), ("type", type.toJson), ("default", .null)] :: fieldsToJson rest

end

mutual

/-- The full names of all records that a type defines, outer before inner ones. -/
def recordNames : AvroType → List String
  | .primitive _ | .logical .. | .decimal .. => []
  | .optional type => type.recordNames
  | .array items => items.recordNames
  | .map values => values.recordNames
  | .record fullName fields => fullName :: fieldRecordNames fields

def fieldRecordNames : List (String × AvroType) → List String
  | [] => []
  | (_, type) :: rest => type.recordNames ++ fieldRecordNames rest

end

end AvroType

/-- The name of a value's record where the statement gives none. -/
def defaultAvroName : String := "io.confluent.ksql.avro_schemas.KsqlDataSourceSchema"

def avroRecord (fullName : String) (fields : Fields) : Except SchemaError AvroType := do
  return .record fullName (← AvroType.ofFields fullName fields)

def avroUnwrapped (fullName : String) (name : String) (type : DataType) :
    Except SchemaError AvroType := do
  return .optional (← AvroType.ofType (AvroType.partName fullName name) type)

end TopicPlan.Schema
