import TopicPlan.Schema.Error
import TopicPlan.Json.Basic
import TopicPlan.OrderedMap

/-!
JSON schemas of columns. Every column may be missing, so every type is one of two alternatives, the
first of them null. The properties of an object are numbered in the order of the fields; of fields
with one name the last counts, in the place of the first.
-/

namespace TopicPlan.Schema

open Sql (BaseType DataType Fields)

namespace JsonSchema

def typed (type : String) : String × Json := ("type", .text type)
def connect (type : String) : String × Json := ("connect.type", .text type)
def title (name : String) : String × Json :=
  ("title", .text s!"org.apache.kafka.connect.data.{name}")

def ofBase : BaseType → Json
  | .boolean => .object [typed "boolean"]
  | .integer => .object [typed "integer", connect "int32"]
  | .bigint => .object [typed "integer", connect "int64"]
  | .double => .object [typed "number", connect "float64"]
  | .string => .object [typed "string"]
  | .bytes => .object [typed "string", connect "bytes"]
  | .date => .object [typed "integer", connect "int32", title "Date"]
  | .time => .object [typed "integer", connect "int32", title "Time"]
  | .timestamp => .object [typed "integer", connect "int64", title "Timestamp"]

def ofDecimal (precision scale : Int) : Json :=
  .object [typed "number", title "Decimal", connect "bytes",
    ("connect.parameters", .object [("scale", .text (toString scale)),
      ("connect.decimal.precision", .text (toString precision))])]

def alternatives (type : Json) : String × Json :=
  ("oneOf", .array [.object [typed "null"], type])

def optional (type : Json) : Json := .object [alternatives type]

def property (index : Nat) (type : Json) : Json :=
  .object [alternatives type, ("connect.index", .int index)]

def object (properties : List (String × Json)) : Json :=
  .object [typed "object", ("properties", .object (OrderedMap.lastWins properties))]

mutual

/-- The type of a column. Keys of maps are strings. -/
def ofType : DataType → Except SchemaError Json
  | .base b => .ok (ofBase b)
  | .decimal precision scale => .ok (ofDecimal precision scale)
  | .array item => do
    return .object [typed "array", ("items", optional (← ofType item))]
  | .map key value =>
    if key = .base .string then do
      return .object [typed "object", connect "map",
        ("additionalProperties", optional (← ofType value))]
    else .error (.mapKeyNotString (.map key value))
  | .struct fields => do return object (← ofFields 0 fields)
  | .reference name => .error (.unresolved .jsonSchema (.reference name))

/-- The properties of fields, the first of which has the number `index`. -/
def ofFields (index : Nat) : Fields → Except SchemaError (List (String × Json))
  | [] => .ok []
  | (name, type) :: rest => do
    let type ← ofType type
    return (name, property index type) :: (← ofFields (index + 1) rest)

end

def ofRecord (fields : Fields) : Except SchemaError Json := do
  return object (← ofFields 0 fields)

def ofUnwrapped (type : DataType) : Except SchemaError Json := do
  return optional (← ofType type)

end JsonSchema

end TopicPlan.Schema
