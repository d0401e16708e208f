import TopicPlan.Format
import TopicPlan.Sql.DataType

/-!
Why columns have no schema in a format.
-/

namespace TopicPlan.Schema

open Sql (DataType)

inductive SchemaError where
  | notInferred (format : Format)
  /-- A custom type that was never replaced by its definition. -/
  | unresolved (format : Format) (type : DataType)
  | mapKeyNotString (type : DataType)
  | nestedCollection (type : DataType)
  | mapKeyUnsupported (key : DataType)
  | unwrapped
deriving DecidableEq, Repr

def SchemaError.message : SchemaError → String
  | .notInferred format => s!"Format does not support schema inference: {format.name}"
  | .unresolved format type => s!"Cannot convert type to {format.name}: {type.text}"
  | .mapKeyNotString type =>
    s!"{Format.jsonSchema.name} only supports MAP types with STRING keys: {type.text}"
  | .nestedCollection type =>
    s!"{Format.protobuf.name} does not support nested collections: {type.text}"
  | .mapKeyUnsupported key =>
    s!"{Format.protobuf.name} does not support MAP keys of type {key.text}"
  | .unwrapped => s!"{Format.protobuf.name} does not support unwrapped single values"

end TopicPlan.Schema
