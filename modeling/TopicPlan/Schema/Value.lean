import TopicPlan.Schema.Avro
import TopicPlan.Schema.JsonSchema
import TopicPlan.Schema.Protobuf
import TopicPlan.Serde

/-!
The schema of a value as a registry keeps it.
-/

namespace TopicPlan.Schema

open Sql (Fields)

structure ValueSchema where
  kind : SchemaKind
  text : String
deriving DecidableEq, Repr

/-- The Avro type of a value. A single column may be left without its record. -/
def avroOf (fields : Fields) (unwrap : Bool) (fullName : String) : Except SchemaError AvroType :=
  match fields, unwrap with
  | [(name, type)], true => avroUnwrapped fullName name type
  | fields, _ => avroRecord fullName fields

/-- The JSON schema of a value. A single column may be left without its record. -/
def jsonSchemaOf (fields : Fields) (unwrap : Bool) : Except SchemaError Json :=
  match fields, unwrap with
  | [(_, type)], true => JsonSchema.ofUnwrapped type
  | fields, _ => JsonSchema.ofRecord fields

/-- The Protobuf file of a value. A column always has its record. -/
def protobufOf (fields : Fields) (unwrap : Bool) : Except SchemaError String :=
  match fields, unwrap with
  | [_], true => .error .unwrapped
  | fields, _ => ProtobufFile.ofRecord fields

/-- The schema of a value's columns in a format. `avroName` names the record of an Avro schema. -/
def ValueSchema.infer (format : Format) (fields : Fields) (unwrap : Bool) (avroName : String) :
    Except SchemaError ValueSchema :=
  match format with
  | .avro => do return ⟨.avro, (← avroOf fields unwrap avroName).toJson.print⟩
  | .jsonSchema => do return ⟨.json, (← jsonSchemaOf fields unwrap).print⟩
  | .protobuf => do return ⟨.protobuf, ← protobufOf fields unwrap⟩
  | .kafka | .none | .delimited | .json => .error (.notInferred format)

end TopicPlan.Schema
