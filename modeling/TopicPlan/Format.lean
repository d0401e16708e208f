import TopicPlan.Text.Case

/-!
Serialization formats of keys and values, and what each of them can do: three of them have schemas
that can be inferred from columns, and some can leave a single column without its record.
-/

namespace TopicPlan

inductive Format where
  | kafka
  | none
  | delimited
  | json
  | jsonSchema
  | avro
  | protobuf
deriving DecidableEq, Repr

/-- A name, in upper case, that no format has. -/
structure UnknownFormat where
  name : String
deriving DecidableEq, Repr

def UnknownFormat.message (error : UnknownFormat) : String := s!"Unknown format: {error.name}"

inductive SchemaKind where
  | avro
  | json
  | protobuf
deriving DecidableEq, Repr

def SchemaKind.name : SchemaKind → String
  | .avro => "AVRO"
  | .json => "JSON"
  | .protobuf => "PROTOBUF"

namespace Format

def name : Format → String
  | .kafka => "KAFKA"
  | .none => "NONE"
  | .delimited => "DELIMITED"
  | .json => "JSON"
  | .jsonSchema => "JSON_SR"
  | .avro => "AVRO"
  | .protobuf => "PROTOBUF"

def all : List Format := [.kafka, .none, .delimited, .json, .jsonSchema, .avro, .protobuf]

def ofName (name : String) : Except UnknownFormat Format :=
  match all.find? fun format => format.name = Text.upper name with
  | some format => .ok format
  | Option.none => .error ⟨Text.upper name⟩

/-- The kind of schema that the columns of a value imply, for formats that have one. -/
def schemaKind? : Format → Option SchemaKind
  | .avro => some .avro
  | .jsonSchema => some .json
  | .protobuf => some .protobuf
  | .kafka | .none | .delimited | .json => Option.none

def infersSchema (format : Format) : Bool := format.schemaKind?.isSome

def wraps : Format → Bool
  | .json | .jsonSchema | .avro | .protobuf => true
  | .kafka | .none | .delimited => false

def unwraps : Format → Bool
  | .json | .jsonSchema | .avro => true
  | .kafka | .none | .delimited | .protobuf => false

theorem name_injective {f g : Format} (h : f.name = g.name) : f = g := by
  revert h
  cases f <;> cases g <;> decide

end Format

end TopicPlan
