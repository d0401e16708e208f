import TopicPlan.Schema.Error
import TopicPlan.Text.Blank

/-!
Protobuf schemas of columns: a message for the record and one for every struct in it. A writer goes
through the fields once. It numbers messages from one as they are opened and collects the files to
import; a struct's message is written when its field is, and kept back until the message around it
has all its own fields.
-/

namespace TopicPlan.Schema

open Sql (BaseType DataType Fields)

/-- What a writer keeps from one message to the next. -/
structure ProtobufWriter where
  /-- The number of messages that have been opened. -/
  opened : Nat
  files : List String

namespace ProtobufWriter

abbrev Writing := StateT ProtobufWriter (Except SchemaError)

def baseName : BaseType → String
  | .boolean => "bool"
  | .integer => "int32"
  | .bigint => "int64"
  | .double => "double"
  | .string => "string"
  | .bytes => "bytes"
  | .date => "google.type.Date"
  | .time => "google.type.TimeOfDay"
  | .timestamp => "google.protobuf.Timestamp"

def decimalName : String := "confluent.type.Decimal"

/-- The files that define types beyond the scalar ones. -/
def imports : List (String × String) :=
  [("google.type.Date", "google/type/date.proto"),
    ("google.type.TimeOfDay", "google/type/timeofday.proto"),
    ("google.protobuf.Timestamp", "google/protobuf/timestamp.proto"),
    ("confluent.type.Decimal", "confluent/type/decimal.proto")]

def mapKeys : List String := ["string", "int32", "int64", "bool"]

/-- Arrays and maps cannot stand in arrays or be values of maps. -/
def isCollection : DataType → Bool
  | .array _ | .map .. => true
  | _ => false

def padding (indent : Nat) : String := String.join (List.replicate indent "  ")

/-- Remembers the file that defines a type, if there is one. -/
def importing (type : String) (w : ProtobufWriter) : ProtobufWriter :=
  match imports.lookup type with
  | some file => { w with files := w.files.insert file }
  | none => w

def scalar (type : String) : Writing String := do
  modify (importing type)
  return type

def opening (w : ProtobufWriter) : ProtobufWriter := { w with opened := w.opened + 1 }

def firstLine (indent number : Nat) : String :=
  s!"{padding indent}message ConnectDefault{number} \x7b"

/-- The lines of a message. `body` writes the lines of its fields, and those of the messages that
these define. -/
def message (indent : Nat) (body : Writing (List String × List String)) : Writing (List String) := do
  modify opening
  let number := (← get).opened
  let (lines, nested) ← body
  return firstLine indent number :: lines ++ (if nested.isEmpty then [] else "" :: nested) ++
    [s!"{padding indent}\x7d"]

/-- The name of a message, which is the second word of its first line. -/
def messageName (lines : List String) : String :=
  String.ofList ((Text.words (Text.strip (lines.headD "").toList)).getD 1 [])

mutual

/-- The type of a field as it is written. The lines of the messages that it defines come after
`nested`, those of the fields before it. -/
def fieldType (indent : Nat) (nested : List String) : DataType → Writing (String × List String)
  | .array item => do
    if isCollection item then throw (.nestedCollection (.array item))
    let (itemText, nested) ← fieldType indent nested item
    return (s!"repeated {itemText}", nested)
  | .map key value => do
    let (keyText, nested) ← fieldType indent nested key
    if !mapKeys.contains keyText then throw (.mapKeyUnsupported key)
    if isCollection value then throw (.nestedCollection (.map key value))
    let (valueText, nested) ← fieldType indent nested value
    return (s!"map<{keyText}, {valueText}>", nested)
  | .struct fields => do
    let lines ← message indent (fieldLines indent 1 [] fields)
    return (messageName lines, nested ++ lines)
  | .decimal .. => return (← scalar decimalName, nested)
  | .base b => return (← scalar (baseName b), nested)
  | .reference name => throw (.unresolved .protobuf (.reference name))

/-- The lines of a message's fields, numbered from `number` on. -/
def fieldLines (indent number : Nat) (nested : List String) :
    Fields → Writing (List String × List String)
  | [] => return ([], nested)
  | (name, type) :: rest => do
    let (text, nested) ← fieldType (indent + 1) nested type
    let (lines, nested) ← fieldLines indent (number + 1) nested rest
    return (s!"{padding indent}  {text} {name} = {number};" :: lines, nested)

end

end ProtobufWriter

open ProtobufWriter in
def ProtobufFile.ofRecord (columns : Fields) : Except SchemaError String := do
  let (body, w) ← (message 0 (fieldLines 0 1 [] columns)).run ⟨0, []⟩
  let importLines :=
    if w.files.isEmpty then []
    else (w.files.mergeSort (· ≤ ·)).map (fun path => s!"import \"{path}\";") ++ [""]
  return "\n".intercalate (["syntax = \"proto3\";", ""] ++ importLines ++ body) ++ "\n"

end TopicPlan.Schema
