import TopicPlan.Suite.Definition
import TopicPlan.Suite.Name
import TopicPlan.Json.Reader
import TopicPlan.Text.Case
import TopicPlan.Text.Utf8
import TopicPlan.Yaml.Reader

/-!
Test files. The ending of a file's name says in which notation it is written; its content is decoded
before that is looked at.
-/

namespace TopicPlan.Suite

open Data

/-- A file by its path; one that does not exist has no bytes. -/
structure File where
  path : String
  bytes : Option (List UInt8)

inductive FileError where
  | missing
  | undecodable (error : Text.Utf8Error)
  | unsupported (ending : String)
  | json (error : Json.ReadError)
  | yaml (fault : Yaml.Fault)
  | noRecord
  | keyNotText
  | invalid (faults : List Fault)
deriving Repr

/-- The words for an error in the file of a path. A malformed YAML text is not described. -/
def FileError.message (path : String) : FileError → String
  | .missing => s!"Test file not found: {path}"
  | .undecodable error => error.message
  | .unsupported ending => s!"Unsupported test file type '{ending}': {path}"
  | .json error =>
    match error with
    | .malformed .. => s!"JSON parse error in '{path}': {error.message}"
    | .numeralTooLong _ | .tooDeep _ => error.message
  | .yaml .malformed => s!"YAML parse error in '{path}'"
  | .yaml fault => fault.message
  | .noRecord => s!"Test file '{path}' must contain an object with a 'tests' list"
  | .keyNotText => "keywords must be strings"
  | .invalid faults => s!"Invalid test file '{path}': " ++ faultCount Definition.kind faults

def FileError.isExpected : FileError → Bool
  | .missing | .unsupported _ | .json (.malformed ..) | .yaml .malformed | .noRecord
  | .invalid _ => true
  | .undecodable _ | .json (.numeralTooLong _) | .json (.tooDeep _) | .yaml _ | .keyNotText => false

namespace File

def kind (file : File) : String := Text.lower (ending (fileName file.path))

/-- The value that a file's text holds. A YAML text that holds nothing to speak of counts as an
empty map. -/
def parse (file : File) (text : List Char) : Except FileError Value :=
  if file.kind = ".yml" ∨ file.kind = ".yaml" then
    match Yaml.read (text.flatMap Text.hold) with
    | .ok value => .ok (if value.isVoid then .map [] else value)
    | .error fault => .error (.yaml fault)
  else if file.kind = ".json" then
    match Json.read (String.ofList text) with
    | .ok document => .ok (Value.ofJson document)
    | .error error => .error (.json error)
  else .error (.unsupported file.kind)

def isText : Scalar × Value → Bool
  | (.text _, _) => true
  | _ => false

def define : Value → Except FileError Definition
  | .map entries =>
    if !entries.all isText then .error .keyNotText
    else match Definition.check (.map entries) with
      | .valid definition => .ok definition
      | .faulty faults => .error (.invalid faults)
  | _ => .error .noRecord

def read (file : File) : Except FileError Definition :=
  match file.bytes with
  | none => .error .missing
  | some bytes =>
    match Text.decodeUtf8 bytes with
    | .error error => .error (.undecodable error)
    | .ok text => do define (← file.parse (Text.unifyLines text))

end File

end TopicPlan.Suite
