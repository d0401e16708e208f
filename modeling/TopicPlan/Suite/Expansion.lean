import TopicPlan.Suite.File
import TopicPlan.Topic.Collection

/-!
The tests of a file, each of them once for every format it is for, with all the topics it needs.
Disabled tests are left out.
-/

namespace TopicPlan.Suite

open Data

/-- A test for one format, or for none, with its topics. -/
structure PlannedTest where
  name : String
  format : Option String
  statements : List String
  topics : List Topic
  inputs : List Record
  outputs : List Record
  properties : OrderedMap String Value
  expectedException : Option (OrderedMap String Value)
deriving Repr

def PlannedTest.topic? (test : PlannedTest) (name : String) : Option Topic :=
  test.topics.find? fun topic => topic.name == name

/-- Why the tests of a file cannot be planned. Tests are given by their display names. -/
inductive PlanError where
  | file (path : String) (error : FileError)
  | properties (test : String) (faults : List Fault)
  | formatUnknown (topic test : String) (error : UnknownFormat)
  | formatWithoutSchema (topic test : String) (format : Format)
  | schemaUnwritable (fault : WritingFault)
  | extraction (error : ExtractionError)
deriving Repr

namespace PlanError

def message : PlanError → String
  | .file path error => error.message path
  | .properties test faults =>
    s!"Invalid properties in test '{test}': " ++ faultCount EngineConfig.kind faults
  | .formatUnknown topic test error => s!"Topic '{topic}' in test '{test}': {error.message}"
  | .formatWithoutSchema topic test format =>
    s!"Topic '{topic}' in test '{test}': format {format.name} does not support a value schema"
  | .schemaUnwritable fault => fault.message
  | .extraction error => error.message

def isExpected : PlanError → Bool
  | .file _ error => error.isExpected
  | .properties .. | .formatUnknown .. | .formatWithoutSchema .. => true
  | .schemaUnwritable _ | .extraction _ => false

def isTooDeep : PlanError → Bool
  | .file _ (.json (.tooDeep _)) | .file _ (.yaml .endless) => true
  | _ => false

end PlanError

def defaultSchemaFormat : Format := .avro

/-- The text of a declared schema: a string as it stands, and any other value in JSON. -/
def schemaText : Value → Except PlanError String
  | .scalar (.text s) => .ok s
  | value => value.print.mapError .schemaUnwritable

namespace TopicDeclaration

def schema? (test : String) (declaration : TopicDeclaration) :
    Except PlanError (Option Schema.ValueSchema) :=
  match declaration.valueSchema with
  | .scalar .null => .ok none
  | value => do
    let given := (declaration.valueFormat.filter fun name => !name.isEmpty)
    let format ← (Format.ofName (given.getD defaultSchemaFormat.name)).mapError
      (.formatUnknown declaration.name test)
    match format.schemaKind? with
    | some kind => return some ⟨kind, ← schemaText value⟩
    | none => throw (.formatWithoutSchema declaration.name test format)

def toTopic (test : String) (declaration : TopicDeclaration) : Except PlanError Topic := do
  return {
    name := declaration.name
    partitions := declaration.partitions.getD Topic.defaultCount
    replicas := declaration.replicas.getD Topic.defaultCount
    schema := ← declaration.schema? test }

end TopicDeclaration

namespace TestCase

def plan (path : String) (test : TestCase) (format : Option String) :
    Noted PlanError PlannedTest := do
  let name := displayName path test.name format
  let statements := test.statements.map (statementFor format)
  let config ← match EngineConfig.ofProperties test.properties with
    | .valid config => pure config
    | .faulty faults => Noted.throw (.properties name faults)
  let declared ← Noted.ofExcept (test.topics.mapM (TopicDeclaration.toTopic name))
  let topics ← (collectTopics config declared statements (test.inputs.map Record.topic)
    (test.outputs.map Record.topic)).mapError .extraction
  Noted.note (.testTopics name (topics.map Topic.name))
  return {
    name, format, statements, topics
    inputs := test.inputs
    outputs := test.outputs
    properties := test.properties
    expectedException := test.expectedException }

/-- The formats that a test is expanded for; a test without any is expanded once. -/
def expansions (test : TestCase) : List (Option String) :=
  if test.formats.isEmpty then [none] else test.formats.map some

def planAll (path : String) (test : TestCase) : Noted PlanError (List PlannedTest) :=
  if test.enabled then test.expansions.mapM (plan path test)
  else do
    Noted.note (.testDisabled test.name path)
    return []

end TestCase

def File.plan (file : File) : Noted PlanError (List PlannedTest) := do
  let definition ← Noted.ofExcept (file.read.mapError (.file file.path))
  let tests ← definition.tests.mapM (TestCase.planAll file.path)
  return tests.flatten

end TopicPlan.Suite
