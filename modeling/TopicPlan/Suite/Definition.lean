import TopicPlan.Data.Check
import TopicPlan.Text.Blank

/-!
The content of a test file: its test cases with their statements, topics, and sample records, before
they are expanded for their formats. Each type has the check that reads it from a data value.
-/

namespace TopicPlan.Suite

open Data

structure Record where
  topic : String
  key : Value
  value : Value
  timestamp : Option Int
  headers : List (OrderedMap String Value)
deriving Repr

/-- A topic that a test case declares itself. A null schema is no schema. -/
structure TopicDeclaration where
  name : String
  partitions : Option Int
  replicas : Option Int
  keyFormat : Option String
  valueFormat : Option String
  valueSchema : Value
deriving Repr

structure TestCase where
  name : String
  formats : List String
  statements : List String
  topics : List TopicDeclaration
  inputs : List Record
  outputs : List Record
  properties : OrderedMap String Value
  expectedException : Option (OrderedMap String Value)
  enabled : Bool
deriving Repr

structure Definition where
  tests : List TestCase
  comments : List String
deriving Repr

namespace Record

def kind : String := "RecordNode"

def check : Check Record := Check.fields kind fun map =>
  Record.mk
    <$> required "topic" [] Check.text map
    <*> optional "key" [] Value.null Check.any map
    <*> optional "value" [] Value.null Check.any map
    <*> optional "timestamp" [] none (Check.nullable Check.int) map
    <*> optional "headers" [] [] (Check.list Check.map) map

end Record

namespace TopicDeclaration

def kind : String := "TopicNode"

def count : Check (Option Int) := fun value =>
  (Check.nullable Check.int value).require (fun n? => n?.all (1 ≤ ·)) "must be at least 1"

def check : Check TopicDeclaration := Check.fields kind fun map =>
  TopicDeclaration.mk
    <$> required "name" [] Check.text map
    <*> optional "partitions" [] none count map
    <*> optional "replicas" [] none count map
    <*> optional "keyFormat" ["key_format"] none (Check.nullable Check.text) map
    <*> optional "valueFormat" ["value_format"] none (Check.nullable Check.text) map
    <*> optional "valueSchema" ["value_schema"] Value.null Check.any map

end TopicDeclaration

namespace TestCase

def kind : String := "TestCaseNode"

/-- A name that holds more than blanks. -/
def nameCheck : Check String := fun value =>
  (Check.text value).require (fun name => !(Text.strip name.toList).isEmpty)
    "test name must not be blank"

def statementsCheck : Check (List String) := fun value =>
  (Check.list Check.text value).require (fun statements => !statements.isEmpty)
    "test case must contain at least one statement"

def check : Check TestCase := Check.fields kind fun map =>
  TestCase.mk
    <$> required "name" [] nameCheck map
    <*> optional "format" ["formats"] [] (Check.list Check.text) map
    <*> required "statements" [] statementsCheck map
    <*> optional "topics" [] [] (Check.list TopicDeclaration.check) map
    <*> optional "inputs" [] [] (Check.list Record.check) map
    <*> optional "outputs" [] [] (Check.list Record.check) map
    <*> optional "properties" [] [] Check.map map
    <*> optional "expectedException" ["expected_exception"] none (Check.nullable Check.map) map
    <*> optional "enabled" [] true Check.bool map

end TestCase

namespace Definition

def kind : String := "TestFile"

def check : Check Definition := Check.fields kind fun map =>
  Definition.mk
    <$> required "tests" [] (Check.list TestCase.check) map
    <*> optional "comments" [] [] (Check.list Check.text) map

end Definition

end TopicPlan.Suite
