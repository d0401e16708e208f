import TopicPlan.Topic.Inference

/-!
All topics of a test case: those it declares, those its statements imply, and those its records
name, each name once. A declared topic goes before an implied one, and that before a record's.
-/

namespace TopicPlan

open Sql (Catalog)

def extractAll (config : EngineConfig) (catalog : Catalog) :
    List String → Noted ExtractionError (List Topic × Catalog)
  | [] => pure ([], catalog)
  | sql :: rest => do
    let extraction ← extract config catalog sql
    let (topics, catalog) ← extractAll config extraction.catalog rest
    return (extraction.outcome.topic?.toList ++ topics, catalog)

/-- Topics by name; of declared topics with one name the last counts, and otherwise the first. -/
def mergeTopics (declared implied : List Topic) (recordNames : List String) :
    OrderedMap String Topic :=
  let declared := OrderedMap.lastWins (declared.map fun topic => (topic.name, topic))
  (implied ++ recordNames.map Topic.ofName).foldl
    (fun topics topic => OrderedMap.putNew topic.name topic topics) declared

/-- All topics of a test case. Records are given by the names of their topics. -/
def collectTopics (config : EngineConfig) (declared : List Topic) (statements : List String)
    (inputs outputs : List String) : Noted ExtractionError (List Topic) := do
  let (implied, _) ← extractAll config .empty statements
  return (mergeTopics declared implied (inputs ++ outputs)).values

end TopicPlan
