import TopicPlan.Yaml.Object

/-!
The value of a YAML text: its tokens make a graph of nodes, these denote objects, and the objects
unfold into a value.
-/

namespace TopicPlan.Yaml

open Data

/-- The value that a text holds; a text without a document holds nothing. -/
def read (text : List Char) : Except Fault Value := do
  match ← Graph.ofText text with
  | none => return .null
  | some graph => return Object.value (← Object.ofGraph graph) graph.root

end TopicPlan.Yaml
