import TopicPlan.Schema.Value

/-!
Topics: what a test case needs of a cluster and of a schema registry.
-/

namespace TopicPlan

/-- A topic with the schema of its values, if they have one. -/
structure Topic where
  name : String
  partitions : Int
  replicas : Int
  schema : Option Schema.ValueSchema
deriving DecidableEq, Repr

namespace Topic

/-- The number of partitions, and of replicas, where nothing is said. -/
def defaultCount : Int := 1

def ofName (name : String) : Topic := ⟨name, defaultCount, defaultCount, none⟩

end Topic

end TopicPlan
