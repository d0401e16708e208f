import TopicPlan.Number.Binary64

/-!
Property values of a `WITH` clause, and their text in messages.
-/

namespace TopicPlan.Sql

inductive Literal where
  | null
  | bool (value : Bool)
  | int (value : Int)
  | real (value : Binary64)
  | text (value : String)
deriving DecidableEq, Repr

namespace Literal

/-- The value in words: strings bare, truth values and the missing value capitalised. -/
def message : Literal → String
  | .null => "None"
  | .bool value => if value then "True" else "False"
  | .int value => toString value
  | .real value => value.text
  | .text value => value

def text? : Literal → Option String
  | .text value => some value
  | _ => none

end Literal

end TopicPlan.Sql
