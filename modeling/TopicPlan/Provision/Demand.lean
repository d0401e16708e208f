import TopicPlan.Number.Power
import TopicPlan.Text.Quoted
import TopicPlan.Topic.Basic

/-!
Demands for new topics. A demand is written in bytes: the name as UTF-8 up to a null character, and
the counts in words of 32 bits. A topic that cannot be written like this cannot be asked for.
-/

namespace TopicPlan.Provision

inductive DemandFault where
  /-- The name holds halves of surrogate pairs. -/
  | nameUnencodable (run : Text.HalfRun)
  | nameHasNull
  /-- A count does not even fit into 64 bits. -/
  | countBeyondWords
  | countTooLarge
  | countTooSmall
deriving DecidableEq, Repr

namespace DemandFault

def message : DemandFault → String
  | .nameUnencodable run =>
    let place := if run.count = 1 then
        s!"character '\\u{String.ofList (Text.hexDigits 4 run.first)}' in position {run.position}"
      else s!"characters in position {run.position}-{run.position + run.count - 1}"
    s!"'utf-8' codec can't encode {place}: surrogates not allowed"
  | .nameHasNull => "embedded null character"
  | .countBeyondWords => "Python int too large to convert to C long"
  | .countTooLarge => "signed integer is greater than maximum"
  | .countTooSmall => "signed integer is less than minimum"

end DemandFault

/-- Whether a number can be written with some bits and a bit for the sign. -/
def fitsBits (bits : Nat) (n : Int) : Bool := -(twoPow bits : Int) ≤ n && n < twoPow bits

def countFault? (n : Int) : Option DemandFault :=
  if !fitsBits 63 n then some .countBeyondWords
  else if fitsBits 31 n then none
  else some (if 0 < n then .countTooLarge else .countTooSmall)

def nameFault? (name : String) : Option DemandFault :=
  match Text.firstHalfRun? name.toList with
  | some run => some (.nameUnencodable run)
  | none => if name.toList.contains '\x00' then some .nameHasNull else none

def demandFault? (topic : Topic) : Option DemandFault :=
  nameFault? topic.name <|> countFault? topic.partitions <|> countFault? topic.replicas

end TopicPlan.Provision
