import TopicPlan.Data.Calendar
import TopicPlan.Text.Numeral
import TopicPlan.Text.Quoted

/-!
Why a YAML text has no value. Most texts without one are malformed, and nothing more is said of
them; a scalar that has not the form its tag asks for, and a code that no character has, are faults
of their own.
-/

namespace TopicPlan.Yaml

inductive Fault where
  /-- The text is no YAML, or a node does not suit its tag or its place. -/
  | malformed
  /-- The code of an escape is beyond the last character. -/
  | codeOutOfRange
  /-- The code of an escape does not even fit into a word. -/
  | codeTooLarge
  | numeralTooLong (digits : Nat)
  /-- There are no digits at all. -/
  | numeralEmpty
  | notInteger (base : Nat) (text : String)
  | notReal (text : String)
  /-- The unit of a part of a number in sixties is beyond all numbers. -/
  | unitTooLarge
  | notBool (text : String)
  | notTime
  /-- A mapping stands where the text of a time is needed. -/
  | timeOfMapping
  | calendar (fault : Data.CalendarFault)
  /-- A mapping that stands for a scalar in it stands for itself. -/
  | endless
deriving DecidableEq, Repr

namespace Fault

/-- The number of characters after which the text of a numeral is cut in messages. -/
def shownLength : Nat := 200

def message : Fault → String
  | .malformed => "malformed"
  | .codeOutOfRange => "chr() arg not in range(0x110000)"
  | .codeTooLarge => "Python int too large to convert to C int"
  | .numeralTooLong digits => Text.tooLongMessage digits
  | .numeralEmpty => "string index out of range"
  | .notInteger base text =>
    s!"invalid literal for int() with base {base}: " ++
      String.ofList ((Text.quoted text).toList.take shownLength)
  | .notReal text => s!"could not convert string to float: {Text.quoted text}"
  | .unitTooLarge => "int too large to convert to float"
  | .notBool text => Text.quoted text
  | .notTime => "'NoneType' object has no attribute 'groupdict'"
  | .timeOfMapping => "expected string or bytes-like object, got 'list'"
  | .calendar fault => fault.message
  | .endless => "maximum recursion depth exceeded"

end Fault

end TopicPlan.Yaml
