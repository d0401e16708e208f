import TopicPlan.Data.Calendar
import TopicPlan.Json.Basic

/-!
Values of data files, whichever notation the file has. Keys of a map are scalars, and of equal keys
the last value counts. A collection may be part of itself. Not every value can be written as JSON;
`toJson` says which cannot and why.
-/

namespace TopicPlan.Data

inductive Scalar where
  | null
  | bool (value : Bool)
  | int (value : Int)
  | real (value : Binary64)
  | text (value : String)
  | bytes (value : List UInt8)
  | date (value : Date)
  | moment (value : Moment)
deriving DecidableEq, Repr

inductive Value where
  | scalar (value : Scalar)
  | list (items : List Value)
  | map (entries : List (Scalar × Value))
  /-- Scalars without an order. -/
  | set (members : List Scalar)
  /-- A collection around the place where this stands: the innermost one, or the one around that,
  and so on. -/
  | enclosing (level : Nat)
deriving Repr, Inhabited

namespace Scalar

/-- The integer that a scalar counts as among keys; truth values count as one and zero. -/
def integer? : Scalar → Option Int
  | .bool value => some (if value then 1 else 0)
  | .int value => some value
  | .real value => value.toInt?
  | _ => none

/-- Two keys are one key when they are the same number, moment, or other scalar. -/
def isSameKey (a b : Scalar) : Bool :=
  match a.integer?, b.integer? with
  | some m, some n => m == n
  | none, none =>
    match a, b with
    | .moment a, .moment b => a.isSame b
    | a, b => a == b
  | _, _ => false

end Scalar

def writtenDigits : Nat := Text.digitLimit

def isTooLong (n : Int) : Bool := tenPow writtenDigits ≤ n.natAbs

inductive WritingFault where
  | date
  | moment
  | bytes
  | set
  | dateKey
  | momentKey
  | bytesKey
  | intTooLong
  /-- A collection is part of itself. -/
  | circular
deriving DecidableEq, Repr

namespace WritingFault

def typeMessage (type : String) : String := s!"Object of type {type} is not JSON serializable"

def keyMessage (type : String) : String :=
  s!"keys must be str, int, float, bool or None, not {type}"

def message : WritingFault → String
  | .date => typeMessage "date"
  | .moment => typeMessage "datetime"
  | .bytes => typeMessage "bytes"
  | .set => typeMessage "set"
  | .dateKey => keyMessage "datetime.date"
  | .momentKey => keyMessage "datetime.datetime"
  | .bytesKey => keyMessage "bytes"
  | .intTooLong =>
    s!"Exceeds the limit ({writtenDigits} digits) for integer string conversion; " ++
      "use sys.set_int_max_str_digits() to increase the limit"
  | .circular => "Circular reference detected"

end WritingFault

namespace Scalar

def intText (n : Int) : Except WritingFault String :=
  if isTooLong n then .error .intTooLong else .ok (toString n)

def toJson : Scalar → Except WritingFault Json
  | .null => .ok .null
  | .bool value => .ok (.bool value)
  | .int value => if isTooLong value then .error .intTooLong else .ok (.int value)
  | .real value => .ok (.real value)
  | .text value => .ok (.text value)
  | .bytes _ => .error .bytes
  | .date _ => .error .date
  | .moment _ => .error .moment

/-- The member name that a key becomes: the text of its JSON form. -/
def memberName : Scalar → Except WritingFault String
  | .null => .ok "null"
  | .bool value => .ok (if value then "true" else "false")
  | .int value => intText value
  | .real value => .ok (value.textIn Binary64.dataLayout)
  | .text value => .ok value
  | .bytes _ => .error .bytesKey
  | .date _ => .error .dateKey
  | .moment _ => .error .momentKey

end Scalar

namespace Value

def null : Value := .scalar .null

def text (value : String) : Value := .scalar (.text value)

/-- Whether a value counts as absent: nothing, no, zero, or empty. -/
def isVoid : Value → Bool
  | .scalar .null | .scalar (.bool false) | .scalar (.int 0) | .scalar (.text "") => true
  | .scalar (.real (.finite _ 0 _)) | .scalar (.bytes []) => true
  | .list [] | .map [] | .set [] => true
  | _ => false

mutual

/-- A part of a collection, with `whole` in every place that stands for the collection itself;
`level` is the number of collections around the part inside `whole`. -/
def closed (whole : Value) (level : Nat) : Value → Value
  | .scalar value => .scalar value
  | .list items => .list (closedItems whole (level + 1) items)
  | .map entries => .map (closedEntries whole (level + 1) entries)
  | .set members => .set members
  | .enclosing n => if n = level then whole else .enclosing n

def closedItems (whole : Value) (level : Nat) : List Value → List Value
  | [] => []
  | item :: items => closed whole level item :: closedItems whole level items

def closedEntries (whole : Value) (level : Nat) : List (Scalar × Value) → List (Scalar × Value)
  | [] => []
  | (key, value) :: entries => (key, closed whole level value) :: closedEntries whole level entries

end

/-- The items of a list, each a value of its own. A set counts as a list. -/
def items? : Value → Option (List Value)
  | .list items => some (closedItems (.list items) 0 items)
  | .set members => some (members.map .scalar)
  | _ => none

def entries? : Value → Option (List (Scalar × Value))
  | .map entries => some (closedEntries (.map entries) 0 entries)
  | _ => none

/-- The entries of a map whose keys are text. -/
def members (entries : List (Scalar × Value)) : List (String × Value) :=
  entries.filterMap fun
    | (.text key, value) => some (key, value)
    | _ => none

mutual

def ofJson : Json → Value
  | .null => .scalar .null
  | .bool value => .scalar (.bool value)
  | .int value => .scalar (.int value)
  | .real value => .scalar (.real value)
  | .text value => .scalar (.text value)
  | .array items => .list (ofJsonItems items)
  | .object members => .map (ofJsonMembers members)

def ofJsonItems : List Json → List Value
  | [] => []
  | item :: items => ofJson item :: ofJsonItems items

def ofJsonMembers : List (String × Json) → List (Scalar × Value)
  | [] => []
  | (name, value) :: members => (.text name, ofJson value) :: ofJsonMembers members

end

mutual

/-- The JSON document of a value. The first part that has none is reported. -/
def toJson : Value → Except WritingFault Json
  | .scalar value => value.toJson
  | .list items => do return .array (← itemsToJson items)
  | .map entries => do return .object (← entriesToJson entries)
  | .set _ => .error .set
  | .enclosing _ => .error .circular

def itemsToJson : List Value → Except WritingFault (List Json)
  | [] => .ok []
  | item :: items => do
    let item ← item.toJson
    return item :: (← itemsToJson items)

def entriesToJson : List (Scalar × Value) → Except WritingFault (List (String × Json))
  | [] => .ok []
  | (key, value) :: entries => do
    let name ← key.memberName
    let value ← value.toJson
    return (name, value) :: (← entriesToJson entries)

end

def print (value : Value) : Except WritingFault String := value.toJson.map Json.print

end Value

end TopicPlan.Data
