import TopicPlan.Data.Value
import TopicPlan.Number.Arithmetic
import TopicPlan.Number.Numeral
import TopicPlan.Text.Base64
import TopicPlan.Text.Case
import TopicPlan.Yaml.Fault
import TopicPlan.Yaml.Tag

/-!
The values of scalars under their types. A text of the form of a type mostly denotes a value of that
type, but a type that is written out can meet any text.
-/

namespace TopicPlan.Yaml

open Data

namespace Typed

/-- A text without the underscores that group digits. -/
def ungrouped (s : List Char) : List Char := s.filter (· != '_')

/-- The sign before a numeral, which needs a character at least. -/
def signed (s : List Char) : Except Fault (Bool × List Char) :=
  if s.isEmpty then .error .numeralEmpty else .ok (Numeral.signed s)

def inBase (base : Nat) (s : List Char) : Except Fault Int :=
  match Numeral.readIntIn base s with
  | some n => .ok n
  | none => .error (.notInteger base (String.ofList s))

/-- The integer of a text in decimal digits, of which there is a limit. -/
def inTens (s : List Char) : Except Fault Int :=
  match Text.readInt s with
  | .ok n => .ok n
  | .error (.tooLong digits) => .error (.numeralTooLong digits)
  | .error .malformed => .error (.notInteger 10 (String.ofList s))

/-- A number whose parts count sixty times the next one. -/
def ofSixties (parts : List Int) : Int := parts.foldl (fun n part => 60 * n + part) 0

/-- The integer of a text after its sign: binary, hexadecimal, octal, in sixties, or decimal. -/
def magnitude (s : List Char) : Except Fault Int :=
  match s with
  | [] => .error .numeralEmpty
  | ['0'] => .ok 0
  | '0' :: 'b' :: digits => inBase 2 digits
  | '0' :: 'x' :: digits => inBase 16 digits
  | '0' :: _ => inBase 8 s
  | _ => if s.contains ':' then ofSixties <$> (Tag.colonParts s).mapM inTens else inTens s

def int (text : String) : Except Fault Int := do
  let (negative, s) ← signed (ungrouped text.toList)
  let n ← magnitude s
  return if negative then -n else n

def real? (s : List Char) : Except Fault Binary64 :=
  match Numeral.readReal s with
  | some x => .ok x
  | none => .error (.notReal (String.ofList s))

def unit (place : Nat) : Except Fault Binary64 :=
  match Binary64.ofInt (Nat.pow 60 place) with
  | .infinity _ => .error .unitTooLarge
  | x => .ok x

/-- The sum of parts times their units, added up from the last part on and rounded at each step. -/
def sumOfParts : List Binary64 → Nat → Binary64 → Except Fault Binary64
  | [], _, sum => .ok sum
  | part :: parts, place, sum => do
    sumOfParts parts (place + 1) (sum.add (part.mul (← unit place)))

def float (text : String) : Except Fault Binary64 := do
  let (negative, s) ← signed (Text.lower (String.ofList (ungrouped text.toList))).toList
  let x ← if s == ".inf".toList then pure (.infinity false)
    else if s == ".nan".toList then pure .nan
    else if s.contains ':' then do
      sumOfParts (← (Tag.colonParts s).mapM real?).reverse 0 (Binary64.zero false)
    else real? s
  return if negative then x.neg else x

def boolWords : List (String × Bool) :=
  [("yes", true), ("no", false), ("true", true), ("false", false), ("on", true), ("off", false)]

def bool (text : String) : Except Fault Bool :=
  let word := Text.lower text
  match boolWords.lookup word with
  | some value => .ok value
  | none => .error (.notBool word)

/-- The bytes of a text in base 64, all of whose characters have to be in ASCII. -/
def binary (text : String) : Except Fault (List UInt8) :=
  if text.toList.all fun c => c.toNat < 128 then
    match Text.Base64.decode? text.toList with
    | some bytes => .ok bytes
    | none => .error .malformed
  else .error .malformed

def timestamp (text : String) : Except Fault Scalar := do
  match TimeNumbers.ofText? (Tag.withoutLastBreak text.toList) with
  | none => throw .notTime
  | some ⟨year, month, day, none⟩ =>
    (.date <$> Date.ofNumbers year month day).mapError .calendar
  | some ⟨year, month, day, some (clock, offset)⟩ =>
    (.moment <$> Moment.ofNumbers year month day clock offset).mapError .calendar

end Typed

def Tag.isOfScalars : Tag → Bool
  | .null | .bool | .int | .float | .binary | .timestamp | .str => true
  | .seq | .map | .set | .pairs | .merge | .value | .foreign => false

/-- The value of a text under a type of scalars; other types have none. -/
def Tag.valueOf? (tag : Tag) (text : String) : Option (Except Fault Scalar) :=
  match tag with
  | .null => some (.ok .null)
  | .bool => some (.bool <$> Typed.bool text)
  | .int => some (.int <$> Typed.int text)
  | .float => some (.real <$> Typed.float text)
  | .binary => some (.bytes <$> Typed.binary text)
  | .timestamp => some (Typed.timestamp text)
  | .str => some (.ok (.text text))
  | .seq | .map | .set | .pairs | .merge | .value | .foreign => none

end TopicPlan.Yaml
