import TopicPlan.Data.Value
import TopicPlan.OrderedMap
import TopicPlan.Text.Utf8

/-!
Checks of values from data files. A check of a whole collects the faults of all its parts, each
with the path that leads to it, in the order in which the parts are looked at.
-/

namespace TopicPlan.Data

/-- A step from a value to one of its parts. -/
inductive Step where
  | name (key : String)
  | index (position : Int)
deriving DecidableEq, Repr

inductive Cause where
  | missing
  | notText
  /-- Bytes that encode no text, or a text with half of a surrogate pair where none may be. -/
  | textUnreadable
  | notList
  | notMap
  /-- No map, where one with the fields of a kind of record is needed. -/
  | notRecord (kind : String)
  | notBool
  | boolUnreadable
  | notInt
  | intUnreadable
  | intFractional
  | intInfinite
  | intTooLarge
  /-- A value of the right shape that a rule of its field refuses. -/
  | refused (reason : String)
deriving DecidableEq, Repr

def Cause.message : Cause → String
  | .missing => "Field required"
  | .notText => "Input should be a valid string"
  | .textUnreadable =>
    "Input should be a valid string, unable to parse raw data as a unicode string"
  | .notList => "Input should be a valid list"
  | .notMap => "Input should be a valid dictionary"
  | .notRecord kind => s!"Input should be a valid dictionary or instance of {kind}"
  | .notBool => "Input should be a valid boolean"
  | .boolUnreadable => "Input should be a valid boolean, unable to interpret input"
  | .notInt => "Input should be a valid integer"
  | .intUnreadable => "Input should be a valid integer, unable to parse string as an integer"
  | .intFractional => "Input should be a valid integer, got a number with a fractional part"
  | .intInfinite => "Input should be a finite number"
  | .intTooLarge => "Unable to parse input string as an integer, exceeded maximum size"
  | .refused reason => s!"Value error, {reason}"

structure Fault where
  path : List Step
  cause : Cause
deriving DecidableEq, Repr

def faultCount (kind : String) (faults : List Fault) : String :=
  s!"{faults.length} validation " ++ (if faults.length = 1 then "error" else "errors") ++
    s!" for {kind}"

/-- What a check finds: the value's content, or its faults. -/
inductive Checked (α : Type) where
  | valid (content : α)
  | faulty (faults : List Fault)
deriving Repr

namespace Checked

def map (f : α → β) : Checked α → Checked β
  | .valid content => .valid (f content)
  | .faulty faults => .faulty faults

/-- Two checks are both made; the faults of the first come first. -/
def ap : Checked (α → β) → Checked α → Checked β
  | .valid f, .valid content => .valid (f content)
  | .valid _, .faulty faults => .faulty faults
  | .faulty faults, .valid _ => .faulty faults
  | .faulty faults, .faulty more => .faulty (faults ++ more)

instance : Applicative Checked where
  pure := .valid
  map := map
  seq f x := ap f (x ())

def faults : Checked α → List Fault
  | .valid _ => []
  | .faulty faults => faults

def under (step : Step) : Checked α → Checked α
  | .valid content => .valid content
  | .faulty faults => .faulty (faults.map fun fault => { fault with path := step :: fault.path })

def require (holds : α → Bool) (reason : String) : Checked α → Checked α
  | .valid content => if holds content then .valid content else .faulty [⟨[], .refused reason⟩]
  | .faulty faults => .faulty faults

end Checked

abbrev Check (α : Type) := Value → Checked α

def fail (cause : Cause) : Checked α := .faulty [⟨[], cause⟩]

namespace Check

def any : Check Value := .valid

/-- The text that bytes encode; `cause` is the fault of those that encode none. -/
def decoded (cause : Cause) (bytes : List UInt8) : Checked String :=
  match Text.decodeUtf8 bytes with
  | .ok cs => .valid (Text.held (String.ofList cs))
  | .error _ => fail cause

/-- A text, or bytes that encode one. -/
def text : Check String
  | .scalar (.text s) => .valid s
  | .scalar (.bytes bytes) => decoded .textUnreadable bytes
  | _ => fail .notText

/-- The words of a value that is to be read from a text without halves of surrogate pairs. -/
def words? (cause : Cause) : Value → Option (Checked String)
  | .scalar (.text s) => some (if Text.hasHalf s then fail .textUnreadable else .valid s)
  | .scalar (.bytes bytes) => some (decoded cause bytes)
  | _ => none

def nullable (check : Check α) : Check (Option α)
  | .scalar .null => .valid none
  | value => (check value).map some

/-- The truth values in words, with their other spellings in any case. -/
def trueWords : List String := ["1", "on", "t", "true", "y", "yes"]

def falseWords : List String := ["0", "off", "f", "false", "n", "no"]

def wordBound : Nat := twoPow 63

def fitsWord (n : Int) : Bool := -(wordBound : Int) ≤ n && n < wordBound

def boolOfWord (s : String) : Checked Bool :=
  let word := String.ofList (s.toList.map Char.toLower)
  if word ∈ trueWords then .valid true
  else if word ∈ falseWords then .valid false
  else fail .boolUnreadable

/-- The truth value of an integer; far away from one and zero nothing is tried. -/
def boolOfInt (isNear : Int → Bool) (n : Int) : Checked Bool :=
  if !isNear n then fail .notBool
  else if n = 0 then .valid false
  else if n = 1 then .valid true
  else fail .boolUnreadable

/-- A truth value: itself, one or zero, or one of the words. -/
def bool : Check Bool := fun value =>
  match value, words? .boolUnreadable value with
  | _, some (.valid word) => boolOfWord word
  | _, some (.faulty faults) => .faulty faults
  | .scalar (.bool value), none => .valid value
  | .scalar (.int n), none => boolOfInt fitsWord n
  | .scalar (.real x), none =>
    match x.toInt? with
    | some n => boolOfInt (fun n => n.natAbs < wordBound) n
    | none => fail .notBool
  | _, none => fail .notBool

/-- A numeral without its leading zeros, between which underscores may stand. A sign may follow
them. -/
def withoutLeadingZeros (s : List Char) : Option (List Char) :=
  match s with
  | '0' :: _ =>
    let zeros := s.takeWhile fun c => c == '0' || c == '_'
    match s.dropWhile fun c => c == '0' || c == '_' with
    | [] => some zeros.getLast?.toList
    | '.' :: rest => some (zeros.getLast?.toList ++ '.' :: rest)
    | c :: rest => if c.isDigit || c == '-' then some (c :: rest) else none
  | c :: _ => if c.isDigit then some s else none
  | [] => none

/-- A numeral without a fraction of zeros, of which there has to be one. -/
def withoutZeroFraction (s : List Char) : List Char :=
  match s.dropWhile (· != '.') with
  | _ :: fraction =>
    if !fraction.isEmpty && fraction.all (· == '0') then s.takeWhile (· != '.') else s
  | [] => s

/-- A numeral without underscores. They have to be single, and between other characters. -/
def withoutUnderscores (s : List Char) : List Char :=
  let isSingle : Bool := !(s.zip (s.drop 1)).any fun (c, d) => c == '_' && d == '_'
  if s.head? != some '_' && s.getLast? != some '_' && isSingle then s.filter (· != '_') else s

def cleanNumeral? (s : List Char) : Option (Bool × List Char) := do
  let (negative, numeral) : Bool × List Char := match Text.stripWhere Text.isMargin s with
    | '-' :: rest => (true, rest)
    | '+' :: rest => (false, rest)
    | rest => (false, rest)
  let numeral ← withoutLeadingZeros numeral
  return (negative, withoutUnderscores (withoutZeroFraction numeral))

/-- The most characters that a numeral may have, its sign included. -/
def numeralLimit : Nat := 4300

/-- The integer that a sign and the characters after it denote. Only zero begins with a zero; too
many digits are a fault of their own, whatever comes after them. -/
def signedInt (negative : Bool) (s : List Char) : Checked Int :=
  let digits := s.takeWhile Char.isDigit
  let length := digits.length + (if negative then 1 else 0)
  if digits.isEmpty then fail .intUnreadable
  else if digits.head? == some '0' then if s == ['0'] then .valid 0 else fail .intUnreadable
  else if numeralLimit < length then fail .intTooLarge
  else if digits != s then fail .intUnreadable
  else
    let n := Text.ofDigits (digits.map fun c => c.toNat - 48)
    .valid (if negative then -(n : Int) else n)

/-- The integer that a text denotes. A sign that follows leading zeros counts if there is none
before them. -/
def intOfText (s : List Char) : Checked Int :=
  match cleanNumeral? s with
  | none => fail .intUnreadable
  | some (false, '-' :: digits) => signedInt true digits
  | some (negative, digits) => signedInt negative digits

/-- An integer: itself, a truth value as one or zero, a number without a fraction, or a numeral. -/
def int : Check Int := fun value =>
  match value, words? .intUnreadable value with
  | _, some (.valid numeral) => intOfText numeral.toList
  | _, some (.faulty faults) => .faulty faults
  | .scalar (.bool value), none => .valid (if value then 1 else 0)
  | .scalar (.int n), none => .valid n
  | .scalar (.real x), none =>
    match x, x.toInt? with
    | .finite .., none => fail .intFractional
    | _, none => fail .intInfinite
    | _, some n => if n.natAbs < wordBound then .valid n else fail .intTooLarge
  | _, none => fail .notInt

def itemsFrom (check : Check α) : Nat → List Value → Checked (List α)
  | _, [] => .valid []
  | position, item :: items =>
    List.cons <$> (check item).under (.index position) <*> itemsFrom check (position + 1) items

def list (check : Check α) : Check (List α) := fun value =>
  match value.items? with
  | some items => itemsFrom check 0 items
  | none => fail .notList

def keyStep : Scalar → Step
  | .null => .name "None"
  | .bool value => .index (if value then 1 else 0)
  | .int n =>
    if fitsWord n then .index n
    else if isTooLong n then .name "<unprintable int object>"
    else .name (toString n)
  | .real x => .name x.text
  | .text s => .name s
  | .bytes bytes => .name (Text.quotedBytes bytes)
  | .date d => .name d.text
  | .moment m => .name m.text

def entry : Scalar × Value → Checked (String × Value)
  | (key, value) =>
    match text (.scalar key) with
    | .valid key => .valid (key, value)
    | .faulty faults => (Checked.under (.name "[key]") (.faulty faults)).under (keyStep key)

def entries : List (Scalar × Value) → Checked (List (String × Value))
  | [] => .valid []
  | first :: rest => List.cons <$> entry first <*> entries rest

def map : Check (OrderedMap String Value) := fun value =>
  match value.entries? with
  | some es => (entries es).map OrderedMap.lastWins
  | none => fail .notMap

def fields (kind : String) (read : OrderedMap String Value → Checked α) : Check α := fun value =>
  match value.entries? with
  | some es => read (Value.members es)
  | none => fail (.notRecord kind)

end Check

/-- The first of some names that a map has, with its value. -/
def firstNamed? (map : OrderedMap String Value) (names : List String) : Option (String × Value) :=
  names.findSome? fun name => (OrderedMap.get? name map).map (name, ·)

def required (name : String) (others : List String) (check : Check α)
    (map : OrderedMap String Value) : Checked α :=
  match firstNamed? map (name :: others) with
  | some (found, value) => (check value).under (.name found)
  | none => (fail .missing).under (.name name)

def optional (name : String) (others : List String) (standard : α) (check : Check α)
    (map : OrderedMap String Value) : Checked α :=
  match firstNamed? map (name :: others) with
  | some (found, value) => (check value).under (.name found)
  | none => .valid standard

end TopicPlan.Data
