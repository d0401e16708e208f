import TopicPlan.Json.Basic
import TopicPlan.OrderedMap

/-!
Reading JSON documents. Beyond the standard a document may hold the numbers `NaN`, `Infinity` and
`-Infinity`; of several members of one name the last value counts, in the place of the first. A
reading that fails tells what was missing and where.
-/

namespace TopicPlan.Json

inductive Fault where
  | byteOrderMark
  | valueExpected
  | nameExpected
  | colonExpected
  | commaExpected
  | textUnterminated
  | controlCharacter
  | escapeInvalid
  | unicodeEscapeInvalid
  | extraData
deriving DecidableEq, Repr

def Fault.message : Fault → String
  | .byteOrderMark => "Unexpected UTF-8 BOM (decode using utf-8-sig)"
  | .valueExpected => "Expecting value"
  | .nameExpected => "Expecting property name enclosed in double quotes"
  | .colonExpected => "Expecting ':' delimiter"
  | .commaExpected => "Expecting ',' delimiter"
  | .textUnterminated => "Unterminated string starting at"
  | .controlCharacter => "Invalid control character at"
  | .escapeInvalid => "Invalid \\escape"
  | .unicodeEscapeInvalid => "Invalid \\uXXXX escape"
  | .extraData => "Extra data"

inductive Collection where
  | array
  | object
deriving DecidableEq, Repr

def Collection.name : Collection → String
  | .array => "array"
  | .object => "object"

/-- Where reading stopped: a fault before the last `remaining` characters, a numeral beyond the
digit limit, or a collection inside too many others. -/
inductive Stop where
  | fault (fault : Fault) (remaining : Nat)
  | numeralTooLong (digits : Nat)
  | tooDeep (collection : Collection)
deriving DecidableEq, Repr

/-- A reading that may stop. What reads the front of a text answers with the text after it. -/
abbrev Reading := Except Stop

def stopAt (fault : Fault) (rest : List Char) : Reading α := .error (.fault fault rest.length)

def isSpace (c : Char) : Bool := c == ' ' || c == '\t' || c == '\n' || c == '\r'

def skipSpace (s : List Char) : List Char := s.dropWhile isSpace

def unit? (a b c d : Char) : Option Nat := do
  let digits ← [a, b, c, d].mapM Text.hexValue?
  return digits.foldl (fun n d => 16 * n + d) 0

def escaped? : Char → Option Char
  | '"' => some '"'
  | '\\' => some '\\'
  | '/' => some '/'
  | 'b' => some (Char.ofNat 8)
  | 'f' => some (Char.ofNat 12)
  | 'n' => some '\n'
  | 'r' => some '\r'
  | 't' => some '\t'
  | _ => none

/-- A string whose opening quote is behind. `quote` is the text from that quote on, `read` holds
the codes so far in reverse. An escape of four digits needs a character after it. -/
def textFrom (quote : List Char) (read : List Nat) : List Char → Reading (String × List Char)
  | [] => stopAt .textUnterminated quote
  | '"' :: rest => .ok (String.ofList (Text.ofCodes read.reverse), rest)
  | ['\\'] => stopAt .textUnterminated quote
  | '\\' :: 'u' :: a :: b :: c :: d :: next :: rest =>
    match unit? a b c d with
    | none => .error (.fault .unicodeEscapeInvalid (rest.length + 6))
    | some high =>
      match Text.isHighHalf high, next, rest with
      | true, '\\', 'u' :: e :: f :: g :: h :: after :: rest =>
        match unit? e f g h with
        | none => .error (.fault .unicodeEscapeInvalid (rest.length + 6))
        | some low =>
          if Text.isLowHalf low then
            textFrom quote (Text.ofPair high low :: read) (after :: rest)
          else
            textFrom quote (high :: read)
              ('\\' :: 'u' :: e :: f :: g :: h :: after :: rest)
      | _, next, rest => textFrom quote (high :: read) (next :: rest)
  | '\\' :: 'u' :: rest => .error (.fault .unicodeEscapeInvalid (rest.length + 1))
  | '\\' :: mark :: rest =>
    match escaped? mark with
    | some c => textFrom quote (c.toNat :: read) rest
    | none => .error (.fault .escapeInvalid (rest.length + 2))
  | c :: rest =>
    if c.toNat < 0x20 then .error (.fault .controlCharacter (rest.length + 1))
    else textFrom quote (c.toNat :: read) rest
termination_by s => s.length

/-! The parts of a numeral, each with the text behind it. -/

def wholeAt (s : List Char) : List Char × List Char :=
  match s with
  | '0' :: rest => (['0'], rest)
  | _ => (s.takeWhile Char.isDigit, s.dropWhile Char.isDigit)

/-- A point with the digits behind it, which may be left out. -/
def fractionAt (s : List Char) : List Char × List Char :=
  match s with
  | '.' :: rest =>
    let found := rest.takeWhile Char.isDigit
    if found.isEmpty then ([], s) else ('.' :: found, rest.dropWhile Char.isDigit)
  | _ => ([], s)

def signAt (s : List Char) : List Char × List Char :=
  match s with
  | '+' :: rest => (['+'], rest)
  | '-' :: rest => (['-'], rest)
  | rest => ([], rest)

def exponentAt (s : List Char) : List Char × List Char :=
  match s with
  | mark :: rest =>
    if mark == 'e' || mark == 'E' then
      let found := (signAt rest).2.takeWhile Char.isDigit
      if found.isEmpty then ([], s)
      else (mark :: (signAt rest).1 ++ found, (signAt rest).2.dropWhile Char.isDigit)
    else ([], s)
  | [] => ([], s)

def numberOf (start : List Char) (negative : Bool) (whole fraction exponent rest : List Char) :
    Reading (Json × List Char) :=
  if fraction.isEmpty && exponent.isEmpty then
    match Text.readNat whole with
    | .ok n => .ok (.int (if negative then -(n : Int) else n), rest)
    | .error _ => .error (.numeralTooLong whole.length)
  else
    match Decimal.read? (whole ++ fraction ++ exponent) with
    | some d => .ok (.real (Binary64.ofDecimal negative d), rest)
    | none => stopAt .valueExpected start

/-- The unsigned numeral at the front of `s`; `start` is the text from its sign on. -/
def numberAt (start : List Char) (negative : Bool) (s : List Char) : Reading (Json × List Char) :=
  let (whole, rest) := wholeAt s
  if whole.isEmpty then stopAt .valueExpected start
  else
    let (fraction, rest) := fractionAt rest
    let (exponent, rest) := exponentAt rest
    numberOf start negative whole fraction exponent rest

/-- A word that stands for a value, if the text starts with one. -/
def literalAt? (s : List Char) : Option (Json × List Char) :=
  let words : List (String × Json) :=
    [("null", .null), ("true", .bool true), ("false", .bool false), ("NaN", .real .nan),
      ("Infinity", .real (.infinity false)), ("-Infinity", .real (.infinity true))]
  words.findSome? fun (word, value) =>
    if word.toList.isPrefixOf s then some (value, s.drop word.length) else none

/-- How many collections can be inside each other. -/
def depthLimit : Nat := 988

/-- Goes into a collection, for which there has to be room, and gives the room inside. -/
def enter (collection : Collection) : Nat → Reading Nat
  | 0 => .error (.tooDeep collection)
  | room + 1 => .ok room

mutual

/-- The value at the front of a text. `room` is the number of collections that can still be inside
each other; the argument after it bounds the number of steps. -/
def valueAt (room : Nat) : Nat → List Char → Reading (Json × List Char)
  | 0, s => stopAt .valueExpected s
  | bound + 1, s =>
    match s with
    | '"' :: rest => do
      let (value, rest) ← textFrom s [] rest
      return (.text value, rest)
    | '[' :: rest => do
      let room ← enter .array room
      match skipSpace rest with
      | ']' :: rest => return (.array [], rest)
      | rest => do
        let (items, rest) ← itemsAt room bound rest
        return (.array items, rest)
    | '\x7b' :: rest => do
      let room ← enter .object room
      match skipSpace rest with
      | '\x7d' :: rest => return (.object [], rest)
      | rest => do
        let (members, rest) ← membersAt room bound [] rest
        return (.object members, rest)
    | _ =>
      match literalAt? s with
      | some found => .ok found
      | none =>
        match s with
        | '-' :: rest => numberAt s true rest
        | _ => numberAt s false s

def itemsAt (room : Nat) : Nat → List Char → Reading (List Json × List Char)
  | 0, s => stopAt .valueExpected s
  | bound + 1, s => do
    let (item, rest) ← valueAt room bound s
    match skipSpace rest with
    | ']' :: rest => return ([item], rest)
    | ',' :: rest => do
      let (items, rest) ← itemsAt room bound (skipSpace rest)
      return (item :: items, rest)
    | rest => stopAt .commaExpected rest

/-- The members of an object up to its closing brace, added to the ones before. -/
def membersAt (room : Nat) : Nat → OrderedMap String Json → List Char →
    Reading (OrderedMap String Json × List Char)
  | 0, _, s => stopAt .valueExpected s
  | bound + 1, members, s =>
    match s with
    | '"' :: rest => do
      let (name, rest) ← textFrom s [] rest
      match skipSpace rest with
      | ':' :: rest => do
        let (value, rest) ← valueAt room bound (skipSpace rest)
        let members := OrderedMap.put name value members
        match skipSpace rest with
        | '\x7d' :: rest => return (members, rest)
        | ',' :: rest => membersAt room bound members (skipSpace rest)
        | rest => stopAt .commaExpected rest
      | rest => stopAt .colonExpected rest
    | _ => stopAt .nameExpected s

end

/-- Why a text is no document: a fault at a position, counted from zero, a numeral beyond the digit
limit, or a collection inside too many others. -/
inductive ReadError where
  | malformed (fault : Fault) (line column position : Nat)
  | numeralTooLong (digits : Nat)
  | tooDeep (collection : Collection)
deriving DecidableEq, Repr

def ReadError.message : ReadError → String
  | .malformed fault line column position =>
    s!"{fault.message}: line {line} column {column} (char {position})"
  | .numeralTooLong digits => Text.tooLongMessage digits
  | .tooDeep collection =>
    s!"maximum recursion depth exceeded while decoding a JSON {collection.name} " ++
      "from a unicode string"

def ReadError.atPosition (fault : Fault) (s : List Char) (position : Nat) : ReadError :=
  let before := s.take position
  let column := (before.reverse.takeWhile (· != '\n')).length + 1
  .malformed fault (before.count '\n' + 1) column position

def read (s : String) : Except ReadError Json :=
  let cs := s.toList
  let outcome : Except Stop Json := do
    if cs.head?.any (·.toNat == 0xFEFF) then throw (.fault .byteOrderMark cs.length)
    let (value, rest) ← valueAt depthLimit (2 * cs.length + 2) (skipSpace cs)
    match skipSpace rest with
    | [] => return value
    | rest => throw (.fault .extraData rest.length)
  match outcome with
  | .ok value => .ok value
  | .error (.numeralTooLong digits) => .error (.numeralTooLong digits)
  | .error (.tooDeep collection) => .error (.tooDeep collection)
  | .error (.fault fault remaining) => .error (.atPosition fault cs (cs.length - remaining))

end TopicPlan.Json
