import TopicPlan.Number.Binary64
import TopicPlan.Text.Quoted

/-!
JSON documents, with the members of an object in order, and their text: one line, a space after
each comma and colon, and nothing but printable ASCII.
-/

namespace TopicPlan

/-- A JSON document. Whole numbers are kept apart from the others. -/
inductive Json where
  | null
  | bool (value : Bool)
  | int (value : Int)
  | real (value : Binary64)
  | text (value : String)
  | array (items : List Json)
  | object (members : List (String × Json))
deriving Repr, Inhabited

namespace Json

def escapeUnit (code : Nat) : List Char := '\\' :: 'u' :: Text.hexDigits 4 code

/-- A code between double quotes; beyond the basic plane it is a pair of surrogates. -/
def escape (code : Nat) : List Char :=
  let c := Text.charOf code
  if c == '"' || c == '\\' then ['\\', c]
  else if ' ' ≤ c && c ≤ '~' then [c]
  else if c == '\n' then ['\\', 'n']
  else if c == '\r' then ['\\', 'r']
  else if c == '\t' then ['\\', 't']
  else if code == 8 then ['\\', 'b']
  else if code == 12 then ['\\', 'f']
  else if code < 0x10000 then escapeUnit code
  else
    let offset := code - 0x10000
    escapeUnit (0xD800 + offset / 0x400) ++ escapeUnit (0xDC00 + offset % 0x400)

def writeText (s : String) (rest : List Char) : List Char :=
  '"' :: (Text.codes s.toList).flatMap escape ++ '"' :: rest

mutual

def write : Json → List Char → List Char
  | .null, rest => "null".toList ++ rest
  | .bool value, rest => (if value then "true" else "false").toList ++ rest
  | .int value, rest => (toString value).toList ++ rest
  | .real value, rest => (value.textIn Binary64.dataLayout).toList ++ rest
  | .text value, rest => writeText value rest
  | .array items, rest => '[' :: writeItems items (']' :: rest)
  | .object members, rest => '\x7b' :: writeMembers members ('\x7d' :: rest)

def writeItems : List Json → List Char → List Char
  | [], rest => rest
  | item :: items, rest => item.write (writeMoreItems items rest)

def writeMoreItems : List Json → List Char → List Char
  | [], rest => rest
  | item :: items, rest => ',' :: ' ' :: item.write (writeMoreItems items rest)

def writeMembers : List (String × Json) → List Char → List Char
  | [], rest => rest
  | (name, value) :: members, rest =>
    writeText name (':' :: ' ' :: value.write (writeMoreMembers members rest))

def writeMoreMembers : List (String × Json) → List Char → List Char
  | [], rest => rest
  | (name, value) :: members, rest =>
    ',' :: ' ' :: writeText name (':' :: ' ' :: value.write (writeMoreMembers members rest))

end

def print (document : Json) : String := String.ofList (document.write [])

end Json

end TopicPlan
