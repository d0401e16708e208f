import TopicPlan.Yaml.Time

/-!
Tags: the types of nodes. A tag is written out, or else it follows from the text of a plain scalar,
which has the form of a truth value, a number, a time, or nothing at all. A line break at the end of
the text does not matter to its form.
-/

namespace TopicPlan.Yaml

inductive Tag where
  | null
  | bool
  | int
  | float
  | binary
  | timestamp
  | str
  | seq
  | map
  /-- A mapping's keys without their values. -/
  | set
  /-- Pairs of a key and a value in order, which may repeat. -/
  | pairs
  /-- The key under which a mapping merges others. -/
  | merge
  /-- The key of the entry that stands for its whole mapping. -/
  | value
  /-- A type that no value has. -/
  | foreign
deriving DecidableEq, Repr

namespace Tag

/-- What the names of all known types begin with. -/
def namespaceStart : List Char := "tag:yaml.org,2002:".toList

def named : List (String × Tag) :=
  [("null", .null), ("bool", .bool), ("int", .int), ("float", .float), ("binary", .binary),
    ("timestamp", .timestamp), ("str", .str), ("seq", .seq), ("map", .map), ("set", .set),
    ("omap", .pairs), ("pairs", .pairs), ("merge", .merge), ("value", .value)]

def ofName (name : String) : Tag :=
  let cs := name.toList
  if namespaceStart.isPrefixOf cs then
    (named.lookup (String.ofList (cs.drop namespaceStart.length))).getD .foreign
  else .foreign

/-! The forms of plain scalars. -/

/-- The words for truth values: in small letters, capitalised, or in capitals. -/
def isBoolWord (s : List Char) : Bool :=
  let spellings (word : String) : List (List Char) :=
    let cs := word.toList
    [cs, (cs.take 1).map Char.toUpper ++ cs.drop 1, cs.map Char.toUpper]
  (["yes", "no", "true", "false", "on", "off"].flatMap spellings).contains s

def isNullWord (s : List Char) : Bool :=
  ["", "~", "null", "Null", "NULL"].any fun word => word.toList == s

def unsigned (s : List Char) : List Char :=
  match s with
  | '-' :: rest | '+' :: rest => rest
  | rest => rest

def isDigitOrGroup (c : Char) : Bool := c.isDigit || c == '_'

/-- Whether a text begins with a digit and goes on with digits and underscores. -/
def isGrouped (s : List Char) : Bool := s.head?.any Char.isDigit && s.all isDigitOrGroup

/-- A part of a number in sixties: one digit or two, less than sixty. -/
def isSixtieth (s : List Char) : Bool :=
  match s with
  | [d] => d.isDigit
  | [t, d] => '0' ≤ t && t ≤ '5' && d.isDigit
  | _ => false

def colonParts (s : List Char) : List (List Char) :=
  s.foldr (fun c parts =>
    match parts with
    | part :: rest => if c == ':' then [] :: part :: rest else (c :: part) :: rest
    | [] => [[c]]) [[]]

def isSixties (s : List Char) : Bool :=
  match colonParts s with
  | first :: second :: rest => isGrouped first && (second :: rest).all isSixtieth
  | _ => false

def isHexDigit (c : Char) : Bool :=
  c.isDigit || ('a' ≤ c && c ≤ 'f') || ('A' ≤ c && c ≤ 'F')

/-- Binary, octal, hexadecimal, and decimal integers, and integers in sixties. -/
def isInt (s : List Char) : Bool :=
  match unsigned s with
  | '0' :: 'b' :: digits =>
    !digits.isEmpty && digits.all fun c => c == '0' || c == '1' || c == '_'
  | '0' :: 'x' :: digits => !digits.isEmpty && digits.all fun c => isHexDigit c || c == '_'
  | '0' :: digits => digits.all fun c => ('0' ≤ c && c ≤ '7') || c == '_'
  | s => isGrouped s || isSixties s

/-- An exponent with its sign; it may be left out. -/
def isExponent (s : List Char) : Bool :=
  match s with
  | [] => true
  | e :: sign :: digits =>
    (e == 'e' || e == 'E') && (sign == '-' || sign == '+') && !digits.isEmpty &&
      digits.all Char.isDigit
  | [_] => false

/-- Digits around a point, and an exponent. Without digits before the point there is no sign. -/
def isPointed (s : List Char) : Bool :=
  let whole := (unsigned s).takeWhile isDigitOrGroup
  match (unsigned s).dropWhile isDigitOrGroup with
  | '.' :: rest =>
    let fraction := rest.takeWhile isDigitOrGroup
    isExponent (rest.dropWhile isDigitOrGroup) &&
      (isGrouped whole || (s.head? == some '.' && isGrouped fraction))
  | _ => false

/-- A number in sixties, and a point with digits after it. -/
def isPointedSixties (s : List Char) : Bool :=
  match (unsigned s).reverse.dropWhile isDigitOrGroup with
  | '.' :: whole => isSixties whole.reverse
  | _ => false

def isReal (s : List Char) : Bool :=
  let isWord (words : List String) (s : List Char) : Bool := words.any fun word => word.toList == s
  isPointed s || isPointedSixties s || isWord [".inf", ".Inf", ".INF"] (unsigned s) ||
    isWord [".nan", ".NaN", ".NAN"] s

def withoutLastBreak (s : List Char) : List Char :=
  if s.getLast? == some '\n' then s.dropLast else s

/-- The type of a plain scalar. A text that begins with a line break has no form but its own. -/
def ofPlain (text : String) : Tag :=
  let s := withoutLastBreak text.toList
  if text.toList.head? == some '\n' then .str
  else if isBoolWord s then .bool
  else if isReal s then .float
  else if isInt s then .int
  else if s == ['<', '<'] then .merge
  else if isNullWord s then .null
  else if TimeNumbers.isTime s then .timestamp
  else if s == ['='] then .value
  else if s == ['!'] || s == ['&'] || s == ['*'] then .foreign
  else .str

end Tag

end TopicPlan.Yaml
