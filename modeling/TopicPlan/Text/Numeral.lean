import TopicPlan.Text.Blank

/-!
Integers as they are written in text: one sign, decimal digits of any script, and single
underscores between digits. A numeral has a digit limit, beyond which it is refused whatever its
value.
-/

namespace TopicPlan.Text

/-- The zeros of the decimal scripts; the digits one to nine follow each of them. -/
def decimalZeros : List Nat :=
  [0x30, 0x660, 0x6F0, 0x7C0, 0x966, 0x9E6, 0xA66, 0xAE6, 0xB66, 0xBE6, 0xC66, 0xCE6, 0xD66, 0xDE6,
   0xE50, 0xED0, 0xF20, 0x1040, 0x1090, 0x17E0, 0x1810, 0x1946, 0x19D0, 0x1A80, 0x1A90, 0x1B50,
   0x1BB0, 0x1C40, 0x1C50, 0xA620, 0xA8D0, 0xA900, 0xA9D0, 0xA9F0, 0xAA50, 0xABF0, 0xFF10, 0x104A0,
   0x10D30, 0x11066, 0x110F0, 0x11136, 0x111D0, 0x112F0, 0x11450, 0x114D0, 0x11650, 0x116C0,
   0x11730, 0x118E0, 0x11950, 0x11C50, 0x11D50, 0x11DA0, 0x16A60, 0x16AC0, 0x16B50, 0x1D7CE,
   0x1D7D8, 0x1D7E2, 0x1D7EC, 0x1D7F6, 0x1E140, 0x1E2F0, 0x1E950, 0x1FBF0]

/-- The value of a decimal digit of any script. -/
def digitValue? (c : Char) : Option Nat :=
  (decimalZeros.find? fun first => first ≤ c.toNat && c.toNat < first + 10).map (c.toNat - ·)

/-- The digits of a numeral in which single underscores may group them. -/
def groupedDigits? : List Char → Option (List Nat)
  | [] => none
  | [c] => (digitValue? c).map ([·])
  | c :: '_' :: rest => do return (← digitValue? c) :: (← groupedDigits? rest)
  | c :: rest => do return (← digitValue? c) :: (← groupedDigits? rest)

def ofDigits (digits : List Nat) : Nat := digits.foldl (fun n d => 10 * n + d) 0

inductive NumeralError where
  | malformed
  | tooLong (digits : Nat)
deriving DecidableEq, Repr

/-- The most digits a numeral may have, leading zeros included. -/
def digitLimit : Nat := 4300

def tooLongMessage (digits : Nat) : String :=
  s!"Exceeds the limit ({digitLimit} digits) for integer string conversion: value has {digits} " ++
    "digits; use sys.set_int_max_str_digits() to increase the limit"

def boundedNumber (digits : List Nat) : Except NumeralError Nat :=
  if digits.length ≤ digitLimit then .ok (ofDigits digits) else .error (.tooLong digits.length)

/-- The number that plain digits `0` to `9` denote. -/
def readNat (s : List Char) : Except NumeralError Nat :=
  if !s.isEmpty && s.all Char.isDigit then boundedNumber (s.map fun c => c.toNat - 48)
  else .error .malformed

/-- The blanks that may stand around a numeral. The information separators may not. -/
def isMargin (c : Char) : Bool := isBlank c && !(28 ≤ c.toNat && c.toNat ≤ 31)

def readInt (s : List Char) : Except NumeralError Int :=
  let unsigned (t : List Char) : Except NumeralError Nat :=
    match groupedDigits? t with
    | some digits => boundedNumber digits
    | none => .error .malformed
  match stripWhere isMargin s with
  | '-' :: t => (unsigned t).map fun n => -(n : Int)
  | '+' :: t => (unsigned t).map fun n => (n : Int)
  | t => (unsigned t).map fun n => (n : Int)

end TopicPlan.Text
