import TopicPlan.Text.Quoted

/-!
Bytes as UTF-8 text. A faulty sequence is reported by its longest start that could have been right,
which is at least one byte. Lines end in one character whatever the bytes say.
-/

namespace TopicPlan.Text

inductive Utf8Fault where
  | startByte
  | continuationByte
  | endOfData
deriving DecidableEq, Repr

def Utf8Fault.message : Utf8Fault → String
  | .startByte => "invalid start byte"
  | .continuationByte => "invalid continuation byte"
  | .endOfData => "unexpected end of data"

/-- `count` bytes from `position` on that are no text; `first` is the first of them. -/
structure Utf8Error where
  fault : Utf8Fault
  position : Nat
  count : Nat
  first : UInt8
deriving DecidableEq, Repr

def Utf8Error.message (e : Utf8Error) : String :=
  let place :=
    if e.count = 1 then
      s!"byte 0x{String.ofList (hexDigits 2 e.first.toNat)} in position {e.position}"
    else s!"bytes in position {e.position}-{e.position + e.count - 1}"
  s!"'utf-8' codec can't decode {place}: {e.fault.message}"

/-- What a first byte of several announces: the bits it carries, the number of bytes after it, and
the range of the next one. -/
structure Lead where
  bits : Nat
  tails : Nat
  low : Nat
  high : Nat

/-- The announcement of a byte beyond ASCII. Ranges narrower than usual keep out longer spellings
of short characters, surrogates, and codes beyond the last. -/
def lead? (byte : Nat) : Option Lead :=
  if 0xC2 ≤ byte && byte ≤ 0xDF then some ⟨byte - 0xC0, 1, 0x80, 0xBF⟩
  else if byte == 0xE0 then some ⟨0, 2, 0xA0, 0xBF⟩
  else if byte == 0xED then some ⟨0xD, 2, 0x80, 0x9F⟩
  else if 0xE1 ≤ byte && byte ≤ 0xEF then some ⟨byte - 0xE0, 2, 0x80, 0xBF⟩
  else if byte == 0xF0 then some ⟨0, 3, 0x90, 0xBF⟩
  else if byte == 0xF4 then some ⟨4, 3, 0x80, 0x8F⟩
  else if 0xF1 ≤ byte && byte ≤ 0xF3 then some ⟨byte - 0xF0, 3, 0x80, 0xBF⟩
  else none

/-- The character and the number of bytes that `tails` more bytes complete, the next of them
between `low` and `high`; or the fault and the number of bytes before it. `used` counts the bytes
so far and `bits` holds theirs. -/
def completeChar (used bits : Nat) (low high : Nat) :
    Nat → List UInt8 → Except (Utf8Fault × Nat) (Char × Nat)
  | 0, _ => .ok (Char.ofNat bits, used)
  | _ + 1, [] => .error (.endOfData, used)
  | tails + 1, byte :: rest =>
    if low ≤ byte.toNat && byte.toNat ≤ high then
      completeChar (used + 1) (bits * 64 + (byte.toNat - 0x80)) 0x80 0xBF tails rest
    else .error (.continuationByte, used)

/-- The character at the front of a byte sequence and the number of its bytes. -/
def firstChar (byte : UInt8) (rest : List UInt8) : Except (Utf8Fault × Nat) (Char × Nat) :=
  if byte.toNat < 0x80 then .ok (Char.ofNat byte.toNat, 1)
  else match lead? byte.toNat with
    | some lead => completeChar 1 lead.bits lead.low lead.high lead.tails rest
    | none => .error (.startByte, 1)

def decodeFrom (position : Nat) : List UInt8 → Except Utf8Error (List Char)
  | [] => .ok []
  | byte :: rest =>
    match firstChar byte rest with
    | .error (fault, count) => .error ⟨fault, position, count, byte⟩
    | .ok (c, count) => (decodeFrom (position + count) (rest.drop (count - 1))).map (c :: ·)
termination_by bytes => bytes.length
decreasing_by simp only [List.length_drop, List.length_cons]; omega

def decodeUtf8 (bytes : List UInt8) : Except Utf8Error (List Char) := decodeFrom 0 bytes

/-- The text with every line ended by one line feed. -/
def unifyLines : List Char → List Char
  | '\r' :: '\n' :: rest => '\n' :: unifyLines rest
  | '\r' :: rest => '\n' :: unifyLines rest
  | c :: rest => c :: unifyLines rest
  | [] => []

end TopicPlan.Text
