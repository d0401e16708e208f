/-!
Bytes written in base 64. Four digits stand for three bytes; characters that are no digits do not
count, and a mark that fills the last group up ends the text.
-/

namespace TopicPlan.Text.Base64

def digit? (c : Char) : Option Nat :=
  if 'A' ≤ c && c ≤ 'Z' then some (c.toNat - 65)
  else if 'a' ≤ c && c ≤ 'z' then some (c.toNat - 97 + 26)
  else if '0' ≤ c && c ≤ '9' then some (c.toNat - 48 + 52)
  else if c == '+' then some 62
  else if c == '/' then some 63
  else none

def filler : Char := '='

/-- The byte that a digit completes at its place in a group, the digit before it being `last`. -/
def byteAt (place last digit : Nat) : List UInt8 :=
  match place with
  | 0 => []
  | 1 => [UInt8.ofNat (last * 4 + digit / 16)]
  | 2 => [UInt8.ofNat (last % 16 * 16 + digit / 4)]
  | _ => [UInt8.ofNat (last % 4 * 64 + digit)]

/-- The bytes of a text whose first characters are read: `place` digits of a group are behind, the
last of them being `last`, and `fillers` marks after them. A group may not stay open. -/
def decodeFrom (place last fillers : Nat) : List Char → Option (List UInt8)
  | [] => if place = 0 then some [] else none
  | c :: rest =>
    if c == filler then
      if place < 2 then decodeFrom place last fillers rest
      else if place + fillers + 1 ≥ 4 then some []
      else decodeFrom place last (fillers + 1) rest
    else match digit? c with
      | none => decodeFrom place last fillers rest
      | some digit =>
        (decodeFrom ((place + 1) % 4) digit 0 rest).map (byteAt place last digit ++ ·)

def decode? (s : List Char) : Option (List UInt8) := decodeFrom 0 0 0 s

end TopicPlan.Text.Base64
