import TopicPlan.Data.Calendar
import TopicPlan.Number.Power
import TopicPlan.Text.Numeral

/-!
Days and moments as they are written in a YAML text: year, month and day between dashes, and then,
after a letter or blanks, the time of day and its offset.
-/

namespace TopicPlan.Yaml

open Data

structure TimeNumbers where
  year : Nat
  month : Nat
  day : Nat
  clock : Option (Clock × Option Int)
deriving DecidableEq, Repr

namespace TimeNumbers

def number (s : List Char) : Nat := Text.ofDigits (s.map fun c => c.toNat - 48)

/-- Between `least` and `most` digits at the front of a text, and the text after them. -/
def digits? (least most : Nat) (s : List Char) : Option (Nat × List Char) :=
  let digits := (s.take most).takeWhile Char.isDigit
  if least ≤ digits.length then some (number digits, s.drop digits.length) else none

def mark? (c : Char) : List Char → Option (List Char)
  | d :: rest => if c == d then some rest else none
  | [] => none

def isBlank (c : Char) : Bool := c == ' ' || c == '\t'

/-- The offset at the end of a moment, in minutes; none where nothing is said. -/
def offset? (s : List Char) : Option (Option Int) :=
  match s.dropWhile isBlank with
  | [] => if s.isEmpty then some none else none
  | ['Z'] => some (some 0)
  | sign :: rest => do
    let negative ← if sign == '-' then some true else if sign == '+' then some false else none
    let (hours, rest) ← digits? 1 2 rest
    let minutes ← match rest with
      | [] => some 0
      | ':' :: rest => match digits? 2 2 rest with
        | some (minutes, []) => some minutes
        | _ => none
      | _ => none
    let offset : Int := 60 * hours + minutes
    return some (if negative then -offset else offset)

def clock? (s : List Char) : Option (Clock × Option Int) := do
  let s ← match s with
    | 'T' :: rest | 't' :: rest => some rest
    | c :: rest => if isBlank c then some (rest.dropWhile isBlank) else none
    | [] => none
  let (hour, s) ← digits? 1 2 s
  let (minute, s) ← digits? 2 2 (← mark? ':' s)
  let (second, s) ← digits? 2 2 (← mark? ':' s)
  let (fraction, s) := match s with
    | '.' :: rest => (rest.takeWhile Char.isDigit, rest.dropWhile Char.isDigit)
    | s => ([], s)
  let offset ← offset? s
  let micros := fraction.take 6
  let microsecond := number micros * tenPow (6 - micros.length)
  return (⟨hour, minute, second, microsecond⟩, offset)

def ofText? (s : List Char) : Option TimeNumbers := do
  let (year, s) ← digits? 4 4 s
  let (month, s) ← digits? 1 2 (← mark? '-' s)
  let (day, s) ← digits? 1 2 (← mark? '-' s)
  if s.isEmpty then return ⟨year, month, day, none⟩
  else return ⟨year, month, day, some (← clock? s)⟩

/-- Whether a plain scalar is a day or a moment. A day alone has two digits each for its month and
its day. -/
def isTime (s : List Char) : Bool :=
  match ofText? s with
  | none => false
  | some ⟨_, _, _, some _⟩ => true
  | some ⟨_, _, _, none⟩ => s.length == 10

end TimeNumbers

end TopicPlan.Yaml
