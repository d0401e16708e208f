import TopicPlan.Number.Binary64
import TopicPlan.Text.Quoted

/-!
Numbers as people write them: blanks around the numeral, digits of any script, a sign, and the names
of the special values in any case; integers in any base up to sixteen, whose mark may come first.
-/

namespace TopicPlan.Numeral

/-- The text of a numeral with its digits in ASCII, and without the blanks around it. -/
def plain (s : List Char) : List Char :=
  (Text.stripWhere Text.isMargin s).map fun c =>
    match Text.digitValue? c with
    | some digit => Char.ofNat (48 + digit)
    | none => c

def signed (s : List Char) : Bool × List Char :=
  match s with
  | '-' :: rest => (true, rest)
  | '+' :: rest => (false, rest)
  | rest => (false, rest)

def digitIn? (base : Nat) (c : Char) : Option Nat := (Text.hexValue? c).filter (· < base)

/-- The letter between a zero and the digits of a base. -/
def baseMark (base : Nat) : Option Char :=
  if base = 2 then some 'b' else if base = 8 then some 'o' else if base = 16 then some 'x' else none

def withoutMark (base : Nat) (s : List Char) : List Char :=
  match s with
  | '0' :: mark :: rest => if baseMark base == some mark.toLower then rest else s
  | _ => s

def readIntIn (base : Nat) (s : List Char) : Option Int :=
  let (negative, s) := signed (plain s)
  let s := withoutMark base s
  match s.mapM (digitIn? base) with
  | none | some [] => none
  | some digits =>
    let n := digits.foldl (fun n digit => base * n + digit) 0
    some (if negative then -(n : Int) else n)

def infinityNames : List String := ["inf", "infinity"]

def noneName : String := "nan"

def readReal (s : List Char) : Option Binary64 :=
  let (negative, s) := signed (plain s)
  let name := String.ofList (s.map Char.toLower)
  if name = noneName then some .nan
  else if name ∈ infinityNames then some (.infinity negative)
  else (Decimal.read? s).map (Binary64.ofDecimal negative)

end TopicPlan.Numeral
