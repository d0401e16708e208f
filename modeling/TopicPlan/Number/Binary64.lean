import TopicPlan.Number.Decimal
import TopicPlan.Number.Power

/-!
Binary64 numbers, kept exactly: every operation here works on the integers behind the number.
Reading rounds a decimal to the nearest number, writing takes the fewest digits that read back.
-/

namespace TopicPlan

/-- A binary64 value. A finite one is `significand · 2 ^ exponent` with `exponent ≥ -1074`, its
significand below `2 ^ 53`, and at least `2 ^ 52` unless the exponent is the least one. -/
inductive Binary64 where
  | nan
  | infinity (negative : Bool)
  | finite (negative : Bool) (significand : Nat) (exponent : Int)
deriving DecidableEq, Repr

/-- The integer nearest to a quotient; of two equally near ones the even one. -/
def roundDiv (num den : Nat) : Nat :=
  let quotient := num / den
  let rest := num % den
  if 2 * rest < den then quotient
  else if den < 2 * rest then quotient + 1
  else if quotient % 2 = 0 then quotient else quotient + 1

namespace Binary64

def leastExponent : Int := -1074
def mostExponent : Int := 971

def zero (negative : Bool) : Binary64 := .finite negative 0 leastExponent

/-- The number nearest to a positive quotient; beyond the largest one lies the infinity. -/
def ofQuotient (negative : Bool) (num den : Nat) : Binary64 :=
  let low : Int := max ((num.log2 : Int) - den.log2 - 53) leastExponent
  let wide : Bool := num * twoPow (-low).toNat ≥ twoPow 53 * (den * twoPow low.toNat)
  let exponent := if wide then low + 1 else low
  let significand := roundDiv (num * twoPow (-exponent).toNat) (den * twoPow exponent.toNat)
  let (significand, exponent) :=
    if significand = twoPow 53 then (twoPow 52, exponent + 1) else (significand, exponent)
  if exponent > mostExponent then .infinity negative
  else .finite negative significand exponent

/-- The number nearest to a decimal. Far outside the range no power is computed. -/
def ofDecimal (negative : Bool) (d : Decimal) : Binary64 :=
  if d.digits = 0 then zero negative
  else if d.exponent > 400 then .infinity negative
  else if d.exponent + d.digits.log2 < -401 then zero negative
  else ofQuotient negative (d.digits * tenPow d.exponent.toNat) (tenPow (-d.exponent).toNat)

def neg : Binary64 → Binary64
  | .nan => .nan
  | .infinity s => .infinity !s
  | .finite s m e => .finite (!s) m e

def toInt? : Binary64 → Option Int
  | .finite negative m e =>
    let signed (n : Nat) : Int := if negative then -(n : Int) else n
    if 0 ≤ e then some (signed (m * twoPow e.toNat))
    else if m % twoPow (-e).toNat = 0 then some (signed (m / twoPow (-e).toNat))
    else none
  | _ => none

/-- The place of the first digit: the greatest `p` with `10 ^ p ≤ significand · 2 ^ exponent`. -/
def decimalPlace (significand : Nat) (exponent : Int) : Int :=
  let reaches (p : Int) : Bool :=
    tenPow p.toNat * twoPow (-exponent).toNat ≤
      significand * twoPow exponent.toNat * tenPow (-p).toNat
  let guess := ((significand.log2 : Int) + exponent) * 30103 / 100000
  if reaches (guess + 1) then guess + 1 else if reaches guess then guess else guess - 1

/-- A decimal of `count` digits that reads back as the number, the nearest of them; of two equally
near ones the even one. Four times the significand is compared with the bounds of the interval
that rounds to the number, the bounds included when the significand is even. -/
def digitsThatReadBack? (significand : Nat) (exponent : Int) (count : Nat) : Option Decimal :=
  let grid := decimalPlace significand exponent - count + 1
  let unit := exponent - 2
  let up := tenPow grid.toNat * twoPow (-unit).toNat
  let down := tenPow (-grid).toNat * twoPow unit.toNat
  let value := 4 * significand * down
  let narrow := significand = twoPow 52 ∧ exponent > leastExponent
  let low := (4 * significand - if narrow then 1 else 2) * down
  let high := (4 * significand + 2) * down
  let inside (n : Nat) : Bool :=
    if significand % 2 = 0 then low ≤ n * up && n * up ≤ high else low < n * up && n * up < high
  let below := value / up
  let above := below + 1
  match inside below, inside above with
  | false, false => none
  | true, false => some ⟨below, grid⟩
  | false, true => some ⟨above, grid⟩
  | true, true =>
    let twice := (below + above) * up
    if 2 * value < twice ∨ (2 * value = twice ∧ below % 2 = 0) then some ⟨below, grid⟩
    else some ⟨above, grid⟩

/-- The decimal of fewest digits that reads back; seventeen are always enough. -/
def shortest (significand : Nat) (exponent : Int) : Decimal :=
  if significand = 0 then ⟨0, 0⟩
  else
    let found := (List.range 17).findSome? fun i =>
      digitsThatReadBack? significand exponent (i + 1)
    (found.getD ⟨significand, exponent⟩).normal

/-- How numbers are written. The point's place counts the digits before it, and is negative when
zeros follow it; between `leastPoint` and `mostPoint` numbers are positional, beyond them they have
an exponent of at least two digits. -/
structure Layout where
  leastPoint : Int
  mostPoint : Int
  nan : String
  infinity : String

def plainLayout : Layout := ⟨-3, 16, "nan", "inf"⟩

def dataLayout : Layout := ⟨-3, 16, "NaN", "Infinity"⟩

def zeros (n : Nat) : List Char := List.replicate n '0'

def positional (digits : List Char) (point : Int) : List Char :=
  if point ≤ 0 then '0' :: '.' :: zeros (-point).toNat ++ digits
  else if point ≥ digits.length then digits ++ zeros (point.toNat - digits.length) ++ ['.', '0']
  else digits.take point.toNat ++ '.' :: digits.drop point.toNat

def scientific (digits : List Char) (point : Int) : List Char :=
  let power := point - 1
  let exponent := Nat.toDigits 10 power.natAbs
  digits.take 1 ++ (if digits.length > 1 then '.' :: digits.drop 1 else []) ++
    'e' :: (if power < 0 then '-' else '+') :: (zeros (2 - exponent.length) ++ exponent)

def textIn (layout : Layout) : Binary64 → String
  | .nan => layout.nan
  | .infinity negative => (if negative then "-" else "") ++ layout.infinity
  | .finite negative m e =>
    let d := shortest m e
    let digits := Nat.toDigits 10 d.digits
    let point := d.exponent + digits.length
    let body := if layout.leastPoint ≤ point ∧ point ≤ layout.mostPoint then
      positional digits point else scientific digits point
    String.ofList ((if negative then ['-'] else []) ++ body)

def text (x : Binary64) : String := x.textIn plainLayout

/-- The number that a text denotes, signs and the names of the special values included. -/
def read? (s : String) : Option Binary64 :=
  let (negative, body) : Bool × List Char := match s.toList with
    | '-' :: r => (true, r)
    | '+' :: r => (false, r)
    | r => (false, r)
  if body == plainLayout.nan.toList then some .nan
  else if body == plainLayout.infinity.toList then some (.infinity negative)
  else (Decimal.read? body).map (ofDecimal negative)

end Binary64

end TopicPlan
