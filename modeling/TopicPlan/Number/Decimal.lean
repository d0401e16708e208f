import TopicPlan.Text.Numeral

/-!
Finite decimals: an integer of digits times a power of ten, the way numerals with a point or an
exponent are written.
-/

namespace TopicPlan

/-- The number `digits · 10 ^ exponent`. -/
structure Decimal where
  digits : Nat
  exponent : Int
deriving DecidableEq, Repr

namespace Decimal

/-- The same number without zeros at the end of its digits. -/
def normal (d : Decimal) : Decimal :=
  if d.digits ≠ 0 ∧ d.digits % 10 = 0 then normal ⟨d.digits / 10, d.exponent + 1⟩ else d
termination_by d.digits
decreasing_by simp_all; omega

/-- The exponent part of a numeral: `e`, a sign that may be left out, and at least one digit. -/
def readExponent? : List Char → Option Int
  | [] => some 0
  | mark :: rest =>
    if mark == 'e' || mark == 'E' then
      let magnitude? (s : List Char) : Option Nat :=
        if !s.isEmpty && s.all Char.isDigit then
          some (Text.ofDigits (s.map fun c => c.toNat - 48))
        else none
      match rest with
      | '-' :: s => (magnitude? s).map fun n => -(n : Int)
      | '+' :: s => (magnitude? s).map fun n => (n : Int)
      | s => (magnitude? s).map fun n => (n : Int)
    else none

/-- The decimal that an unsigned numeral denotes: digits around a point that may be left out, at
least one of them, and then an exponent that may be left out. -/
def read? (s : List Char) : Option Decimal :=
  let whole := s.takeWhile Char.isDigit
  let rest := s.dropWhile Char.isDigit
  let (fraction, tail) : List Char × List Char := match rest with
    | '.' :: r => (r.takeWhile Char.isDigit, r.dropWhile Char.isDigit)
    | r => ([], r)
  let digits := whole ++ fraction
  if digits.isEmpty then none
  else (readExponent? tail).map fun e =>
    ⟨Text.ofDigits (digits.map fun c => c.toNat - 48), e - fraction.length⟩

end Decimal

end TopicPlan
