import TopicPlan.Number.Binary64

/-!
Sums and products of binary64 numbers: the exact result is rounded to the nearest number.
-/

namespace TopicPlan.Binary64

/-- The number nearest to an integer times a power of two; `negative` is the sign of a zero. -/
def ofScaled (negative : Bool) (value : Int) (exponent : Int) : Binary64 :=
  if value = 0 then zero negative
  else ofQuotient (value < 0) (value.natAbs * twoPow exponent.toNat) (twoPow (-exponent).toNat)

def ofInt (n : Int) : Binary64 := ofScaled false n 0

def signed (negative : Bool) (significand : Nat) : Int :=
  if negative then -(significand : Int) else significand

/-- A sum that is zero is negative only if both terms are. -/
def add : Binary64 → Binary64 → Binary64
  | .nan, _ | _, .nan => .nan
  | .infinity s, .infinity t => if s = t then .infinity s else .nan
  | .infinity s, .finite .. | .finite .., .infinity s => .infinity s
  | .finite s m e, .finite t n f =>
    let low := min e f
    let sum := signed s m * twoPow (e - low).toNat + signed t n * twoPow (f - low).toNat
    ofScaled (s && t) sum low

def mul : Binary64 → Binary64 → Binary64
  | .nan, _ | _, .nan => .nan
  | .infinity s, .infinity t => .infinity (s != t)
  | .infinity s, .finite t n _ | .finite t n _, .infinity s =>
    if n = 0 then .nan else .infinity (s != t)
  | .finite s m e, .finite t n f => ofScaled (s != t) (signed s m * signed t n) (e + f)

end TopicPlan.Binary64
