/-!
Texts as codes. The escapes of data files can spell one half of a surrogate pair alone, and no
character has the code of a half. A text holds a half by its stand-in, a private-use character of
the last plane; where such a character is meant itself, a mark stands before it. So each sequence of
codes is held by a text of its own, from which `codes` reads it back.
-/

namespace TopicPlan.Text

def isHighHalf (code : Nat) : Bool := 0xD800 ≤ code && code < 0xDC00

def isLowHalf (code : Nat) : Bool := 0xDC00 ≤ code && code < 0xE000

def isHalf (code : Nat) : Bool := isHighHalf code || isLowHalf code

theorem isHalf_iff (code : Nat) : isHalf code = true ↔ 0xD800 ≤ code ∧ code < 0xE000 := by
  simp only [isHalf, isHighHalf, isLowHalf, Bool.or_eq_true, Bool.and_eq_true, decide_eq_true_eq]
  omega

/-- How far above a half its stand-in lies. -/
def standInDistance : Nat := 0x100000

def half? (c : Char) : Option Nat :=
  let code := c.toNat - standInDistance
  if isHalf code then some code else none

/-- The mark before a character that is meant itself: the last of all characters. -/
def mark : Char := Char.ofNat 0x10FFFF

def hold (c : Char) : List Char := if c = mark || (half? c).isSome then [mark, c] else [c]

def ofCode (code : Nat) : List Char :=
  if isHalf code then [Char.ofNat (code + standInDistance)] else hold (Char.ofNat code)

def ofCodes (codes : List Nat) : List Char := codes.flatMap ofCode

def codes : List Char → List Nat
  | [] => []
  | [c] => [(half? c).getD c.toNat]
  | c :: d :: rest =>
    if c = mark then d.toNat :: codes rest else (half? c).getD c.toNat :: codes (d :: rest)

/-- The code of two halves that make a pair. -/
def ofPair (high low : Nat) : Nat := 0x10000 + (high - 0xD800) * 0x400 + (low - 0xDC00)

def charOf (code : Nat) : Char := if isHalf code then Char.ofNat 0xFFFD else Char.ofNat code

/-- A text of characters that are all meant themselves. -/
def held (s : String) : String := String.ofList (s.toList.flatMap hold)

/-- A text for those who know no stand-ins; halves are replaced. -/
def plain (s : String) : String := String.ofList ((codes s.toList).map charOf)

theorem codes_cons {c : Char} (h : c ≠ mark) (rest : List Char) :
    codes (c :: rest) = (half? c).getD c.toNat :: codes rest := by
  cases rest with
  | nil => simp [codes]
  | cons d rest => simp [codes, h]

theorem toNat_ofNat {code : Nat} (h : code.isValidChar) : (Char.ofNat code).toNat = code := by
  unfold Char.ofNat
  rw [dif_pos h]
  rfl

theorem codes_hold_append (c : Char) (rest : List Char) :
    codes (hold c ++ rest) = c.toNat :: codes rest := by
  by_cases h : (c = mark || (half? c).isSome) = true
  · simp [hold, h, codes]
  · have hm : c ≠ mark := fun e => h (by simp [e])
    have hh : half? c = none := by
      cases hc : half? c with
      | none => rfl
      | some code => exact absurd (by simp [hc]) h
    simp [hold, hm, codes_cons hm, hh]

theorem codes_ofCode_append {code : Nat} (bound : code < 0x110000) (rest : List Char) :
    codes (ofCode code ++ rest) = code :: codes rest := by
  by_cases h : isHalf code = true
  · have range := (isHalf_iff code).1 h
    have toNat : (Char.ofNat (code + standInDistance)).toNat = code + standInDistance :=
      toNat_ofNat (Or.inr ⟨by unfold standInDistance; omega, by unfold standInDistance; omega⟩)
    have isMark : Char.ofNat (code + standInDistance) ≠ mark := by
      intro e
      have := congrArg Char.toNat e
      rw [toNat, mark, toNat_ofNat (Or.inr ⟨by decide, by decide⟩)] at this
      unfold standInDistance at this
      omega
    have half : half? (Char.ofNat (code + standInDistance)) = some code := by
      simp only [half?, toNat, Nat.add_sub_cancel, h, if_true]
    simp [ofCode, h, codes_cons isMark, half]
  · have valid : code.isValidChar := by
      have outside : ¬(0xD800 ≤ code ∧ code < 0xE000) := fun range => h ((isHalf_iff code).2 range)
      by_cases low : code < 0xD800
      · exact Or.inl low
      · exact Or.inr ⟨by omega, bound⟩
    simp [ofCode, h, codes_hold_append, toNat_ofNat valid]

theorem codes_ofCodes {cs : List Nat} (bound : ∀ code ∈ cs, code < 0x110000) :
    codes (ofCodes cs) = cs := by
  induction cs with
  | nil => rfl
  | cons code cs ih =>
    rw [ofCodes, List.flatMap_cons, codes_ofCode_append (bound code (by simp))]
    exact congrArg _ (ih fun other member => bound other (by simp [member]))

/-- Whether some codes come before others, or are the same: the first difference decides, and the
end of a text comes before all codes. -/
def inOrder : List Nat → List Nat → Bool
  | [], _ => true
  | _ :: _, [] => false
  | a :: as, b :: bs => a < b || (a == b && inOrder as bs)

def isBefore (s t : String) : Bool := inOrder (codes s.toList) (codes t.toList)

/-- A run of halves in a text: where it begins, how long it is, and the first of them. -/
structure HalfRun where
  position : Nat
  count : Nat
  first : Nat
deriving DecidableEq, Repr

def firstHalfRun? (s : List Char) : Option HalfRun :=
  let isWhole (code : Nat) : Bool := !isHalf code
  match (codes s).dropWhile isWhole with
  | [] => none
  | first :: rest =>
    some ⟨((codes s).takeWhile isWhole).length, (rest.takeWhile isHalf).length + 1, first⟩

def hasHalf (s : String) : Bool := (firstHalfRun? s.toList).isSome

end TopicPlan.Text
