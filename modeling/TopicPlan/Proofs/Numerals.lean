import TopicPlan.Sql.Grammar

/-! Numerals of plain digits. Within the digit limit they are read as the number that their digits
denote, both where digits only are asked for and where any integer is; and every number below the
limit has such a numeral. -/
namespace TopicPlan.Text

def digitChars (digits : List Nat) : List Char := digits.map Nat.digitChar

structure IsNumeral (digits : List Nat) : Prop where
  nonempty : digits ≠ []
  small : ∀ d ∈ digits, d < 10
  short : digits.length ≤ digitLimit

theorem isDigit_digitChar {d : Nat} (h : d < 10) : (Nat.digitChar d).isDigit = true := by
  revert d
  decide

theorem toNat_digitChar {d : Nat} (h : d < 10) : (Nat.digitChar d).toNat - 48 = d := by
  revert d
  decide

theorem digitValue?_digitChar {d : Nat} (h : d < 10) : digitValue? (Nat.digitChar d) = some d := by
  revert d
  decide +kernel

theorem digitChar_plain {d : Nat} (h : d < 10) : isMargin (Nat.digitChar d) = false ∧
    Nat.digitChar d ∉ ['_', '-', '+', '.', 'e', 'E'] := by
  revert d
  decide

theorem mem_digitChars {digits : List Nat} {c : Char} (hsmall : ∀ d ∈ digits, d < 10)
    (h : c ∈ digitChars digits) : ∃ d < 10, c = Nat.digitChar d := by
  obtain ⟨d, hd, rfl⟩ := List.mem_map.mp h
  exact ⟨d, hsmall d hd, rfl⟩

theorem readNat_digitChars {digits : List Nat} (h : IsNumeral digits) :
    readNat (digitChars digits) = .ok (ofDigits digits) := by
  have hdigits : (digitChars digits).all Char.isDigit = true := by
    rw [List.all_eq_true]
    intro c hc
    obtain ⟨d, hd, rfl⟩ := mem_digitChars h.small hc
    exact isDigit_digitChar hd
  have hvalues : (digitChars digits).map (fun c => c.toNat - 48) = digits := by
    rw [digitChars, List.map_map]
    refine (List.map_congr_left fun d hd => ?_).trans (List.map_id digits)
    exact toNat_digitChar (h.small d hd)
  have hnonempty : (digitChars digits).isEmpty = false := by
    simpa [digitChars] using h.nonempty
  unfold readNat
  rw [hdigits, hnonempty, hvalues]
  exact if_pos h.short

theorem groupedDigits?_digitChars {digits : List Nat} (hnonempty : digits ≠ [])
    (hsmall : ∀ d ∈ digits, d < 10) : groupedDigits? (digitChars digits) = some digits := by
  induction digits with
  | nil => exact absurd rfl hnonempty
  | cons d rest ih =>
    have hd := digitValue?_digitChar (hsmall d (by simp))
    cases rest with
    | nil => simp [digitChars, groupedDigits?, hd]
    | cons e rest =>
      have he : e < 10 := hsmall e (by simp)
      have hrest := ih (by simp) fun x hx => hsmall x (List.mem_cons_of_mem d hx)
      have hgroup : Nat.digitChar e ≠ '_' := by
        intro heq
        exact (digitChar_plain he).2 (by simp [heq])
      simp only [digitChars, List.map_cons] at hrest ⊢
      rw [groupedDigits?, hd, hrest]
      · rfl
      · simp
      · intro after heq
        exact hgroup (List.cons.inj heq).1

theorem stripWhere_of_none {isDropped : Char → Bool} {s : List Char}
    (h : ∀ c ∈ s, isDropped c = false) : stripWhere isDropped s = s := by
  have hdrop : ∀ t : List Char, (∀ c ∈ t, isDropped c = false) → t.dropWhile isDropped = t := by
    intro t ht
    cases t with
    | nil => rfl
    | cons c t => rw [List.dropWhile_cons, if_neg (by simp [ht c (by simp)])]
  rw [stripWhere, hdrop s h, hdrop s.reverse (by simpa using h), List.reverse_reverse]

theorem readInt_digitChars {digits : List Nat} (h : IsNumeral digits) :
    readInt (digitChars digits) = .ok (ofDigits digits : Int) := by
  have hstrip : stripWhere isMargin (digitChars digits) = digitChars digits := by
    refine stripWhere_of_none fun c hc => ?_
    obtain ⟨d, hd, rfl⟩ := mem_digitChars h.small hc
    exact (digitChar_plain hd).1
  have hvalue := groupedDigits?_digitChars h.nonempty h.small
  have hbounded : boundedNumber digits = .ok (ofDigits digits) := if_pos h.short
  unfold readInt
  rw [hstrip]
  simp only
  split
  · next t heq =>
    have hmem : '-' ∈ digitChars digits := by simp [heq]
    obtain ⟨d, hd, hc⟩ := mem_digitChars h.small hmem
    exact absurd (by simp [← hc]) (digitChar_plain hd).2
  · next t heq =>
    have hmem : '+' ∈ digitChars digits := by simp [heq]
    obtain ⟨d, hd, hc⟩ := mem_digitChars h.small hmem
    exact absurd (by simp [← hc]) (digitChar_plain hd).2
  · rw [hvalue]
    simp only [hbounded]
    rfl

theorem ofDigits_concat (digits : List Nat) (d : Nat) :
    ofDigits (digits ++ [d]) = 10 * ofDigits digits + d := by
  simp [ofDigits]

theorem exists_digits (k : Nat) {n : Nat} (h : n < tenPow (k + 1)) :
    ∃ digits : List Nat, digits ≠ [] ∧ (∀ d ∈ digits, d < 10) ∧ digits.length ≤ k + 1 ∧
      ofDigits digits = n := by
  induction k generalizing n with
  | zero =>
    have hdigit : n < 10 := h
    exact ⟨[n], by simp, by simpa using hdigit, by simp, by simp [ofDigits]⟩
  | succ k ih =>
    have hpow : tenPow (k + 1 + 1) = tenPow (k + 1) * 10 := tenPow_succ (k + 1)
    obtain ⟨digits, -, hsmall, hlen, hvalue⟩ := ih (n := n / 10) (by omega)
    refine ⟨digits ++ [n % 10], by simp, ?_, ?_, ?_⟩
    · intro d hd
      rcases List.mem_append.mp hd with hd | hd
      · exact hsmall d hd
      · rw [List.mem_singleton.mp hd]
        exact Nat.mod_lt n (by decide)
    · rw [List.length_append, List.length_singleton]
      omega
    · rw [ofDigits_concat, hvalue]
      exact Nat.div_add_mod n 10

theorem exists_numeral {n : Nat} (h : n < tenPow digitLimit) :
    ∃ digits, IsNumeral digits ∧ ofDigits digits = n := by
  obtain ⟨k, hk⟩ : ∃ k, digitLimit = k + 1 := ⟨4299, rfl⟩
  rw [hk] at h
  obtain ⟨digits, hnonempty, hsmall, hlen, hvalue⟩ := exists_digits k h
  exact ⟨digits, ⟨hnonempty, hsmall, hk ▸ hlen⟩, hvalue⟩

/-! Texts with digits beyond the limit. -/

theorem readNat_tooLong_iff {s : List Char} {n : Nat} :
    readNat s = .error (.tooLong n) ↔
      s.all Char.isDigit = true ∧ s.length = n ∧ digitLimit < n := by
  unfold readNat
  by_cases hdigits : (!s.isEmpty && s.all Char.isDigit) = true
  · rw [if_pos hdigits]
    rw [Bool.and_eq_true] at hdigits
    unfold boundedNumber
    by_cases hlen : s.length ≤ digitLimit
    · simp only [List.length_map, if_pos hlen, reduceCtorEq, false_iff]
      rintro ⟨-, rfl, hlong⟩
      exact absurd hlen (Nat.not_le_of_lt hlong)
    · simp only [List.length_map, if_neg hlen, Except.error.injEq, NumeralError.tooLong.injEq]
      constructor
      · rintro rfl
        exact ⟨hdigits.2, rfl, Nat.lt_of_not_le hlen⟩
      · exact fun h => h.2.1
  · rw [if_neg hdigits]
    simp only [Except.error.injEq, reduceCtorEq, false_iff]
    rintro ⟨hall, rfl, hlong⟩
    refine hdigits ?_
    cases s with
    | nil => exact absurd hlong (Nat.not_lt_zero _)
    | cons c s => simpa using hall

/-- A run of `count` digits, more than a numeral may have, stands in a text. -/
def HasOverlong (count : Nat) (s : List Char) : Prop :=
  digitLimit < count ∧
    ∃ digits, digits <:+: s ∧ digits.length = count ∧ digits.all Char.isDigit = true

theorem HasOverlong.of_suffix {count : Nat} {s rest : List Char} (h : rest <:+ s)
    (hrest : HasOverlong count rest) : HasOverlong count s := by
  obtain ⟨hlong, digits, hdigits, hrun⟩ := hrest
  exact ⟨hlong, digits, hdigits.trans h.isInfix, hrun⟩

/-- Digits that are not read are more than a numeral may have. -/
theorem digitLimit_lt_of_readNat {digits : List Char} {error : NumeralError}
    (hdigits : digits.all Char.isDigit = true) (hnonempty : digits.isEmpty = false)
    (h : readNat digits = .error error) : digitLimit < digits.length := by
  unfold readNat boundedNumber at h
  rw [if_pos (by rw [hdigits, hnonempty]; rfl), List.length_map] at h
  split at h
  · cases h
  · next hlong => exact Nat.lt_of_not_le hlong

end TopicPlan.Text

namespace TopicPlan.Sql
open Text

theorem numberOf?_digitChars {digits : List Nat} (h : IsNumeral digits) :
    numberOf? (digitChars digits) = some (.int (ofDigits digits)) := by
  have hplain : (digitChars digits).any (fun c => c == '.' || c == 'e' || c == 'E') = false := by
    rw [List.any_eq_false]
    intro c hc
    obtain ⟨d, hd, rfl⟩ := mem_digitChars h.small hc
    have hmarks := (digitChar_plain hd).2
    simp only [List.mem_cons, not_or] at hmarks
    simp [hmarks]
  unfold numberOf?
  rw [hplain, readInt_digitChars h]
  rfl

end TopicPlan.Sql
