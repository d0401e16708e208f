import TopicPlan.Text.Case

/-! Upper case is final: a text in upper case stays as it is. Beyond ASCII this is seen from the tables
of letter case: the runs of characters that they map to lie apart from those that they map. -/
namespace TopicPlan.Text

def IsUpper (c : Char) : Prop := upperChar c = [c]

instance (c : Char) : Decidable (IsUpper c) := inferInstanceAs (Decidable (upperChar c = [c]))

theorem isUpper_toUpper {c : Char} (h : c.toNat < 128) : IsUpper c.toUpper := by
  have hascii : ∀ n < 128, IsUpper (Char.ofNat n).toUpper := by decide +kernel
  have hc := hascii c.toNat h
  rwa [Char.ofNat_toNat] at hc

namespace CaseRun

/-- No target of the run lies in the other one. Runs of step two may interleave. -/
def apart (run other : CaseRun) : Bool :=
  Nat.blt (run.target + (run.last - run.first)) other.first || Nat.blt other.last run.target ||
    (Nat.beq other.step 2 && (Nat.beq run.step 2 || Nat.beq run.first run.last) &&
      Nat.beq ((run.target + other.first) % 2) 1)

def one (first target : Nat) : CaseRun := ⟨first, first, 1, target⟩

/-- The targets of the run are characters, and no table changes them. -/
def settled (run : CaseRun) : Bool :=
  if Nat.blt run.target 128 then
    Nat.beq run.first run.last && (Nat.blt run.target 97 || Nat.blt 122 run.target)
  else
    (Nat.blt (run.target + (run.last - run.first)) 0xD800 ||
      (Nat.blt 0xDFFF run.target && Nat.blt (run.target + (run.last - run.first)) 0x110000)) &&
    upperRuns.all run.apart && upperExpansions.all fun entry => run.apart (one entry.1 0)

theorem map?_eq_none_of_apart {run other : CaseRun} (h : run.apart other = true) {i : Nat}
    (hi : i ≤ run.last - run.first) (hstep : i % run.step = 0) :
    other.map? (run.target + i) = none := by
  simp only [apart, Bool.or_eq_true, Bool.and_eq_true, Nat.blt_eq, Nat.beq_eq] at h
  have hout : ¬(other.first ≤ run.target + i ∧ run.target + i ≤ other.last ∧
      (run.target + i - other.first) % other.step = 0) := by
    rintro ⟨hfirst, hlast, hother⟩
    rcases h with (h | h) | ⟨⟨htwo, hrun⟩, hodd⟩
    · omega
    · omega
    · rw [htwo] at hother
      have heven : i % 2 = 0 := by
        rcases hrun with hrun | hrun
        · rwa [hrun] at hstep
        · omega
      omega
  unfold map?
  rw [if_neg]
  simp only [Bool.and_eq_true, decide_eq_true_eq, beq_iff_eq, and_assoc]
  exact hout

end CaseRun

theorem lookup_eq_none {entries : List (Nat × List Nat)} {code : Nat}
    (h : ∀ entry ∈ entries, entry.1 ≠ code) : entries.lookup code = none := by
  induction entries with
  | nil => rfl
  | cons entry entries ih =>
    have hne : (code == entry.1) = false := by
      simpa using (h entry (by simp)).symm
    rw [List.lookup_cons, hne]
    exact ih fun other hother => h other (List.mem_cons_of_mem entry hother)

theorem isUpper_of_ascii {n : Nat} (h : n < 128) (hlower : n < 97 ∨ 122 < n) :
    IsUpper (Char.ofNat n) := by
  have hascii : ∀ n < 128, n < 97 ∨ 122 < n → IsUpper (Char.ofNat n) := by decide +kernel
  exact hascii n h hlower

theorem toNat_ofNat_of_valid {n : Nat} (h : n < 0xD800 ∨ 0xDFFF < n ∧ n < 0x110000) :
    (Char.ofNat n).toNat = n := by
  have hvalid : n.isValidChar := h
  unfold Char.ofNat
  rw [dif_pos hvalid]
  rfl

theorem CaseRun.toNat_of_settled {run : CaseRun} (h : run.settled = true)
    (hlarge : ¬run.target < 128) {i : Nat} (hi : i ≤ run.last - run.first) :
    (Char.ofNat (run.target + i)).toNat = run.target + i := by
  rw [CaseRun.settled, if_neg (by simpa using hlarge)] at h
  simp only [Nat.blt_eq, Bool.and_eq_true, Bool.or_eq_true] at h
  exact toNat_ofNat_of_valid (by omega)

theorem CaseRun.isUpper_of_settled {run : CaseRun} (h : run.settled = true) {i : Nat}
    (hi : i ≤ run.last - run.first) (hstep : i % run.step = 0) :
    IsUpper (Char.ofNat (run.target + i)) := by
  have hsettled := h
  unfold CaseRun.settled at h
  split at h
  · next hascii =>
    simp only [Nat.blt_eq, Nat.beq_eq, Bool.and_eq_true, Bool.or_eq_true] at hascii h
    have hzero : i = 0 := by omega
    rw [hzero, Nat.add_zero]
    exact isUpper_of_ascii hascii h.2
  · next hascii =>
    simp only [Nat.blt_eq, Bool.and_eq_true, Bool.or_eq_true, List.all_eq_true] at hascii h
    obtain ⟨⟨-, hruns⟩, hexpansions⟩ := h
    have hcode := toNat_of_settled hsettled hascii hi
    have hlookup : upperExpansions.lookup (run.target + i) = none := by
      refine lookup_eq_none fun entry hentry hkey => ?_
      have hnone := map?_eq_none_of_apart (hexpansions entry hentry) hi hstep
      simp [CaseRun.map?, CaseRun.one, hkey] at hnone
    have hfound : upperRuns.findSome? (·.map? (run.target + i)) = none := by
      rw [List.findSome?_eq_none_iff]
      exact fun other hother => map?_eq_none_of_apart (hruns other hother) hi hstep
    have hlarge : ¬run.target + i < 128 := by omega
    rw [IsUpper, upperChar, hcode, if_neg hlarge, hlookup]
    simp only [lookupRuns, hcode, hfound, Option.getD_none]

theorem upperExpansions_settled :
    (upperExpansions.all fun entry => entry.2.all fun code => (CaseRun.one code code).settled) =
      true := by
  decide +kernel

theorem upperRuns_settled : (upperRuns.all fun run => run.settled) = true := by
  decide +kernel

theorem mem_of_lookup {entries : List (Nat × List Nat)} {code : Nat} {codes : List Nat}
    (h : entries.lookup code = some codes) : ∃ entry ∈ entries, entry.2 = codes := by
  induction entries with
  | nil => cases h
  | cons entry entries ih =>
    rw [List.lookup_cons] at h
    split at h
    · cases h
      exact ⟨entry, by simp, rfl⟩
    · obtain ⟨found, hmem, hcodes⟩ := ih h
      exact ⟨found, List.mem_cons_of_mem _ hmem, hcodes⟩

theorem CaseRun.map?_eq_some {run : CaseRun} {code other : Nat} (h : run.map? code = some other) :
    ∃ i ≤ run.last - run.first, i % run.step = 0 ∧ other = run.target + i := by
  unfold CaseRun.map? at h
  split at h
  · next hrange =>
    simp only [Bool.and_eq_true, decide_eq_true_eq, beq_iff_eq] at hrange
    cases h
    exact ⟨code - run.first, by omega, hrange.2, rfl⟩
  · cases h

theorem upperChar_of_expansion {c : Char} (h : ¬c.toNat < 128) {codes : List Nat}
    (hlookup : upperExpansions.lookup c.toNat = some codes) :
    upperChar c = codes.map Char.ofNat := by
  rw [upperChar, if_neg h, hlookup]

theorem upperChar_of_run {c : Char} (h : ¬c.toNat < 128)
    (hlookup : upperExpansions.lookup c.toNat = none) :
    upperChar c = [lookupRuns upperRuns c] := by
  rw [upperChar, if_neg h, hlookup]

theorem isUpper_of_mem_upperChar {c d : Char} (h : d ∈ upperChar c) : IsUpper d := by
  by_cases hascii : c.toNat < 128
  · rw [upperChar_of_ascii hascii, List.mem_singleton] at h
    rw [h]
    exact isUpper_toUpper hascii
  · cases hlookup : upperExpansions.lookup c.toNat with
    | some codes =>
      rw [upperChar_of_expansion hascii hlookup] at h
      obtain ⟨code, hcode, rfl⟩ := List.mem_map.mp h
      obtain ⟨entry, hentry, rfl⟩ := mem_of_lookup hlookup
      have hsettled := List.all_eq_true.mp upperExpansions_settled entry hentry
      have hone := CaseRun.isUpper_of_settled (List.all_eq_true.mp hsettled code hcode)
        (Nat.zero_le _) (Nat.zero_mod _)
      simpa [CaseRun.one] using hone
    | none =>
      have hupper := upperChar_of_run hascii hlookup
      rw [hupper, List.mem_singleton] at h
      cases hfound : upperRuns.findSome? (·.map? c.toNat) with
      | none =>
        have hself : lookupRuns upperRuns c = c := by
          rw [lookupRuns, hfound, Option.getD_none, Char.ofNat_toNat]
        rw [h, hself, IsUpper, hupper, hself]
      | some other =>
        obtain ⟨run, hrun, hmap⟩ := List.exists_of_findSome?_eq_some hfound
        obtain ⟨i, hi, hstep, rfl⟩ := CaseRun.map?_eq_some hmap
        rw [h, lookupRuns, hfound, Option.getD_some]
        exact CaseRun.isUpper_of_settled (List.all_eq_true.mp upperRuns_settled run hrun) hi hstep

theorem flatMap_upperChar_of_isUpper {cs : List Char} (h : ∀ c ∈ cs, IsUpper c) :
    cs.flatMap upperChar = cs := by
  induction cs with
  | nil => rfl
  | cons c cs ih =>
    have hc : upperChar c = [c] := h c (by simp)
    rw [List.flatMap_cons, hc, ih fun d hd => h d (List.mem_cons_of_mem c hd)]
    rfl

theorem upper_upper (s : String) : upper (upper s) = upper s := by
  have hupper : ∀ d ∈ s.toList.flatMap upperChar, IsUpper d := by
    intro d hd
    obtain ⟨c, -, hmem⟩ := List.mem_flatMap.mp hd
    exact isUpper_of_mem_upperChar hmem
  rw [upper, upper, String.toList_ofList, flatMap_upperChar_of_isUpper hupper]

theorem upperChar_ne_nil (c : Char) : upperChar c ≠ [] := by
  have hexpansions : (upperExpansions.all fun entry => !entry.2.isEmpty) = true := by decide +kernel
  by_cases hascii : c.toNat < 128
  · simp [upperChar_of_ascii hascii]
  · cases hlookup : upperExpansions.lookup c.toNat with
    | none => simp [upperChar_of_run hascii hlookup]
    | some codes =>
      obtain ⟨entry, hentry, rfl⟩ := mem_of_lookup hlookup
      have hsome := List.all_eq_true.mp hexpansions entry hentry
      rw [upperChar_of_expansion hascii hlookup, ne_eq, List.map_eq_nil_iff]
      simpa using hsome

theorem upper_eq_empty_iff {s : String} : upper s = "" ↔ s = "" := by
  rw [← String.toList_inj, ← String.toList_inj, upper, String.toList_ofList]
  cases s.toList with
  | nil => rfl
  | cons c cs => simp [upperChar_ne_nil]

end TopicPlan.Text
