import TopicPlan.Json.Reader
import Mathlib.Control.Monad.Basic
import Mathlib.Data.List.Basic

/-! Texts between quotes. Reading what was written of a text gives the text back with its pairs of
halves joined: a high half and the low half right after it are written as the one character that they
make. Nothing else is lost, and the end of the text is found. -/
namespace TopicPlan

/-- Two runs of items of one kind, each before something that does not go on with that kind, are the
same where all is, and so is what follows them. -/
theorem append_inj_of_run {α : Type} {p : α → Bool} {run other rest after : List α}
    (hrun : ∀ x ∈ run, p x = true) (hother : ∀ x ∈ other, p x = true)
    (hrest : ∀ x ∈ rest.head?, p x = false) (hafter : ∀ x ∈ after.head?, p x = false)
    (h : run ++ rest = other ++ after) : run = other ∧ rest = after := by
  have hstops : ∀ {following : List α}, (∀ x ∈ following.head?, p x = false) →
      following.takeWhile p = [] := by
    intro following hfollowing
    cases following with
    | nil => rfl
    | cons x xs => exact List.takeWhile_cons_of_neg (by simpa using hfollowing x rfl)
  have htake := congrArg (List.takeWhile p) h
  rw [List.takeWhile_append_of_pos hrun, List.takeWhile_append_of_pos hother, hstops hrest,
    hstops hafter, List.append_nil, List.append_nil] at htake
  subst htake
  exact ⟨rfl, List.append_cancel_left h⟩

namespace Text

/-- Codes with every high half and the low half right after it made into one code. -/
def joinPairs : List Nat → List Nat
  | high :: low :: rest =>
    if isHighHalf high && isLowHalf low then ofPair high low :: joinPairs rest
    else high :: joinPairs (low :: rest)
  | codes => codes

def joined (s : String) : String := String.ofList (ofCodes (joinPairs (codes s.toList)))

theorem isHighHalf_iff (code : Nat) : isHighHalf code = true ↔ 0xD800 ≤ code ∧ code < 0xDC00 := by
  simp [isHighHalf]

theorem isLowHalf_iff (code : Nat) : isLowHalf code = true ↔ 0xDC00 ≤ code ∧ code < 0xE000 := by
  simp [isLowHalf]

theorem ofPair_of_offset {code : Nat} (hlow : 0x10000 ≤ code) (hhigh : code < 0x110000) :
    isHighHalf (0xD800 + (code - 0x10000) / 0x400) = true ∧
    isLowHalf (0xDC00 + (code - 0x10000) % 0x400) = true ∧
    ofPair (0xD800 + (code - 0x10000) / 0x400) (0xDC00 + (code - 0x10000) % 0x400) = code := by
  refine ⟨(isHighHalf_iff _).mpr ?_, (isLowHalf_iff _).mpr ?_, ?_⟩
  · omega
  · omega
  · unfold ofPair
    omega

theorem lt_of_isHighHalf {code : Nat} (h : isHighHalf code = true) : code < 0x10000 := by
  have hrange := (isHighHalf_iff code).mp h
  omega

theorem lt_of_isLowHalf {code : Nat} (h : isLowHalf code = true) : code < 0x10000 := by
  have hrange := (isLowHalf_iff code).mp h
  omega

theorem isLowHalf_of_isHighHalf {code : Nat} (h : isHighHalf code = true) :
    isLowHalf code = false := by
  have hrange := (isHighHalf_iff code).mp h
  rw [Bool.eq_false_iff, ne_eq, isLowHalf_iff]
  omega

/-- Joining changes codes exactly where a low half stands right after a high one. -/
theorem joinPairs_eq_self_iff {codes : List Nat} :
    joinPairs codes = codes ↔
      codes.IsChain fun high low => ¬(isHighHalf high = true ∧ isLowHalf low = true) := by
  induction codes using joinPairs.induct with
  | case1 high low rest hpair ih =>
    have hboth := Bool.and_eq_true_iff.mp hpair
    rw [joinPairs, if_pos hpair, List.isChain_cons_cons]
    refine iff_of_false (fun h => ?_) fun h => h.1 hboth
    have hhigh := lt_of_isHighHalf hboth.1
    have hcode := (List.cons.inj h).1
    unfold ofPair at hcode
    omega
  | case2 code second rest hapart ih =>
    rw [joinPairs, if_neg hapart, List.isChain_cons_cons, List.cons.injEq, ih]
    rw [Bool.and_eq_true] at hapart
    exact and_congr_left' (iff_of_true rfl hapart)
  | case3 codes hshort =>
    rcases codes with _ | ⟨code, _ | ⟨second, others⟩⟩
    · simp [joinPairs]
    · simp [joinPairs]
    · exact absurd rfl (hshort code second others)

theorem joined_ofCodes {codes : List Nat} (h : ∀ code ∈ codes, code < 0x110000) :
    joined (String.ofList (ofCodes codes)) = String.ofList (ofCodes (joinPairs codes)) := by
  rw [joined, String.toList_ofList, codes_ofCodes h]

theorem ofCode_of_lt {c : Char} (h : c.toNat < 0xD800) : ofCode c.toNat = [c] := by
  have hhalf : ¬isHalf c.toNat = true := by
    rw [isHalf_iff]
    omega
  have hmark : c ≠ mark := by
    rintro rfl
    exact absurd h (by decide)
  have hnone : half? c = none := by
    have hbelow : c.toNat - standInDistance = 0 := Nat.sub_eq_zero_of_le (by
      unfold standInDistance
      omega)
    rw [half?, hbelow]
    rfl
  rw [ofCode, if_neg hhalf, Char.ofNat_toNat, hold, if_neg (by simp [hmark, hnone])]

theorem ofCodes_of_lt {s : List Char} (h : ∀ c ∈ s, c.toNat < 0xD800) :
    ofCodes (s.map Char.toNat) = s := by
  induction s with
  | nil => rfl
  | cons c rest ih =>
    obtain ⟨hc, hrest⟩ := List.forall_mem_cons.mp h
    have hofRest := ih hrest
    rw [ofCodes] at hofRest
    rw [List.map_cons, ofCodes, List.flatMap_cons, ofCode_of_lt hc, hofRest]
    rfl

theorem joined_of_lt {s : String} (h : ∀ c ∈ s.toList, c.toNat < 0xD800) : joined s = s := by
  have hcodes : ∀ code ∈ s.toList.map Char.toNat, code < 0xD800 := List.forall_mem_map.mpr h
  have hbound : ∀ code ∈ s.toList.map Char.toNat, code < 0x110000 := fun code hcode =>
    Nat.lt_trans (hcodes code hcode) (by decide)
  have hchain : (s.toList.map Char.toNat).IsChain
      fun high low => ¬(isHighHalf high = true ∧ isLowHalf low = true) := by
    rw [List.isChain_iff_getElem]
    rintro place hplace ⟨hhigh, -⟩
    have hcode := hcodes _ (List.getElem_mem (Nat.lt_of_succ_lt hplace))
    exact absurd ((isHighHalf_iff _).mp hhigh).1 (Nat.not_le.mpr hcode)
  have hjoined := joined_ofCodes hbound
  rw [joinPairs_eq_self_iff.mpr hchain, ofCodes_of_lt h, String.ofList_toList] at hjoined
  exact hjoined

theorem toNat_charOf {code : Nat} (h : code < 0x110000) (hhalf : ¬isHalf code = true) :
    (charOf code).toNat = code := by
  have houtside : ¬(0xD800 ≤ code ∧ code < 0xE000) := fun hrange =>
    hhalf ((isHalf_iff code).mpr hrange)
  have hvalid : code.isValidChar := by
    by_cases hlow : code < 0xD800
    · exact Or.inl hlow
    · exact Or.inr ⟨by omega, h⟩
  rw [charOf, if_neg hhalf, toNat_ofNat hvalid]

/-- A character that is not the one in the place of halves has the code it is written for. -/
theorem toNat_of_charOf_eq {code : Nat} (h : code < 0x110000) {c : Char} (hc : charOf code = c)
    (hplace : c ≠ Char.ofNat 0xFFFD) : c.toNat = code := by
  by_cases hhalf : isHalf code = true
  · rw [charOf, if_pos hhalf] at hc
    exact absurd hc.symm hplace
  · rw [← hc, toNat_charOf h hhalf]

theorem toNat_lt (c : Char) : c.toNat < 0x110000 := by
  rcases c.valid with hlow | ⟨-, hhigh⟩
  · exact Nat.lt_trans hlow (by decide)
  · exact hhigh

theorem getD_half?_lt (c : Char) : (half? c).getD c.toNat < 0x110000 := by
  unfold half?
  simp only
  split
  · next hhalf =>
    have hrange := (isHalf_iff _).mp hhalf
    rw [Option.getD_some]
    omega
  · exact toNat_lt c

theorem lt_of_mem_codes : (s : List Char) → ∀ code ∈ codes s, code < 0x110000
  | [] => by simp [codes]
  | [c] => by simpa [codes] using getD_half?_lt c
  | c :: d :: rest => by
    rw [codes]
    split
    · rw [List.forall_mem_cons]
      exact ⟨toNat_lt d, lt_of_mem_codes rest⟩
    · rw [List.forall_mem_cons]
      exact ⟨getD_half?_lt c, lt_of_mem_codes (d :: rest)⟩

end Text

namespace Json
open Text

theorem unit?_hexDigits {code : Nat} (h : code < 0x10000) :
    ∃ a b c d, hexDigits 4 code = [a, b, c, d] ∧ unit? a b c d = some code := by
  refine ⟨_, _, _, _, rfl, ?_⟩
  have hdigit : ∀ n, hexValue? (hexDigit (n % 16)) = some (n % 16) := fun n =>
    hexValue?_hexDigit _ (Nat.mod_lt _ (by decide))
  simp only [unit?, List.mapM_cons, List.mapM_nil, hdigit]
  show some _ = _
  simp
  omega

/-- The ways in which a code is written between quotes. -/
inductive WrittenAs (code : Nat) : List Char → Prop
  | plain (c : Char) (hcode : c.toNat = code) (hprints : 0x20 ≤ code) (hquote : c ≠ '"')
      (hslash : c ≠ '\\') : WrittenAs code [c]
  | marked (mark c : Char) (hcode : c.toNat = code) (hmark : escaped? mark = some c)
      (hunit : mark ≠ 'u') : WrittenAs code ['\\', mark]
  | unit (h : code < 0x10000) : WrittenAs code (escapeUnit code)
  | pair (high low : Nat) (hhigh : isHighHalf high = true) (hlow : isLowHalf low = true)
      (hpair : ofPair high low = code) : WrittenAs code (escapeUnit high ++ escapeUnit low)

theorem writtenAs_escape {code : Nat} (h : code < 0x110000) : WrittenAs code (escape code) := by
  have hmarked : ∀ mark c, charOf code = c → c ≠ Char.ofNat 0xFFFD → escaped? mark = some c →
      mark ≠ 'u' → WrittenAs code ['\\', mark] := by
    intro mark c hc hplace hmark hunit
    exact .marked mark c (toNat_of_charOf_eq h hc hplace) hmark hunit
  unfold escape
  simp only
  split
  · next hspecial =>
    rcases Bool.or_eq_true_iff.mp hspecial with hmark | hmark
    · rw [beq_iff_eq] at hmark
      rw [hmark]
      exact hmarked '"' '"' hmark (by decide) rfl (by decide)
    · rw [beq_iff_eq] at hmark
      rw [hmark]
      exact hmarked '\\' '\\' hmark (by decide) rfl (by decide)
  split
  · next hspecial hprints =>
    simp only [Bool.or_eq_true, beq_iff_eq, not_or] at hspecial
    simp only [Bool.and_eq_true, decide_eq_true_eq] at hprints
    have hplace : charOf code ≠ Char.ofNat 0xFFFD := by
      intro hc
      rw [hc] at hprints
      exact absurd hprints.2 (by decide)
    have hcode := toNat_of_charOf_eq h rfl hplace
    have hbound : ' '.toNat ≤ (charOf code).toNat := hprints.1
    exact .plain _ hcode (hcode ▸ hbound) hspecial.1 hspecial.2
  split
  · next hline => exact hmarked 'n' '\n' (beq_iff_eq.mp hline) (by decide) rfl (by decide)
  split
  · next hline => exact hmarked 'r' '\r' (beq_iff_eq.mp hline) (by decide) rfl (by decide)
  split
  · next hline => exact hmarked 't' '\t' (beq_iff_eq.mp hline) (by decide) rfl (by decide)
  split
  · next hcode =>
    rw [beq_iff_eq] at hcode
    subst hcode
    exact hmarked 'b' (Char.ofNat 8) rfl (by decide) rfl (by decide)
  split
  · next hcode =>
    rw [beq_iff_eq] at hcode
    subst hcode
    exact hmarked 'f' (Char.ofNat 12) rfl (by decide) rfl (by decide)
  split
  · next hbelow => exact .unit hbelow
  · next habove =>
    obtain ⟨hhigh, hlow, hpair⟩ := ofPair_of_offset (Nat.le_of_not_lt habove) h
    exact .pair _ _ hhigh hlow hpair

theorem escape_of_isHalf {code : Nat} (h : isHalf code = true) : escape code = escapeUnit code := by
  have hrange := (isHalf_iff code).mp h
  have hbackspace : ¬code = 8 := by omega
  have hfeed : ¬code = 12 := by omega
  have hbound : code < 0x10000 := by omega
  simp [escape, charOf, h, hbackspace, hfeed, hbound]

theorem escape_of_isHighHalf {code : Nat} (h : isHighHalf code = true) :
    escape code = escapeUnit code := escape_of_isHalf (by rw [isHalf, h, Bool.true_or])

theorem escape_of_isLowHalf {code : Nat} (h : isLowHalf code = true) :
    escape code = escapeUnit code := escape_of_isHalf (by rw [isHalf, h, Bool.or_true])

section Reading

variable (quote : List Char) (read : List Nat)

/-- Two escapes of which the first one is a high half are one code, or the second one is read next. -/
theorem textFrom_units {high second : Nat} (hhigh : isHighHalf high = true)
    (hsecond : second < 0x10000) (next : Char) (rest : List Char) :
    textFrom quote read (escapeUnit high ++ (escapeUnit second ++ next :: rest)) =
      if isLowHalf second then textFrom quote (ofPair high second :: read) (next :: rest)
      else textFrom quote (high :: read) (escapeUnit second ++ next :: rest) := by
  obtain ⟨a, b, c, d, hfirst, hunit⟩ := unit?_hexDigits (lt_of_isHighHalf hhigh)
  obtain ⟨e, f, g, h, hnext, hunitNext⟩ := unit?_hexDigits hsecond
  simp only [escapeUnit, hfirst, hnext, List.cons_append, List.nil_append]
  rw [textFrom.eq_4, hunit]
  simp only [hhigh, hunitNext]

/-- An escape before a text that does not go on with a low half. -/
theorem textFrom_unit {code : Nat} (hcode : code < 0x10000) (next : Char) (rest : List Char)
    (h : isHighHalf code = false ∨ ∀ others, next :: rest ≠ '\\' :: 'u' :: others) :
    textFrom quote read (escapeUnit code ++ next :: rest) =
      textFrom quote (code :: read) (next :: rest) := by
  obtain ⟨a, b, c, d, hdigits, hunit⟩ := unit?_hexDigits hcode
  simp only [escapeUnit, hdigits, List.cons_append, List.nil_append]
  rw [textFrom.eq_4, hunit]
  simp only
  split
  · next hhigh =>
    rcases h with hnot | hnot
    · rw [hnot] at hhigh
      cases hhigh
    · exact absurd rfl (hnot _)
  · rfl

end Reading

/-- A text that does not go on with the escape of a low half. -/
inductive KeepsApart : List Char → Prop
  | other (c : Char) (rest : List Char) (h : ∀ others, c :: rest ≠ '\\' :: 'u' :: others) :
      KeepsApart (c :: rest)
  | unit (second : Nat) (next : Char) (rest : List Char) (hsecond : second < 0x10000)
      (hlow : isLowHalf second = false) : KeepsApart (escapeUnit second ++ next :: rest)

theorem keepsApart_escape {code : Nat} (h : code < 0x110000) (hlow : isLowHalf code = false)
    (next : Char) (rest : List Char) : KeepsApart (escape code ++ next :: rest) := by
  have hwritten := writtenAs_escape h
  generalize escape code = written at hwritten ⊢
  cases hwritten with
  | plain c _ _ _ hslash =>
    refine .other _ _ fun others hothers => hslash ?_
    exact (List.cons.inj hothers).1
  | marked mark c _ _ hunit =>
    refine .other _ _ fun others hothers => hunit ?_
    exact (List.cons.inj (List.cons.inj hothers).2).1
  | unit hcode => exact .unit code next rest hcode hlow
  | pair high low hhigh _ _ =>
    rw [List.append_assoc]
    exact .unit high '\\' _ (lt_of_isHighHalf hhigh) (isLowHalf_of_isHighHalf hhigh)

theorem textFrom_escape (quote : List Char) (read : List Nat) {code : Nat} (h : code < 0x110000)
    {text : List Char} (htext : text ≠ []) (hapart : isHighHalf code = true → KeepsApart text) :
    textFrom quote read (escape code ++ text) = textFrom quote (code :: read) text := by
  obtain ⟨next, rest, rfl⟩ := List.exists_cons_of_ne_nil htext
  have hwritten := writtenAs_escape h
  generalize escape code = written at hwritten ⊢
  cases hwritten with
  | plain c hcode hprints hquote hslash =>
    rw [List.singleton_append, textFrom.eq_7, hcode, if_neg (Nat.not_lt.mpr hprints)]
    all_goals simp_all
  | marked mark c hcode hmark hunit =>
    rw [List.cons_append, List.singleton_append, textFrom.eq_6, hmark]
    · simp only [hcode]
    all_goals simp_all
  | unit hbound =>
    cases hhigh : isHighHalf code with
    | false => exact textFrom_unit quote read hbound next rest (.inl hhigh)
    | true =>
      generalize htext : next :: rest = text at hapart ⊢
      cases hapart hhigh with
      | other c others hother =>
        exact textFrom_unit quote read hbound c others (.inr hother)
      | unit second after others hsecond hlow =>
        rw [textFrom_units quote read hhigh hsecond, hlow]
        rfl
  | pair high low hhigh hlow hpair =>
    rw [List.append_assoc, textFrom_units quote read hhigh (lt_of_isLowHalf hlow), if_pos hlow, hpair]

def closed (codes : List Nat) (rest : List Char) : List Char := codes.flatMap escape ++ '"' :: rest

theorem closed_ne_nil (codes : List Nat) (rest : List Char) : closed codes rest ≠ [] := by
  simp [closed]

theorem closed_cons (code : Nat) (codes : List Nat) (rest : List Char) :
    closed (code :: codes) rest = escape code ++ closed codes rest := by
  simp [closed]

/-- Reading what is written of some codes gives them back with their pairs joined. -/
theorem textFrom_closed (quote : List Char) (read codes : List Nat)
    (h : ∀ code ∈ codes, code < 0x110000) (rest : List Char) :
    textFrom quote read (closed codes rest) =
      .ok (String.ofList (ofCodes (read.reverse ++ joinPairs codes)), rest) := by
  induction codes using joinPairs.induct generalizing read with
  | case1 high low others hpair ih =>
    obtain ⟨hhigh, hlow⟩ := Bool.and_eq_true_iff.mp hpair
    obtain ⟨-, -, hothers⟩ := by simpa only [List.forall_mem_cons] using h
    obtain ⟨next, after, hnext⟩ := List.exists_cons_of_ne_nil (closed_ne_nil others rest)
    have hwritten : closed (high :: low :: others) rest =
        escapeUnit high ++ (escapeUnit low ++ next :: after) := by
      rw [closed_cons, closed_cons, escape_of_isHighHalf hhigh, escape_of_isLowHalf hlow, hnext]
    rw [hwritten, textFrom_units quote read hhigh (lt_of_isLowHalf hlow), if_pos hlow, ← hnext,
      ih _ hothers, joinPairs, if_pos hpair]
    simp
  | case2 code second others hapart ih =>
    obtain ⟨hcode, hrest⟩ := List.forall_mem_cons.mp h
    obtain ⟨next, after, hnext⟩ := List.exists_cons_of_ne_nil (closed_ne_nil others rest)
    have hkeeps : isHighHalf code = true → KeepsApart (closed (second :: others) rest) := by
      intro hhigh
      rw [hhigh, Bool.true_and, Bool.not_eq_true] at hapart
      rw [closed_cons, hnext]
      exact keepsApart_escape (hrest second (by simp)) hapart next after
    rw [closed_cons, textFrom_escape quote read hcode (closed_ne_nil _ _) hkeeps, ih _ hrest,
      joinPairs, if_neg hapart]
    simp
  | case3 codes hshort =>
    rcases codes with _ | ⟨code, _ | ⟨second, others⟩⟩
    · rw [closed, List.flatMap_nil, List.nil_append, textFrom.eq_2, joinPairs, List.append_nil]
      exact hshort
    · have hkeeps : isHighHalf code = true → KeepsApart (closed [] rest) := by
        intro _
        exact .other '"' rest (by simp)
      rw [closed_cons, textFrom_escape quote read (h code (by simp)) (closed_ne_nil _ _) hkeeps, closed,
        List.flatMap_nil, List.nil_append, textFrom.eq_2, joinPairs, List.reverse_cons]
      exact hshort
    · exact absurd rfl (hshort code second others)

theorem writeText_eq (s : String) (rest : List Char) :
    writeText s rest = '"' :: closed (codes s.toList) rest := by
  rw [writeText, closed, List.cons_append]

theorem joined_of_writeText_eq {s t : String} {rest others : List Char}
    (h : writeText s rest = writeText t others) : joined s = joined t ∧ rest = others := by
  rw [writeText_eq, writeText_eq] at h
  have hread := textFrom_closed [] [] _ (lt_of_mem_codes s.toList) rest
  rw [(List.cons.inj h).2, textFrom_closed [] [] _ (lt_of_mem_codes t.toList) others] at hread
  obtain ⟨htext, hrest⟩ := Prod.mk.inj (Except.ok.inj hread)
  exact ⟨htext.symm, hrest.symm⟩

end Json
end TopicPlan
