import Mathlib.Tactic.SplitIfs
import TopicPlan.Proofs.Results
import TopicPlan.Text.Utf8

/-! Bytes that encode texts. Decoding succeeds on the encoding of each text and on nothing else, so
that a decoding which fails was given bytes that are no text. -/
namespace TopicPlan.Text

def utf8Bytes (text : List Char) : List UInt8 := text.flatMap String.utf8EncodeChar

/-- The bytes that encode the character of a code, as numbers. -/
def octets (code : Nat) : List Nat :=
  if code < 0x80 then [code]
  else if code < 0x800 then [0xC0 + code / 0x40, 0x80 + code % 0x40]
  else if code < 0x10000 then
    [0xE0 + code / 0x1000, 0x80 + code / 0x40 % 0x40, 0x80 + code % 0x40]
  else
    [0xF0 + code / 0x40000, 0x80 + code / 0x1000 % 0x40, 0x80 + code / 0x40 % 0x40,
      0x80 + code % 0x40]

theorem map_toNat_utf8EncodeChar (c : Char) :
    (String.utf8EncodeChar c).map UInt8.toNat = octets c.toNat := by
  have hvalid : c.toNat.isValidChar := c.valid
  have hval : c.val.toNat = c.toNat := rfl
  unfold Nat.isValidChar at hvalid
  unfold String.utf8EncodeChar octets
  simp only [hval]
  split_ifs <;> first
    | omega
    | simp only [List.map_cons, List.map_nil, UInt8.toNat_ofNat', List.cons.injEq, and_true]
      omega

theorem utf8EncodeChar_eq_iff {c : Char} {bytes : List UInt8} :
    String.utf8EncodeChar c = bytes ↔ octets c.toNat = bytes.map UInt8.toNat := by
  rw [← map_toNat_utf8EncodeChar]
  exact (List.map_inj_right fun a b => UInt8.toNat_inj.mp).symm

theorem completeChar_succ_eq_ok_iff {used bits low high tails : Nat} {rest : List UInt8}
    {found : Char × Nat} :
    completeChar used bits low high (tails + 1) rest = .ok found ↔
      ∃ byte more, rest = byte :: more ∧ (low ≤ byte.toNat ∧ byte.toNat ≤ high) ∧
        completeChar (used + 1) (bits * 64 + (byte.toNat - 0x80)) 0x80 0xBF tails more =
          .ok found := by
  cases rest with
  | nil => simp [completeChar]
  | cons byte more =>
    rw [completeChar]
    constructor
    · intro h
      split at h
      · next hrange => exact ⟨byte, more, rfl, by simpa using hrange, h⟩
      · cases h
    · rintro ⟨_, _, ⟨⟩, hrange, h⟩
      rw [if_pos (by simpa using hrange), h]

theorem completeChar_zero_eq_ok_iff {used bits low high : Nat} {rest : List UInt8} {c : Char}
    {count : Nat} :
    completeChar used bits low high 0 rest = .ok (c, count) ↔ Char.ofNat bits = c ∧ used = count := by
  simp [completeChar]

theorem utf8EncodeChar_ofNat {code : Nat} {bytes : List UInt8} (hvalid : code.isValidChar)
    (h : octets code = bytes.map UInt8.toNat) : String.utf8EncodeChar (Char.ofNat code) = bytes := by
  rw [utf8EncodeChar_eq_iff, toNat_ofNat hvalid, h]

/-! What first bytes announce. -/

theorem lead?_two {byte : Nat} (hlow : 0xC2 ≤ byte) (hhigh : byte ≤ 0xDF) :
    lead? byte = some ⟨byte - 0xC0, 1, 0x80, 0xBF⟩ := by
  simp [lead?, hlow, hhigh]

theorem lead?_three {byte : Nat} (hlow : 0xE0 ≤ byte) (hhigh : byte ≤ 0xEF) :
    lead? byte = some ⟨byte - 0xE0, 2, if byte = 0xE0 then 0xA0 else 0x80,
      if byte = 0xED then 0x9F else 0xBF⟩ := by
  unfold lead?
  simp only [Bool.and_eq_true, decide_eq_true_eq, beq_iff_eq]
  split_ifs <;> first | omega | (simp only [Option.some.injEq, Lead.mk.injEq, and_true] <;> omega)

theorem lead?_four {byte : Nat} (hlow : 0xF0 ≤ byte) (hhigh : byte ≤ 0xF4) :
    lead? byte = some ⟨byte - 0xF0, 3, if byte = 0xF0 then 0x90 else 0x80,
      if byte = 0xF4 then 0x8F else 0xBF⟩ := by
  unfold lead?
  simp only [Bool.and_eq_true, decide_eq_true_eq, beq_iff_eq]
  split_ifs <;> first | omega | (simp only [Option.some.injEq, Lead.mk.injEq, and_true] <;> omega)

theorem range_of_lead? {byte : Nat} {lead : Lead} (h : lead? byte = some lead) :
    0xC2 ≤ byte ∧ byte ≤ 0xF4 := by
  unfold lead? at h
  simp only [Bool.and_eq_true, decide_eq_true_eq, beq_iff_eq] at h
  split_ifs at h <;> omega

/-! The first character. -/

theorem firstChar_sound {byte : UInt8} {rest : List UInt8} {c : Char} {count : Nat}
    (h : firstChar byte rest = .ok (c, count)) :
    String.utf8EncodeChar c = byte :: rest.take (count - 1) := by
  unfold firstChar at h
  split at h
  · next hascii =>
    cases h
    refine utf8EncodeChar_ofNat (.inl (by omega)) ?_
    simp [octets, hascii]
  · split at h
    case h_2 => cases h
    next lead hlead =>
      have hrange := range_of_lead? hlead
      rcases Nat.lt_or_ge byte.toNat 0xE0 with htwo | hmore
      · obtain rfl := Option.some.inj ((lead?_two hrange.1 (by omega)).symm.trans hlead)
        simp only [completeChar_succ_eq_ok_iff, completeChar_zero_eq_ok_iff] at h
        obtain ⟨a, more, rfl, ha, rfl, rfl⟩ := h
        refine utf8EncodeChar_ofNat (.inl (by omega)) ?_
        unfold octets
        split_ifs <;> simp <;> omega
      · rcases Nat.lt_or_ge byte.toNat 0xF0 with hthree | hfour
        · obtain rfl := Option.some.inj ((lead?_three hmore (by omega)).symm.trans hlead)
          simp only [completeChar_succ_eq_ok_iff, completeChar_zero_eq_ok_iff] at h
          obtain ⟨a, _, rfl, ha, b, more, rfl, hb, rfl, rfl⟩ := h
          refine utf8EncodeChar_ofNat ?_ ?_
          · unfold Nat.isValidChar
            split_ifs at ha <;> omega
          · unfold octets
            split_ifs at ha ⊢ <;> simp <;> omega
        · obtain rfl := Option.some.inj ((lead?_four hfour hrange.2).symm.trans hlead)
          simp only [completeChar_succ_eq_ok_iff, completeChar_zero_eq_ok_iff] at h
          obtain ⟨a, _, rfl, ha, b, _, rfl, hb, d, more, rfl, hd, rfl, rfl⟩ := h
          refine utf8EncodeChar_ofNat ?_ ?_
          · unfold Nat.isValidChar
            split_ifs at ha <;> omega
          · unfold octets
            split_ifs at ha ⊢ <;> simp <;> omega

theorem completeChar_zero_eq {used bits low high : Nat} {rest : List UInt8} {c : Char}
    (h : bits = c.toNat) : completeChar used bits low high 0 rest = .ok (c, used) := by
  rw [completeChar, h, Char.ofNat_toNat]

theorem firstChar_complete {c : Char} {byte : UInt8} {more : List UInt8}
    (h : String.utf8EncodeChar c = byte :: more) (rest : List UInt8) :
    firstChar byte (more ++ rest) = .ok (c, more.length + 1) := by
  have hvalid : c.toNat.isValidChar := c.valid
  rw [utf8EncodeChar_eq_iff, List.map_cons] at h
  unfold Nat.isValidChar at hvalid
  unfold octets at h
  rw [firstChar]
  split_ifs at h <;> obtain ⟨hbyte, htails⟩ := List.cons.inj h
  · obtain rfl := List.map_eq_nil_iff.mp htails.symm
    rw [if_pos (by omega), ← hbyte, Char.ofNat_toNat]
    rfl
  · obtain ⟨a, _, rfl, ha, hnil⟩ := List.map_eq_cons_iff.mp htails.symm
    obtain rfl := List.map_eq_nil_iff.mp hnil
    rw [if_neg (by omega), lead?_two (by omega) (by omega)]
    refine completeChar_succ_eq_ok_iff.mpr ⟨a, _, rfl, by simp only; omega, ?_⟩
    exact completeChar_zero_eq (by simp only; omega)
  · obtain ⟨a, _, rfl, ha, htails⟩ := List.map_eq_cons_iff.mp htails.symm
    obtain ⟨b, _, rfl, hb, hnil⟩ := List.map_eq_cons_iff.mp htails
    obtain rfl := List.map_eq_nil_iff.mp hnil
    rw [if_neg (by omega), lead?_three (by omega) (by omega)]
    refine completeChar_succ_eq_ok_iff.mpr ⟨a, _, rfl, by simp only; split_ifs <;> omega, ?_⟩
    refine completeChar_succ_eq_ok_iff.mpr ⟨b, _, rfl, by omega, ?_⟩
    exact completeChar_zero_eq (by simp only; omega)
  · obtain ⟨a, _, rfl, ha, htails⟩ := List.map_eq_cons_iff.mp htails.symm
    obtain ⟨b, _, rfl, hb, htails⟩ := List.map_eq_cons_iff.mp htails
    obtain ⟨d, _, rfl, hd, hnil⟩ := List.map_eq_cons_iff.mp htails
    obtain rfl := List.map_eq_nil_iff.mp hnil
    rw [if_neg (by omega), lead?_four (by omega) (by omega)]
    refine completeChar_succ_eq_ok_iff.mpr ⟨a, _, rfl, by simp only; split_ifs <;> omega, ?_⟩
    refine completeChar_succ_eq_ok_iff.mpr ⟨b, _, rfl, by omega, ?_⟩
    refine completeChar_succ_eq_ok_iff.mpr ⟨d, _, rfl, by omega, ?_⟩
    exact completeChar_zero_eq (by simp only; omega)

/-! Whole texts. -/

theorem decodeFrom_encoded (c : Char) (rest : List UInt8) (position : Nat) :
    decodeFrom position (String.utf8EncodeChar c ++ rest) =
      (decodeFrom (position + (String.utf8EncodeChar c).length) rest).map (c :: ·) := by
  obtain ⟨byte, more, h⟩ := List.exists_cons_of_ne_nil (String.utf8EncodeChar_ne_nil (c := c))
  rw [h, List.cons_append, decodeFrom, firstChar_complete h]
  simp

/-- From any position on, bytes decode to a text exactly if they are its encoding. -/
theorem decodeFrom_eq_ok_iff {text : List Char} {bytes : List UInt8} {position : Nat} :
    decodeFrom position bytes = .ok text ↔ bytes = utf8Bytes text := by
  constructor
  · intro h
    fun_induction decodeFrom position bytes generalizing text with
    | case1 => cases h; rfl
    | case2 => cases h
    | case3 position byte rest c count hfirst ih =>
      obtain ⟨more, hmore, rfl⟩ := map_eq_ok.mp h
      rw [utf8Bytes, List.flatMap_cons, firstChar_sound hfirst, List.cons_append]
      exact congrArg _ ((List.take_append_drop _ _).symm.trans (congrArg _ (ih hmore)))
  · rintro rfl
    induction text generalizing position with
    | nil => rw [utf8Bytes, List.flatMap_nil, decodeFrom]
    | cons c text ih =>
      rw [utf8Bytes, List.flatMap_cons, decodeFrom_encoded]
      exact map_eq_ok.mpr ⟨text, ih, rfl⟩

/-- Bytes decode to a text exactly if they are its encoding. -/
theorem decodeUtf8_eq_ok_iff {text : List Char} {bytes : List UInt8} :
    decodeUtf8 bytes = .ok text ↔ bytes = utf8Bytes text :=
  decodeFrom_eq_ok_iff

end TopicPlan.Text
