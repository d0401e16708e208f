import TopicPlan.Proofs.Results
import TopicPlan.Sql.Lexer

/-! Statements among lexemes. Main statements: the lexer makes no separators but semicolons, and where
it makes no others, taking words apart and parting statements can change places. -/
namespace TopicPlan.Sql
open Text

def semicolon : Token := ⟨.separator, ";"⟩

def Token.isSeparator (token : Token) : Bool := token.kind == .separator

def Token.PartsBySemicolon (token : Token) : Prop := token.isSeparator = true → token = semicolon

/-- Lexemes whose words are some tokens, with no separators but semicolons. -/
structure Carries (lexemes : List Lexeme) (tokens : List Token) : Prop where
  words : reducedTokens lexemes = tokens
  separators : ∀ lexeme ∈ lexemes, lexeme.token.PartsBySemicolon

section Runs

variable {α β : Type} {p : α → Bool} {q : β → Bool}

theorem go_eq_splitOnP (items : List α) : splitRuns.go p items = items.splitOnP p := by
  induction items with
  | nil => rfl
  | cons item rest ih =>
    obtain ⟨run, runs, hruns⟩ := List.exists_cons_of_ne_nil (List.splitOnP_ne_nil p rest)
    rw [splitRuns.go, ih, List.splitOnP_cons_eq_if_modifyHead, hruns]
    rfl

theorem splitRuns_eq (items : List α) :
    splitRuns p items = (items.splitOnP p).filter fun run => !run.isEmpty := by
  rw [splitRuns, go_eq_splitOnP]

theorem splitRuns_cons {separator : α} (h : p separator = true) (items : List α) :
    splitRuns p (separator :: items) = splitRuns p items := by
  simp [splitRuns_eq, List.splitOnP_cons_eq_if_modifyHead, h]

theorem splitRuns_append_left {separators : List α} (h : ∀ x ∈ separators, p x = true)
    (items : List α) : splitRuns p (separators ++ items) = splitRuns p items := by
  induction separators with
  | nil => rfl
  | cons separator rest ih =>
    obtain ⟨hseparator, hrest⟩ := List.forall_mem_cons.mp h
    rw [List.cons_append, splitRuns_cons hseparator, ih hrest]

theorem splitRuns_append_right {run after : List α} (hne : run ≠ []) (hrun : ∀ x ∈ run, p x = false)
    (hafter : ∀ x ∈ after.head?, p x = true) :
    splitRuns p (run ++ after) = run :: splitRuns p after := by
  have hkept : (!run.isEmpty) = true := by simpa using hne
  cases after with
  | nil => simp [splitRuns_eq, List.splitOnP_eq_singleton hrun, hkept]
  | cons separator rest =>
    have hseparator : p separator = true := hafter separator rfl
    rw [splitRuns_cons hseparator, splitRuns_eq, splitRuns_eq,
      List.splitOnP_append_cons_of_forall_mem hrun separator hseparator, List.filter_cons,
      if_pos hkept]

theorem splitOnP_append {run : List α} (h : ∀ x ∈ run, p x = false) (items : List α) :
    (run ++ items).splitOnP p = (items.splitOnP p).modifyHead (run ++ ·) := by
  obtain ⟨first, runs, hruns⟩ := List.exists_cons_of_ne_nil (List.splitOnP_ne_nil p items)
  induction run with
  | nil => simp [hruns]
  | cons item rest ih =>
    obtain ⟨hitem, hrest⟩ := List.forall_mem_cons.mp h
    rw [List.cons_append, List.splitOnP_cons_eq_if_modifyHead, ih hrest, hruns]
    simp [hitem]

/-- Runs can be made of the parts of items, where separators have none but themselves. -/
theorem splitOnP_flatMap {f : α → List β} {items : List α}
    (hseparator : ∀ x ∈ items, p x = true → ∃ separator, q separator = true ∧ f x = [separator])
    (hother : ∀ x ∈ items, p x = false → ∀ y ∈ f x, q y = false) :
    (items.flatMap f).splitOnP q = (items.splitOnP p).map (·.flatMap f) := by
  induction items with
  | nil => rfl
  | cons item rest ih =>
    have hrest := ih (fun x hx => hseparator x (List.mem_cons_of_mem item hx))
      fun x hx => hother x (List.mem_cons_of_mem item hx)
    obtain ⟨run, runs, hruns⟩ := List.exists_cons_of_ne_nil (List.splitOnP_ne_nil p rest)
    rw [List.splitOnP_cons_eq_if_modifyHead]
    cases hitem : p item with
    | true =>
      obtain ⟨separator, hq, hf⟩ := hseparator item (by simp) hitem
      rw [List.flatMap_cons, hf, List.singleton_append, List.splitOnP_cons_eq_if_modifyHead, hq,
        hrest]
      rfl
    | false =>
      rw [List.flatMap_cons, splitOnP_append (hother item (by simp) hitem), hrest, hruns]
      rfl

theorem splitRuns_flatMap {f : α → List β} {items : List α}
    (hseparator : ∀ x ∈ items, p x = true → ∃ separator, q separator = true ∧ f x = [separator])
    (hother : ∀ x ∈ items, p x = false → ∀ y ∈ f x, q y = false) (hne : ∀ x, f x ≠ []) :
    splitRuns q (items.flatMap f) = (splitRuns p items).map (·.flatMap f) := by
  have hempty : (fun run => !run.isEmpty) ∘ (·.flatMap f) = fun run : List α => !run.isEmpty := by
    funext run
    cases run with
    | nil => rfl
    | cons item rest => simp [hne item]
  rw [splitRuns_eq, splitRuns_eq, splitOnP_flatMap hseparator hother, List.filter_map, hempty]

end Runs

theorem lt_of_isAlpha {c : Char} (h : c.isAlpha = true) : c.toNat < 128 := by
  rcases (Bool.or_eq_true c.isUpper c.isLower).mp h with hupper | hlower
  · have hle : 'A'.val ≤ c.val ∧ c.val ≤ 'Z'.val := of_decide_eq_true hupper
    exact Nat.lt_of_le_of_lt (UInt32.le_iff_toNat_le.mp hle.2) (by decide)
  · have hle : c.val ≤ 'z'.val := of_decide_eq_true (Bool.and_eq_true_iff.mp hlower).2
    exact Nat.lt_of_le_of_lt (UInt32.le_iff_toNat_le.mp hle) (by decide)

theorem lt_of_isNameChar {c : Char} (h : isNameChar c = true) : c.toNat < 128 := by
  simp only [isNameChar, Char.isAlphanum, Bool.or_eq_true, beq_iff_eq, Char.isDigit_iff_toNat] at h
  rcases h with (((halpha | hdigit) | rfl) | rfl) | rfl
  · exact lt_of_isAlpha halpha
  · exact Nat.lt_of_le_of_lt hdigit.2 (by decide)
  · decide
  · decide
  · decide

theorem isBlank_of_isNameChar {c : Char} (h : isNameChar c = true) : isBlank c = false := by
  have hascii : ∀ n < 128, isNameChar (Char.ofNat n) = true → isBlank (Char.ofNat n) = false := by
    decide
  have hc := hascii c.toNat (lt_of_isNameChar h)
  rw [Char.ofNat_toNat] at hc
  exact hc h

theorem isNameChar_of_isNameStart {c : Char} (h : isNameStart c = true) : isNameChar c = true := by
  simp only [isNameStart, isNameChar, Char.isAlphanum, Bool.or_eq_true] at h ⊢
  rcases h with h | h
  · simp [h]
  · simp [h]

theorem exists_word_of_isName {s : List Char} (h : isName s = true) :
    ∃ word, (∀ c ∈ word, isNameChar c = true) ∧ (s = word ∨ s = word ++ ['\n']) := by
  cases s with
  | nil => cases h
  | cons c rest =>
    simp only [isName, Bool.and_eq_true, Bool.or_eq_true, List.all_eq_true, beq_iff_eq] at h
    obtain ⟨hstart, hrest⟩ := h
    have hfirst := isNameChar_of_isNameStart hstart
    rcases hrest with hrest | ⟨hlast, hrest⟩
    · exact ⟨c :: rest, List.forall_mem_cons.mpr ⟨hfirst, hrest⟩, Or.inl rfl⟩
    · obtain ⟨front, rfl⟩ := List.getLast?_eq_some_iff.mp hlast
      rw [List.dropLast_concat] at hrest
      exact ⟨c :: front, List.forall_mem_cons.mpr ⟨hfirst, hrest⟩, Or.inr rfl⟩

/-- A line feed at its end does not take a name apart. -/
theorem words_of_isName {name : List Char} (h : isName name = true) : (words name).length ≤ 1 := by
  obtain ⟨word, hword, htext⟩ := exists_word_of_isName h
  have hblank : ∀ c ∈ word, isBlank c = false := fun c hc => isBlank_of_isNameChar (hword c hc)
  have hend (rest : List Char) : words (word ++ rest) = wordsFrom word.reverse rest := by
    rw [words, wordsFrom_append hblank, List.append_nil]
  rcases htext with rfl | rfl
  · have hwords := hend []
    rw [List.append_nil] at hwords
    rw [hwords, wordsFrom]
    split <;> simp
  · have hfeed : isBlank '\n' = true := by decide
    rw [hend, wordsFrom, if_pos hfeed]
    split <;> simp [wordsFrom]

namespace Token

theorem split_ne_nil (token : Token) : token.split ≠ [] := by
  unfold split
  split
  · simp
  split
  · simp
  · simp
  · next hnil _ => simpa using hnil

theorem isSeparator_of_mem_split {token part : Token} (h : token.isSeparator = false)
    (hpart : part ∈ token.split) : part.isSeparator = false := by
  have hself (hmem : part ∈ [token]) : part.isSeparator = false := by
    rwa [List.mem_singleton.mp hmem]
  unfold split at hpart
  split at hpart
  · exact hself hpart
  split at hpart
  · exact hself hpart
  · exact hself hpart
  · obtain ⟨word, -, rfl⟩ := List.mem_map.mp hpart
    rfl

theorem split_of_isName {token : Token} (h : isName token.text.toList = true) :
    token.split = [token] := by
  have hwords := words_of_isName h
  unfold split
  split
  · rfl
  split
  · rfl
  · rfl
  · next hnil hsingle =>
    cases hall : words token.text.toList with
    | nil => exact absurd hall hnil
    | cons word more =>
      rw [hall, List.length_cons] at hwords
      have hmore : more = [] := List.eq_nil_of_length_eq_zero (by omega)
      exact absurd (hmore ▸ hall) (hsingle word)

end Token

/-- The words of the statements are the statements of the words. -/
theorem Carries.map_statementsOf {lexemes : List Lexeme} {tokens : List Token}
    (h : Carries lexemes tokens) :
    (statementsOf lexemes).map reducedTokens = splitRuns Token.isSeparator tokens := by
  have hseparator : ∀ lexeme ∈ lexemes, (lexeme.token.kind == .separator) = true →
      ∃ separator : Token, separator.isSeparator = true ∧ lexeme.token.split = [separator] := by
    intro lexeme hlexeme hkind
    have htoken := h.separators lexeme hlexeme hkind
    have hsplit : semicolon.split = [semicolon] := by decide
    rw [htoken]
    exact ⟨semicolon, rfl, hsplit⟩
  rw [← h.words]
  exact (splitRuns_flatMap hseparator (fun _ _ hkind _ => Token.isSeparator_of_mem_split hkind)
    fun lexeme => lexeme.token.split_ne_nil).symm

theorem partsBySemicolon_of_ne {kind : TokenKind} (h : kind ≠ .separator) (text : String) :
    Token.PartsBySemicolon ⟨kind, text⟩ := by
  intro hseparator
  exact absurd (eq_of_beq hseparator) h

namespace Piece

def PartsBySemicolon (piece : Piece) : Prop :=
  ∀ made ∈ piece.token?, made.1.PartsBySemicolon

theorem partsBySemicolon_skip (used : Nat) : (skip used).PartsBySemicolon := by
  intro made h
  cases h

theorem partsBySemicolon_of {kind : TokenKind} (h : kind ≠ .separator) (text : List Char)
    (used : Nat) (role : Role) : (of kind text used role).PartsBySemicolon := by
  intro made hmade
  cases hmade
  exact partsBySemicolon_of_ne h _

theorem partsBySemicolon_single (last : Option Role) (c : Char) (rest : List Char) :
    (single last c rest).PartsBySemicolon := by
  unfold single
  split
  · next hc =>
    intro made hmade _
    cases hmade
    rw [eq_of_beq hc]
    rfl
  split
  · exact partsBySemicolon_of (by decide) _ _ _
  · exact partsBySemicolon_of (by decide) _ _ _

theorem partsBySemicolon_quotation {kind : TokenKind} (hkind : kind ≠ .separator) {quote : Char}
    {opening : Nat} {s : List Char} {piece : Piece}
    (h : quotation kind quote opening s = .ok piece) : piece.PartsBySemicolon := by
  obtain ⟨content, -, rfl⟩ := map_eq_ok.mp h
  exact partsBySemicolon_of hkind _ _ _

theorem partsBySemicolon_next {last : Option Role} {c : Char} {rest : List Char} {piece : Piece}
    (h : next last c rest = .ok piece) : piece.PartsBySemicolon := by
  unfold next at h
  simp only at h
  split at h
  · cases h
    exact partsBySemicolon_skip _
  split at h
  · cases h
    exact partsBySemicolon_of (by decide) _ _ _
  split at h
  · exact partsBySemicolon_quotation (by decide) h
  -- What stands at the front is told by the longest mark there, if any.
  split at h
  · exact partsBySemicolon_quotation (by decide) h
  · exact partsBySemicolon_quotation (by decide) h
  · cases h
    exact partsBySemicolon_skip _
  · split at h
    · cases h
    split at h
    · cases h
      exact partsBySemicolon_of (by decide) _ _ _
    · cases h
      exact partsBySemicolon_skip _
  · split at h
    · cases h
      exact partsBySemicolon_of (by decide) _ _ _
    · cases h
      exact partsBySemicolon_single _ _ _
  · cases h
    exact partsBySemicolon_single _ _ _

end Piece

theorem partsBySemicolon_of_mem_lexFrom {last : Option Role} {start : Nat} {s : List Char}
    {lexemes : List Lexeme} (h : lexFrom last start s = .ok lexemes) :
    ∀ lexeme ∈ lexemes, lexeme.token.PartsBySemicolon := by
  fun_induction lexFrom last start s generalizing lexemes with
  | case1 =>
    cases h
    simp
  | case2 last start c rest hskipped hcommand hplain =>
    obtain ⟨piece, hpiece, hrest⟩ := bind_eq_ok.mp h
    have hparts := Piece.partsBySemicolon_next hpiece
    simp only at hrest
    split at hrest
    · exact hskipped piece hrest
    next token role hmade =>
      have htoken : token.PartsBySemicolon := hparts _ hmade
      split at hrest
      · obtain ⟨length, -, hrest⟩ := bind_eq_ok.mp hrest
        obtain ⟨more, hmore, hrest⟩ := bind_eq_ok.mp hrest
        have hothers := hcommand piece length hmore
        split at hrest
        · cases hrest
          exact List.forall_mem_cons.mpr ⟨htoken, hothers⟩
        · cases hrest
          have htail : ∀ text, Token.PartsBySemicolon ⟨.string, text⟩ :=
            partsBySemicolon_of_ne (by decide)
          exact List.forall_mem_cons.mpr ⟨htoken, List.forall_mem_cons.mpr ⟨htail _, hothers⟩⟩
      · obtain ⟨more, hmore, hrest⟩ := bind_eq_ok.mp hrest
        cases hrest
        exact List.forall_mem_cons.mpr ⟨htoken, hplain piece role hmore⟩

/-- What the lexer reads from a text carries the words that it is reduced to. -/
theorem carries_of_lex {s : List Char} {lexemes : List Lexeme} (h : lex s = .ok lexemes)
    {tokens : List Token} (hwords : reducedTokens lexemes = tokens) : Carries lexemes tokens :=
  ⟨hwords, partsBySemicolon_of_mem_lexFrom (mapError_eq_ok.mp h)⟩

end TopicPlan.Sql
