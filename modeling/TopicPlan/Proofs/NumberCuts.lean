import TopicPlan.Proofs.GrammarBounds

/-! Productions and the numbers among their tokens. Most productions take a number only where they ask
for an integer, or last of all: what they do with tokens is then told by what they do with the tokens
before a number. Every way to put productions together keeps this. -/
namespace TopicPlan.Sql
open Reading

variable {α β : Type}

def Token.IsOverlong (token : Token) (n : Nat) : Prop :=
  token.kind = .number ∧ token.text.toList.all Char.isDigit = true ∧
    token.text.toList.length = n ∧ Text.digitLimit < n

/-- The fault of tokens that end where an integer is asked for. -/
def wantsInteger : GrammarFault := .unexpected .integer none

/-- A production that takes a number only as its last token, or as an integer: what it does with the
tokens before a number tells what it does with all of them. -/
structure CutsAtNumbers (p : Reading α) : Prop where
  extend : ∀ {before later rest : List Token} {token : Token} {x : α}, token.kind = .number →
    p before = .ok (x, rest) → p (before ++ token :: later) = .ok (x, rest ++ token :: later)
  cut : ∀ {tokens later rest : List Token} {token : Token} {x : α}, token.kind = .number →
    p tokens = .ok (x, rest ++ token :: later) →
      ∃ before, tokens = before ++ token :: later ∧ p before = .ok (x, rest)
  meets : ∀ {before later : List Token} {token : Token} {n : Nat}, token.IsOverlong n →
    p before = .error wantsInteger → p (before ++ token :: later) = .error (.numeralTooLong n)
  escapes : ∀ {tokens : List Token} {n : Nat}, p tokens = .error (.numeralTooLong n) →
    ∃ before token later, tokens = before ++ token :: later ∧ token.IsOverlong n ∧
      p before = .error wantsInteger

/-- The same for what takes tokens without a value, and never asks for an integer. -/
structure StepCutsAtNumbers (p : List Token → Parsing (List Token)) : Prop where
  extend : ∀ {before later rest : List Token} {token : Token}, token.kind = .number →
    p before = .ok rest → p (before ++ token :: later) = .ok (rest ++ token :: later)
  cut : ∀ {tokens later rest : List Token} {token : Token}, token.kind = .number →
    p tokens = .ok (rest ++ token :: later) →
      ∃ before, tokens = before ++ token :: later ∧ p before = .ok rest
  quiet : ∀ {tokens : List Token} {fault : GrammarFault}, p tokens = .error fault →
    fault ≠ wantsInteger ∧ ∀ n, fault ≠ .numeralTooLong n

/-- The same for what looks at the front: a number never makes it find more. -/
structure LookCutsAtNumbers (look : List Token → Option (List Token)) : Prop where
  extend : ∀ {before later : List Token} {token : Token}, token.kind = .number →
    look (before ++ token :: later) = (look before).map (· ++ token :: later)
  cut : ∀ {tokens later rest : List Token} {token : Token}, token.kind = .number →
    look tokens = some (rest ++ token :: later) →
      ∃ before, tokens = before ++ token :: later ∧ look before = some rest

namespace CutsAtNumbers

theorem give (x : α) : CutsAtNumbers (give x) where
  extend _ h := by
    cases h
    rfl
  cut _ h := by
    cases h
    exact ⟨_, rfl, rfl⟩
  meets _ h := by cases h
  escapes h := by cases h

theorem refuse {fault : GrammarFault} (hwants : fault ≠ wantsInteger)
    (hlong : ∀ n, fault ≠ .numeralTooLong n) : CutsAtNumbers (refuse fault : Reading α) where
  extend _ h := by cases h
  cut _ h := by cases h
  meets _ h := absurd (Except.error.inj h) hwants
  escapes h := absurd (Except.error.inj h) (hlong _)

theorem seq {p : Reading α} {q : α → Reading β} (hp : CutsAtNumbers p)
    (hq : ∀ x, CutsAtNumbers (q x)) : CutsAtNumbers (seq p q) where
  extend hn h := by
    obtain ⟨x, middle, hfirst, hthen⟩ := seq_eq_ok.mp h
    rw [seq_ok (hp.extend hn hfirst)]
    exact (hq x).extend hn hthen
  cut hn h := by
    obtain ⟨x, middle, hfirst, hthen⟩ := seq_eq_ok.mp h
    obtain ⟨middle, rfl, hlater⟩ := (hq x).cut hn hthen
    obtain ⟨before, rfl, hbefore⟩ := hp.cut hn hfirst
    exact ⟨before, rfl, seq_eq_ok.mpr ⟨x, middle, hbefore, hlater⟩⟩
  meets hlong h := by
    rcases seq_eq_error.mp h with hfirst | ⟨x, middle, hfirst, hthen⟩
    · exact seq_error (hp.meets hlong hfirst)
    · rw [seq_ok (hp.extend hlong.1 hfirst)]
      exact (hq x).meets hlong hthen
  escapes h := by
    rcases seq_eq_error.mp h with hfirst | ⟨x, middle, hfirst, hthen⟩
    · obtain ⟨before, token, later, rfl, hlong, hwants⟩ := hp.escapes hfirst
      exact ⟨before, token, later, rfl, hlong, seq_error hwants⟩
    · obtain ⟨middle, token, later, rfl, hlong, hwants⟩ := (hq x).escapes hthen
      obtain ⟨before, rfl, hbefore⟩ := hp.cut hlong.1 hfirst
      exact ⟨before, token, later, rfl, hlong,
        seq_eq_error.mpr (Or.inr ⟨x, middle, hbefore, hwants⟩)⟩

theorem skip {p : List Token → Parsing (List Token)} {q : Reading β} (hp : StepCutsAtNumbers p)
    (hq : CutsAtNumbers q) : CutsAtNumbers (skip p q) where
  extend hn h := by
    obtain ⟨middle, hfirst, hthen⟩ := skip_eq_ok.mp h
    rw [skip_ok (hp.extend hn hfirst)]
    exact hq.extend hn hthen
  cut hn h := by
    obtain ⟨middle, hfirst, hthen⟩ := skip_eq_ok.mp h
    obtain ⟨middle, rfl, hlater⟩ := hq.cut hn hthen
    obtain ⟨before, rfl, hbefore⟩ := hp.cut hn hfirst
    exact ⟨before, rfl, skip_eq_ok.mpr ⟨middle, hbefore, hlater⟩⟩
  meets hlong h := by
    rcases skip_eq_error.mp h with hfirst | ⟨middle, hfirst, hthen⟩
    · exact absurd rfl (hp.quiet hfirst).1
    · rw [skip_ok (hp.extend hlong.1 hfirst)]
      exact hq.meets hlong hthen
  escapes h := by
    rcases skip_eq_error.mp h with hfirst | ⟨middle, hfirst, hthen⟩
    · exact absurd rfl ((hp.quiet hfirst).2 _)
    · obtain ⟨middle, token, later, rfl, hlong, hwants⟩ := hq.escapes hthen
      obtain ⟨before, rfl, hbefore⟩ := hp.cut hlong.1 hfirst
      exact ⟨before, token, later, rfl, hlong,
        skip_eq_error.mpr (Or.inr ⟨middle, hbefore, hwants⟩)⟩

theorem after_append {look : List Token → Option (List Token)} (hlook : LookCutsAtNumbers look)
    {token : Token} (hn : token.kind = .number) (p q : Reading α) (before later : List Token) :
    after look p q (before ++ token :: later) =
      (look before).elim (q (before ++ token :: later)) fun rest => p (rest ++ token :: later) := by
  have hext : look (before ++ token :: later) = (look before).map (· ++ token :: later) :=
    hlook.extend hn
  cases hl : look before with
  | none =>
    rw [hl] at hext
    exact after_none hext
  | some rest =>
    rw [hl] at hext
    exact after_some hext

theorem after {look : List Token → Option (List Token)} {p q : Reading α}
    (hlook : LookCutsAtNumbers look) (hp : CutsAtNumbers p) (hq : CutsAtNumbers q) :
    CutsAtNumbers (after look p q) where
  extend {before later rest token x} hn h := by
    rw [after_append hlook hn]
    cases hl : look before with
    | none =>
      rw [after_none hl] at h
      exact hq.extend hn h
    | some middle =>
      rw [after_some hl] at h
      exact hp.extend hn h
  cut {tokens later rest token x} hn h := by
    cases hl : look tokens with
    | none =>
      rw [after_none hl] at h
      obtain ⟨before, rfl, hq⟩ := hq.cut hn h
      rw [hlook.extend hn, Option.map_eq_none_iff] at hl
      exact ⟨before, rfl, (after_none hl).trans hq⟩
    | some middle =>
      rw [after_some hl] at h
      obtain ⟨middle, rfl, hp⟩ := hp.cut hn h
      obtain ⟨before, rfl, hbefore⟩ := hlook.cut hn hl
      exact ⟨before, rfl, (after_some hbefore).trans hp⟩
  meets {before later token n} hlong h := by
    rw [after_append hlook hlong.1]
    cases hl : look before with
    | none =>
      rw [after_none hl] at h
      exact hq.meets hlong h
    | some middle =>
      rw [after_some hl] at h
      exact hp.meets hlong h
  escapes {tokens n} h := by
    cases hl : look tokens with
    | none =>
      rw [after_none hl] at h
      obtain ⟨before, token, later, rfl, hlong, hwants⟩ := hq.escapes h
      rw [hlook.extend hlong.1, Option.map_eq_none_iff] at hl
      exact ⟨before, token, later, rfl, hlong, (after_none hl).trans hwants⟩
    | some middle =>
      rw [after_some hl] at h
      obtain ⟨middle, token, later, rfl, hlong, hwants⟩ := hp.escapes h
      obtain ⟨before, rfl, hbefore⟩ := hlook.cut hlong.1 hl
      exact ⟨before, token, later, rfl, hlong, (after_some hbefore).trans hwants⟩

/-- A production is judged by its bounded form, where the tokens before a number are bounded too. -/
theorem of_bounded {p : Reading α} {bounded : Nat → Reading α}
    (heq : ∀ {bound : Nat} {tokens : List Token}, tokens.length < bound →
      p tokens = bounded bound tokens)
    (h : ∀ bound, CutsAtNumbers (bounded bound)) : CutsAtNumbers p := by
  have hwhole (tokens : List Token) : p tokens = bounded (tokens.length + 1) tokens :=
    heq (Nat.lt_succ_self _)
  have hfront (before : List Token) (token : Token) (later : List Token) :
      p before = bounded ((before ++ token :: later).length + 1) before := by
    refine heq ?_
    rw [List.length_append]
    omega
  constructor
  case extend =>
    intro before later rest token x hn hp
    rw [hfront before token later] at hp
    rw [hwhole]
    exact (h _).extend hn hp
  case cut =>
    intro tokens later rest token x hn hp
    rw [hwhole] at hp
    obtain ⟨before, rfl, hbefore⟩ := (h _).cut hn hp
    rw [← hfront before token later] at hbefore
    exact ⟨before, rfl, hbefore⟩
  case meets =>
    intro before later token n hlong hp
    rw [hfront before token later] at hp
    rw [hwhole]
    exact (h _).meets hlong hp
  case escapes =>
    intro tokens n hp
    rw [hwhole] at hp
    obtain ⟨before, token, later, rfl, hlong, hwants⟩ := (h _).escapes hp
    rw [← hfront before token later] at hwants
    exact ⟨before, token, later, rfl, hlong, hwants⟩

theorem single {missing : Expectation} {read : Token → Except Expectation α}
    (hmissing : missing ≠ .integer) : CutsAtNumbers (single missing read) where
  extend {before later rest token x} hn h := by
    obtain ⟨first, rfl, hread⟩ := single_eq_ok.mp h
    exact single_eq_ok.mpr ⟨first, rfl, hread⟩
  cut {tokens later rest token x} hn h := by
    obtain ⟨first, rfl, hread⟩ := single_eq_ok.mp h
    exact ⟨first :: rest, rfl, single_eq_ok.mpr ⟨first, rfl, hread⟩⟩
  meets {before later token n} hlong h := by
    cases before with
    | nil =>
      simp only [Reading.single, unexpected, wantsInteger, List.head?_nil] at h
      cases h
      exact absurd rfl hmissing
    | cons first before =>
      simp only [Reading.single] at h
      cases hr : read first <;> simp [hr, unexpected, wantsInteger] at h
  escapes {tokens n} h := by
    cases tokens with
    | nil => cases h
    | cons first tokens =>
      simp only [Reading.single] at h
      cases hr : read first <;> simp [hr, unexpected] at h

theorem failed {expectation : Expectation} (h : expectation ≠ .integer) :
    CutsAtNumbers (unexpected expectation : Reading α) := by
  have hsingle : (unexpected expectation : Reading α) =
      Reading.single expectation fun _ => .error expectation := by
    funext tokens
    cases tokens <;> rfl
  rw [hsingle]
  exact single h

end CutsAtNumbers

theorem head?_append_number {isFirst : Token → Bool} {token : Token} (h : isFirst token = false)
    (before later : List Token) :
    (before ++ token :: later).head?.any isFirst = before.head?.any isFirst := by
  cases before with
  | nil => simp [h]
  | cons first before => rfl

/-- A choice by the first token, where a number is like no token at all. -/
theorem CutsAtNumbers.of_head {p q r : Reading α} {isFirst : Token → Bool}
    (hq : CutsAtNumbers q) (hr : CutsAtNumbers r)
    (hnumber : ∀ token, token.kind = .number → isFirst token = false)
    (h : ∀ tokens, p tokens = if tokens.head?.any isFirst then q tokens else r tokens) :
    CutsAtNumbers p where
  extend {before later rest token x} hn hp := by
    rw [h] at hp ⊢
    rw [head?_append_number (hnumber token hn)]
    by_cases hfirst : before.head?.any isFirst = true
    · rw [if_pos hfirst] at hp ⊢
      exact hq.extend hn hp
    · rw [if_neg hfirst] at hp ⊢
      exact hr.extend hn hp
  cut {tokens later rest token x} hn hp := by
    rw [h] at hp
    by_cases hfirst : tokens.head?.any isFirst = true
    · rw [if_pos hfirst] at hp
      obtain ⟨before, rfl, hbefore⟩ := hq.cut hn hp
      rw [head?_append_number (hnumber token hn)] at hfirst
      exact ⟨before, rfl, by rw [h, if_pos hfirst, hbefore]⟩
    · rw [if_neg hfirst] at hp
      obtain ⟨before, rfl, hbefore⟩ := hr.cut hn hp
      rw [head?_append_number (hnumber token hn)] at hfirst
      exact ⟨before, rfl, by rw [h, if_neg hfirst, hbefore]⟩
  meets {before later token n} hlong hp := by
    rw [h] at hp ⊢
    rw [head?_append_number (hnumber token hlong.1)]
    by_cases hfirst : before.head?.any isFirst = true
    · rw [if_pos hfirst] at hp ⊢
      exact hq.meets hlong hp
    · rw [if_neg hfirst] at hp ⊢
      exact hr.meets hlong hp
  escapes {tokens n} hp := by
    rw [h] at hp
    by_cases hfirst : tokens.head?.any isFirst = true
    · rw [if_pos hfirst] at hp
      obtain ⟨before, token, later, rfl, hlong, hwants⟩ := hq.escapes hp
      rw [head?_append_number (hnumber token hlong.1)] at hfirst
      exact ⟨before, token, later, rfl, hlong, by rw [h, if_pos hfirst, hwants]⟩
    · rw [if_neg hfirst] at hp
      obtain ⟨before, token, later, rfl, hlong, hwants⟩ := hr.escapes hp
      rw [head?_append_number (hnumber token hlong.1)] at hfirst
      exact ⟨before, token, later, rfl, hlong, by rw [h, if_neg hfirst, hwants]⟩

theorem isKeyword_of_number {token : Token} (h : token.kind = .number) (word : String) :
    token.isKeyword word = false := by
  simp [Token.isKeyword, Token.isWord, Token.isLiteral, h]

theorem look_symbol? (spelling : String) : LookCutsAtNumbers (symbol? spelling) where
  extend {before later token} hn := by
    cases before with
    | nil => simp [symbol?, Token.isLiteral, hn]
    | cons first before =>
      by_cases hf : (!first.isLiteral && first.text == spelling) = true <;> simp [symbol?, hf]
  cut {tokens later rest token} hn h := by
    obtain ⟨first, rfl, hfirst⟩ := symbol?_eq_some.mp h
    exact ⟨first :: rest, rfl, symbol?_eq_some.mpr ⟨first, rfl, hfirst⟩⟩

theorem afterWords?_append {isWord : String → Token → Bool} {token : Token}
    (h : ∀ word, isWord word token = false) (words : List String) (before later : List Token) :
    afterWords? isWord words (before ++ token :: later) =
      (afterWords? isWord words before).map (· ++ token :: later) := by
  induction words generalizing before with
  | nil => rfl
  | cons word words ih =>
    cases before with
    | nil => simp [afterWords?, h]
    | cons first before =>
      by_cases hf : isWord word first = true
      · simp [afterWords?, hf, ih]
      · simp [afterWords?, hf]

theorem cut_afterWords? {isWord : String → Token → Bool} {words : List String} {token : Token}
    {tokens later rest : List Token}
    (h : afterWords? isWord words tokens = some (rest ++ token :: later)) :
    ∃ before, tokens = before ++ token :: later ∧ afterWords? isWord words before = some rest := by
  induction words generalizing tokens with
  | nil =>
    cases h
    exact ⟨rest, rfl, rfl⟩
  | cons word words ih =>
    cases tokens with
    | nil => cases h
    | cons first tokens =>
      simp only [afterWords?] at h
      split at h
      · next hf =>
        obtain ⟨before, rfl, hbefore⟩ := ih h
        exact ⟨first :: before, rfl, by simp [afterWords?, hf, hbefore]⟩
      · cases h

theorem look_keywords? (words : List String) : LookCutsAtNumbers (keywords? words) where
  extend hn := afterWords?_append (isKeyword_of_number hn) words _ _
  cut _ h := cut_afterWords? h

theorem StepCutsAtNumbers.of_look {look : List Token → Option (List Token)}
    {p : List Token → Parsing (List Token)} {expectation : Expectation}
    (hlook : LookCutsAtNumbers look) (hexpectation : expectation ≠ .integer)
    (h : ∀ tokens, p tokens = match look tokens with
      | some rest => .ok rest
      | none => unexpected expectation tokens) : StepCutsAtNumbers p where
  extend {before later rest token} hn hp := by
    have hext : look (before ++ token :: later) = (look before).map (· ++ token :: later) :=
      hlook.extend hn
    rw [h] at hp ⊢
    cases hl : look before with
    | none => simp [hl, unexpected] at hp
    | some found =>
      simp only [hl, Except.ok.injEq] at hp
      rw [hext, hl, hp]
      rfl
  cut {tokens later rest token} hn hp := by
    rw [h] at hp
    cases hl : look tokens with
    | none => simp [hl, unexpected] at hp
    | some found =>
      simp only [hl, Except.ok.injEq] at hp
      subst hp
      obtain ⟨before, rfl, hbefore⟩ := hlook.cut hn hl
      exact ⟨before, rfl, by rw [h, hbefore]⟩
  quiet {tokens fault} hp := by
    rw [h] at hp
    cases hl : look tokens with
    | some found => simp [hl] at hp
    | none =>
      simp only [hl, unexpected, Except.error.injEq] at hp
      subst hp
      refine ⟨?_, fun n hn => by cases hn⟩
      intro hw
      injection hw with hexp
      exact hexpectation hexp

theorem step_symbol (spelling : String) : StepCutsAtNumbers (symbol spelling) :=
  .of_look (look_symbol? spelling) (by simp) fun _ => rfl

theorem step_keywords (words : List String) : StepCutsAtNumbers (keywords words) :=
  .of_look (look_keywords? words) (by simp) fun _ => rfl

theorem step_closingAngle : StepCutsAtNumbers closingAngle where
  extend {before later rest token} hn hp := by
    have hext (mark : String) : symbol? mark (before ++ token :: later) =
        (symbol? mark before).map (· ++ token :: later) := (look_symbol? mark).extend hn
    rw [closingAngle_eq_ok, hext, hext]
    rcases closingAngle_eq_ok.mp hp with ⟨found, hjoined, rfl⟩ | ⟨hnone, hangle⟩
    · exact Or.inl ⟨_, by rw [hjoined]; rfl, rfl⟩
    · exact Or.inr ⟨by rw [hnone]; rfl, by rw [hangle]; rfl⟩
  cut {tokens later rest token} hn hp := by
    rcases closingAngle_eq_ok.mp hp with ⟨found, hjoined, hrest⟩ | ⟨hnone, hangle⟩
    · -- The angle that stays is no number, so the number stands after it.
      cases rest with
      | nil =>
        cases hrest
        cases hn
      | cons angle rest =>
        obtain ⟨rfl, rfl⟩ := List.cons.inj hrest
        obtain ⟨before, rfl, hbefore⟩ := (look_symbol? ">>").cut hn hjoined
        exact ⟨before, rfl, closingAngle_eq_ok.mpr (Or.inl ⟨rest, hbefore, rfl⟩)⟩
    · obtain ⟨before, rfl, hbefore⟩ := (look_symbol? ">").cut hn hangle
      rw [(look_symbol? ">>").extend hn, Option.map_eq_none_iff] at hnone
      exact ⟨before, rfl, closingAngle_eq_ok.mpr (Or.inr ⟨hnone, hbefore⟩)⟩
  quiet {tokens fault} hp := by
    unfold closingAngle at hp
    cases hl : symbol? ">>" tokens with
    | none =>
      rw [hl] at hp
      exact (step_symbol ">").quiet hp
    | some found => simp [hl] at hp

end TopicPlan.Sql
