import TopicPlan.Proofs.NumberCuts
import TopicPlan.Proofs.Numerals
import TopicPlan.Proofs.Productions

/-! Numerals beyond the digit limit. Reading a statement stops at such a numeral exactly where the
grammar asks for an integer and finds it: cut off before the numeral, the statement would be refused
for want of an integer at its end. -/
namespace TopicPlan.Sql
open Reading

variable {α β : Type}

theorem integer_tooLong_iff {token : Token} {later : List Token} {n : Nat} :
    integer (token :: later) = .error (.numeralTooLong n) ↔ token.IsOverlong n := by
  unfold Token.IsOverlong
  rw [← Text.readNat_tooLong_iff]
  by_cases hkind : token.kind = .number
  · cases hread : Text.readNat token.text.toList with
    | ok value => simp [integer, hkind, hread]
    | error error => cases error <;> simp [integer, hkind, hread, unexpected]
  · simp [integer, hkind, unexpected]

theorem cuts_integer : CutsAtNumbers integer where
  extend hn h := by
    obtain ⟨first, rfl, hkind, hread⟩ := integer_eq_ok.mp h
    exact integer_eq_ok.mpr ⟨first, rfl, hkind, hread⟩
  cut hn h := by
    obtain ⟨first, rfl, hkind, hread⟩ := integer_eq_ok.mp h
    exact ⟨first :: _, rfl, integer_eq_ok.mpr ⟨first, rfl, hkind, hread⟩⟩
  meets {before later token n} hlong h := by
    cases before with
    | nil => exact integer_tooLong_iff.mpr hlong
    | cons first before =>
      simp only [integer] at h
      split at h
      · split at h <;> cases h
      · cases h
  escapes {tokens n} h := by
    cases tokens with
    | nil => cases h
    | cons token later => exact ⟨[], token, later, rfl, integer_tooLong_iff.mp h, rfl⟩

theorem cuts_identifier : CutsAtNumbers identifier := by
  rw [identifier_eq]
  exact CutsAtNumbers.single (by simp)

theorem cuts_stringLiteral : CutsAtNumbers stringLiteral := by
  rw [stringLiteral_eq]
  exact CutsAtNumbers.single (by simp)

/-- A property value may be a number of any length: no integer is asked for. -/
theorem cuts_literal : CutsAtNumbers literal := by
  have hunsigned (negative : Bool) : CutsAtNumbers (unsigned negative) := .single (by simp)
  have htext : CutsAtNumbers (single .literal fun token => .ok (Literal.text token.text)) :=
    .single (by simp)
  have hsigned : CutsAtNumbers (after (symbol? "-") (unsigned true) (unsigned false)) :=
    .after (look_symbol? "-") (hunsigned true) (hunsigned false)
  have hchoice : ∀ tokens, literal tokens =
      if tokens.head?.any fun token => token.kind == .string then
        single .literal (fun token => .ok (Literal.text token.text)) tokens
      else after (symbol? "-") (unsigned true) (unsigned false) tokens := by
    intro tokens
    cases tokens with
    | nil => exact literal_signed (by simp)
    | cons token rest =>
      by_cases hs : token.kind = .string
      · simp [literal_text rest hs, hs, single]
      · have hfirst : ∀ first ∈ (token :: rest).head?, first.kind ≠ .string := by simpa using hs
        rw [literal_signed hfirst]
        simp [hs]
  exact .of_head htext hsigned (fun token hn => by simp [hn]) hchoice

theorem cuts_newName (before : List (String × Literal)) (name : String) :
    CutsAtNumbers (newName before name) := by
  rw [newName_eq]
  split
  · exact .failed (by simp)
  · exact .give name

/-- Every production is cut at numbers where it asks for an integer. -/
theorem Production.cutsAtNumbers {asked : List String → Prop} {p : Reading α}
    (h : Production asked p) : CutsAtNumbers p := by
  induction h with
  | give x => exact .give x
  | noDecimal precision scale => exact .refuse (by simp [wantsInteger]) (by simp)
  | noType => exact .failed (by simp)
  | identifier => exact cuts_identifier
  | integer => exact cuts_integer
  | stringLiteral => exact cuts_stringLiteral
  | literal => exact cuts_literal
  | typeName => exact .single (by simp)
  | newName before name => exact cuts_newName before name
  | seq _ _ hp hq => exact hp.seq hq
  | mark mark _ _ hq => exact .skip (step_symbol mark) hq
  | angle _ hq => exact .skip step_closingAngle hq
  | words _ _ hq => exact .skip (step_keywords _) hq
  | mark? mark _ _ _ hp hq => exact .after (look_symbol? mark) hp hq
  | words? words _ _ hp hq => exact .after (look_keywords? words) hp hq
  | bounded heq _ h => exact .of_bounded heq h

/-- A fault that neither asks for an integer nor comes of one. -/
def GrammarFault.Quiet (fault : GrammarFault) : Prop :=
  fault ≠ wantsInteger ∧ ∀ n, fault ≠ .numeralTooLong n

theorem GrammarFault.Declared.quiet {fault : GrammarFault} (h : fault.Declared) : fault.Quiet :=
  ⟨h.1 _ _, h.2⟩

theorem whole_eq_error {p : Reading α} {finish : α → Parsing β} {tokens : List Token}
    {fault : GrammarFault} (hfinish : ∀ x other, finish x = .error other → other.Quiet)
    (hfault : ¬fault.Quiet) : whole p finish tokens = .error fault ↔ p tokens = .error fault := by
  refine ⟨fun h => ?_, whole_of_error⟩
  rcases error_of_whole h with hp | ⟨token, rfl⟩ | ⟨x, hlast⟩
  · exact hp
  · exact absurd ⟨by simp [wantsInteger], by simp⟩ hfault
  · exact absurd (hfinish x _ hlast) hfault

theorem whole_tooLong_iff {p : Reading α} {finish : α → Parsing β} (hp : CutsAtNumbers p)
    (hfinish : ∀ x other, finish x = .error other → other.Quiet) {tokens : List Token} {n : Nat} :
    whole p finish tokens = .error (.numeralTooLong n) ↔
      ∃ before token later, tokens = before ++ token :: later ∧ token.IsOverlong n ∧
        whole p finish before = .error wantsInteger := by
  have htooLong : ¬(GrammarFault.numeralTooLong n).Quiet := fun h => h.2 n rfl
  have hwants : ¬wantsInteger.Quiet := fun h => h.1 rfl
  rw [whole_eq_error hfinish htooLong]
  constructor
  · intro h
    obtain ⟨before, token, later, htokens, hlong, hbefore⟩ := hp.escapes h
    exact ⟨before, token, later, htokens, hlong, (whole_eq_error hfinish hwants).mpr hbefore⟩
  · rintro ⟨before, token, later, rfl, hlong, hbefore⟩
    exact hp.meets hlong ((whole_eq_error hfinish hwants).mp hbefore)

/-- A statement stops the reading of its text exactly when a numeral beyond the digit limit stands
where, cut off before it, the statement would be asked for an integer. -/
theorem statementOfKind_tooLong_iff {kind : StatementKind} {tokens : List Token} {n : Nat} :
    statementOfKind kind tokens = .error (.numeralTooLong n) ↔
      ∃ before token later, tokens = before ++ token :: later ∧ token.IsOverlong n ∧
        statementOfKind kind before = .error wantsInteger := by
  cases kind with
  | other =>
    simp only [statementOfKind]
    constructor
    · intro h
      cases h
    · rintro ⟨before, token, later, -, -, h⟩
      cases h
  | register =>
    simp only [statementOfKind_register, map_eq_error, typeRegistration_whole]
    have hproduction : Production (fun _ => True) registrationReading :=
      production_registrationReading trivial trivial
    exact whole_tooLong_iff hproduction.cutsAtNumbers (by simp)
  | create kind =>
    simp only [statementOfKind_create, map_eq_error, source_whole]
    have hproduction : Production (fun _ => True) (declarationReading kind) :=
      production_declarationReading trivial trivial
    exact whole_tooLong_iff hproduction.cutsAtNumbers fun _ _ h => (source?_declared h).quiet

end TopicPlan.Sql
