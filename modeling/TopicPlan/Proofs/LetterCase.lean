import TopicPlan.Proofs.KeptTexts
import TopicPlan.Proofs.Productions
import TopicPlan.Proofs.Queries
import TopicPlan.Proofs.Splitting

/-! Words in any case. A statement is read twice, once with some of its unquoted words in other letters:
every production goes the same way in both runs, finds the same, and leaves tokens that are again the
same but for the case of words. -/
namespace TopicPlan

namespace Text

theorem toUpper_of_not_ascii {c : Char} (h : ¬c.toNat < 128) : c.toUpper = c := by
  unfold Char.toUpper
  rw [dif_neg]
  rintro ⟨-, hle⟩
  have hz : c.toNat ≤ 122 := UInt32.le_iff_toNat_le.mp hle
  omega

theorem toUpper_keeps {α : Type} {f : Char → α}
    (h : ∀ n < 128, f (Char.ofNat n).toUpper = f (Char.ofNat n)) (c : Char) : f c.toUpper = f c := by
  by_cases hc : c.toNat < 128
  · have hn := h c.toNat hc
    rwa [Char.ofNat_toNat] at hn
  · rw [toUpper_of_not_ascii hc]

end Text

namespace Sql

/-! ### Tokens in another case -/

theorem isNameStart_toUpper : ∀ c : Char, isNameStart c.toUpper = isNameStart c :=
  Text.toUpper_keeps (by decide)

theorem isNameChar_toUpper : ∀ c : Char, isNameChar c.toUpper = isNameChar c :=
  Text.toUpper_keeps (by decide)

theorem isLineFeed_toUpper : ∀ c : Char, (c.toUpper == '\n') = (c == '\n') :=
  @Text.toUpper_keeps Bool (· == '\n') (by decide)

theorem isName_map_toUpper (s : List Char) : isName (s.map Char.toUpper) = isName s := by
  cases s with
  | nil => rfl
  | cons c rest =>
    have hall (cs : List Char) : (cs.map Char.toUpper).all isNameChar = cs.all isNameChar := by
      rw [List.all_map]
      exact congrArg cs.all (funext isNameChar_toUpper)
    have hlast : ((rest.map Char.toUpper).getLast? == some '\n') = (rest.getLast? == some '\n') := by
      rw [List.getLast?_map]
      cases rest.getLast? with
      | none => rfl
      | some d => exact isLineFeed_toUpper d
    rw [List.map_cons, isName, isName, isNameStart_toUpper, hall, hlast, ← List.map_dropLast, hall]

theorem lt_of_isName {s : List Char} (h : isName s = true) : ∀ c ∈ s, c.toNat < 128 := by
  obtain ⟨word, hword, rfl | rfl⟩ := exists_word_of_isName h
  · exact fun c hc => lt_of_isNameChar (hword c hc)
  · intro c hc
    rcases List.mem_append.mp hc with hc | hc
    · exact lt_of_isNameChar (hword c hc)
    · rw [List.mem_singleton.mp hc]
      decide

/-- Two tokens that are the same, but for the case of the letters of an unquoted word. -/
inductive Token.Recased : Token → Token → Prop
  | same (token : Token) : Token.Recased token token
  | word {token other : Token} (hkind : token.kind = other.kind) (hliteral : token.isLiteral = false)
      (hquoted : token.isQuoted = false) (hname : isName token.text.toList = true)
      (hcase : token.text.toList.map Char.toUpper = other.text.toList.map Char.toUpper) :
      Token.Recased token other

theorem Token.recased_iff {token other : Token} : token.Recased other ↔ token = other ∨
    token.kind = other.kind ∧ token.isLiteral = false ∧ token.isQuoted = false ∧
      isName token.text.toList = true ∧
      token.text.toList.map Char.toUpper = other.text.toList.map Char.toUpper := by
  constructor
  · rintro (_ | ⟨hkind, hliteral, hquoted, hname, hcase⟩)
    · exact Or.inl rfl
    · exact Or.inr ⟨hkind, hliteral, hquoted, hname, hcase⟩
  · rintro (rfl | ⟨hkind, hliteral, hquoted, hname, hcase⟩)
    · exact .same token
    · exact .word hkind hliteral hquoted hname hcase

instance (token other : Token) : Decidable (token.Recased other) :=
  decidable_of_iff _ Token.recased_iff.symm

namespace Token.Recased

variable {token other : Token}

theorem kind_eq (h : token.Recased other) : token.kind = other.kind := by
  cases h with
  | same => rfl
  | word hkind => exact hkind

theorem isLiteral_eq (h : token.Recased other) : token.isLiteral = other.isLiteral := by
  rw [isLiteral, isLiteral, h.kind_eq]

theorem isQuoted_eq (h : token.Recased other) : token.isQuoted = other.isQuoted := by
  rw [isQuoted, isQuoted, h.kind_eq]

theorem text_eq_of_literal (h : token.Recased other) (hliteral : token.isLiteral = true) :
    token.text = other.text := by
  cases h with
  | same => rfl
  | word _ hnot => rw [hnot] at hliteral; cases hliteral

theorem text_eq_of_quoted (h : token.Recased other) (hquoted : token.isQuoted = true) :
    token.text = other.text := by
  cases h with
  | same => rfl
  | word _ _ hnot => rw [hnot] at hquoted; cases hquoted

theorem isName_eq (h : token.Recased other) :
    isName token.text.toList = isName other.text.toList := by
  cases h with
  | same => rfl
  | word _ _ _ _ hcase => rw [← isName_map_toUpper, hcase, isName_map_toUpper]

theorem isWord_eq (h : token.Recased other) : token.isWord = other.isWord := by
  rw [isWord, isWord, h.isLiteral_eq, h.isQuoted_eq, h.isName_eq]

theorem upper_eq (h : token.Recased other) : token.upper = other.upper := by
  have hname := h.isName_eq
  cases h with
  | same => rfl
  | word _ _ _ htoken hcase =>
    have hother := hname.symm.trans htoken
    rw [upper, upper, Text.upper_of_ascii (lt_of_isName htoken),
      Text.upper_of_ascii (lt_of_isName hother), hcase]

theorem isKeyword_eq (h : token.Recased other) (word : String) :
    token.isKeyword word = other.isKeyword word := by
  rw [isKeyword, isKeyword, h.isWord_eq, h.isQuoted_eq, h.upper_eq]

theorem keyword_eq (h : token.Recased other) : token.keyword = other.keyword := by
  rw [keyword, keyword, h.isLiteral_eq, h.isQuoted_eq, h.upper_eq]

theorem text_eq_iff (h : token.Recased other) (mark : String) (hmark : isName mark.toList = false) :
    token.text = mark ↔ other.text = mark := by
  have hname := h.isName_eq
  cases h with
  | same => rfl
  | word _ _ _ htoken =>
    have hother := hname.symm.trans htoken
    refine iff_of_false ?_ ?_
    · rintro rfl
      rw [hmark] at htoken
      cases htoken
    · rintro rfl
      rw [hmark] at hother
      cases hother

theorem parenthesis_eq (h : token.Recased other) : token.parenthesis = other.parenthesis := by
  have hopen := h.text_eq_iff "(" (by decide)
  have hclose := h.text_eq_iff ")" (by decide)
  simp only [parenthesis, hopen, hclose]

end Token.Recased

/-! ### Two runs -/

/-- Two faults that are the same, but for the case of the word that was found. -/
inductive GrammarFault.Recased : GrammarFault → GrammarFault → Prop
  | same (fault : GrammarFault) : GrammarFault.Recased fault fault
  | found (expectation : Expectation) {token other : Token} (h : token.Recased other) :
      GrammarFault.Recased (.unexpected expectation (some token)) (.unexpected expectation (some other))

/-- Two runs end alike: with related values, or with the same fault but for the case of words. -/
inductive EndAlike {α : Type} (r : α → α → Prop) : Parsing α → Parsing α → Prop
  | ok {x y : α} (h : r x y) : EndAlike r (.ok x) (.ok y)
  | error {fault other : GrammarFault} (h : fault.Recased other) :
      EndAlike r (.error fault) (.error other)

abbrev SameWords : List Token → List Token → Prop := List.Forall₂ Token.Recased

def SameFound {α : Type} (found other : α × List Token) : Prop :=
  found.1 = other.1 ∧ SameWords found.2 other.2

/-- Computations on tokens whose runs end alike where the tokens differ in the case of words alone. -/
def CaseBlind {α : Type} (r : α → α → Prop) (p : List Token → Parsing α) : Prop :=
  ∀ ⦃tokens others⦄, SameWords tokens others → EndAlike r (p tokens) (p others)

def LookCaseBlind (look : List Token → Option (List Token)) : Prop :=
  ∀ ⦃tokens others⦄, SameWords tokens others → Option.Rel SameWords (look tokens) (look others)

variable {α β : Type} {r : α → α → Prop} {s : β → β → Prop}

theorem EndAlike.bind {x y : Parsing α} {f g : α → Parsing β} (h : EndAlike r x y)
    (hthen : ∀ a b, r a b → EndAlike s (f a) (g b)) : EndAlike s (x >>= f) (y >>= g) := by
  cases h with
  | ok hvalues => exact hthen _ _ hvalues
  | error hfault => exact .error hfault

theorem endAlike_unexpected (expectation : Expectation) {tokens others : List Token}
    (h : SameWords tokens others) :
    EndAlike r (unexpected expectation tokens) (unexpected expectation others) := by
  cases h with
  | nil => exact .error (.same _)
  | cons hfirst _ => exact .error (.found expectation hfirst)

namespace CaseBlind
open Reading

theorem give (x : α) : CaseBlind SameFound (give x) := fun _ _ h => .ok ⟨rfl, h⟩

theorem refuse (fault : GrammarFault) : CaseBlind SameFound (refuse fault : Reading α) :=
  fun _ _ _ => .error (.same fault)

theorem unexpected (expectation : Expectation) :
    CaseBlind r (unexpected expectation : List Token → Parsing α) :=
  fun _ _ h => endAlike_unexpected expectation h

theorem seq {p : Reading α} {q : α → Reading β} (hp : CaseBlind SameFound p)
    (hq : ∀ x, CaseBlind SameFound (q x)) : CaseBlind SameFound (seq p q) := by
  intro tokens others h
  refine (hp h).bind ?_
  rintro ⟨x, rest⟩ ⟨y, other⟩ ⟨hsame, hrest⟩
  obtain rfl : x = y := hsame
  exact hq x hrest

theorem skip {p : List Token → Parsing (List Token)} {q : Reading β} (hp : CaseBlind SameWords p)
    (hq : CaseBlind SameFound q) : CaseBlind SameFound (skip p q) :=
  fun _ _ h => (hp h).bind fun _ _ hrest => hq hrest

theorem after {look : List Token → Option (List Token)} {p q : Reading α}
    (hlook : LookCaseBlind look) (hp : CaseBlind SameFound p) (hq : CaseBlind SameFound q) :
    CaseBlind SameFound (after look p q) := by
  intro tokens others h
  have hfound := hlook h
  unfold Reading.after
  generalize look tokens = found, look others = other at hfound
  cases hfound with
  | some hrest => exact hp hrest
  | none => exact hq h

theorem single (missing : Expectation) {read : Token → Except Expectation α}
    (hread : ∀ {token other : Token}, token.Recased other → read token = read other) :
    CaseBlind SameFound (single missing read) := by
  intro tokens others h
  cases h with
  | nil => exact .error (.same _)
  | @cons token other _ _ hfirst hrest =>
    simp only [Reading.single]
    rw [hread hfirst]
    cases read other with
    | ok x => exact .ok ⟨rfl, hrest⟩
    | error expectation => exact .error (.found expectation hfirst)

/-- A bound that is large enough for one run is large enough for the other. -/
theorem of_bounded {p : Reading α} {bounded : Nat → Reading α}
    (heq : ∀ {bound : Nat} {tokens : List Token}, tokens.length < bound →
      p tokens = bounded bound tokens)
    (h : ∀ bound, CaseBlind SameFound (bounded bound)) : CaseBlind SameFound p := by
  intro tokens others hsame
  have hother : others.length < tokens.length + 1 := hsame.length_eq ▸ Nat.lt_succ_self _
  rw [heq (Nat.lt_succ_self _), heq hother]
  exact h _ hsame

theorem of_look {look : List Token → Option (List Token)} {p : List Token → Parsing (List Token)}
    (expectation : Expectation) (hlook : LookCaseBlind look)
    (hp : ∀ tokens, p tokens = match look tokens with
      | some rest => .ok rest
      | none => Sql.unexpected expectation tokens) : CaseBlind SameWords p := by
  intro tokens others h
  have hfound := hlook h
  rw [hp, hp]
  generalize look tokens = found, look others = other at hfound
  cases hfound with
  | some hrest => exact .ok hrest
  | none => exact endAlike_unexpected expectation h

end CaseBlind

/-! ### Marks and keywords -/

theorem look_symbol?_caseBlind {mark : String} (hmark : isName mark.toList = false) :
    LookCaseBlind (symbol? mark) := by
  intro tokens others h
  cases h with
  | nil => exact .none
  | @cons token other _ _ hfirst hrest =>
    have htext : (token.text == mark) = (other.text == mark) := by
      rw [Bool.eq_iff_iff, beq_iff_eq, beq_iff_eq]
      exact hfirst.text_eq_iff mark hmark
    rw [symbol?, symbol?, hfirst.isLiteral_eq, htext]
    split
    · exact .some hrest
    · exact .none

theorem look_keywords?_caseBlind (words : List String) : LookCaseBlind (keywords? words) :=
  fun _ _ h => StatementKind.afterWords?_alike (fun hfirst word => hfirst.isKeyword_eq word) words h

theorem caseBlind_symbol {mark : String} (hmark : isName mark.toList = false) :
    CaseBlind SameWords (symbol mark) :=
  .of_look (.symbol mark) (look_symbol?_caseBlind hmark) fun _ => rfl

theorem caseBlind_keywords (words : List String) : CaseBlind SameWords (keywords words) :=
  .of_look (.keywords words) (look_keywords?_caseBlind words) fun _ => rfl

theorem caseBlind_closingAngle : CaseBlind SameWords closingAngle := by
  intro tokens others h
  have hfound := @look_symbol?_caseBlind ">>" (by decide) _ _ h
  unfold closingAngle
  generalize symbol? ">>" tokens = found, symbol? ">>" others = other at hfound
  cases hfound with
  | some hrest => exact .ok (.cons (.same _) hrest)
  | none => exact caseBlind_symbol (by decide) h

/-! ### Productions -/

theorem caseBlind_identifier : CaseBlind SameFound identifier := by
  rw [identifier_eq]
  refine .single .identifier fun {token other} h => ?_
  rw [h.isWord_eq, h.isQuoted_eq, h.upper_eq]
  by_cases hquoted : other.isQuoted = true
  · rw [h.text_eq_of_quoted (h.isQuoted_eq.trans hquoted)]
  · simp [hquoted]

theorem caseBlind_stringLiteral : CaseBlind SameFound stringLiteral := by
  rw [stringLiteral_eq]
  refine .single .stringLiteral fun {token other} h => ?_
  rw [h.kind_eq]
  by_cases hstring : other.kind = .string
  · have hliteral : token.isLiteral = true := by simp [Token.isLiteral, h.kind_eq, hstring]
    rw [h.text_eq_of_literal hliteral]
  · simp [hstring]

theorem caseBlind_integer : CaseBlind SameFound integer := by
  intro tokens others h
  cases h with
  | nil => exact .error (.same _)
  | @cons token other rest more hfirst hrest =>
    simp only [integer]
    rw [hfirst.kind_eq]
    by_cases hnumber : other.kind = .number
    · have hliteral : token.isLiteral = true := by
        simp [Token.isLiteral, hfirst.kind_eq, hnumber]
      rw [hfirst.text_eq_of_literal hliteral]
      simp only [hnumber, beq_self_eq_true, if_true]
      cases Text.readNat other.text.toList with
      | ok n => exact .ok ⟨rfl, hrest⟩
      | error error => cases error with
        | tooLong digits => exact .error (.same _)
        | malformed => exact .error (.found .integer hfirst)
    · have hother : (other.kind == .number) = false := by simpa using hnumber
      simp only [hother]
      exact .error (.found .integer hfirst)

theorem caseBlind_typeName : CaseBlind SameFound typeName := by
  refine .single .type fun {token other} h => ?_
  rw [h.isWord_eq, h.isQuoted_eq, h.upper_eq]
  by_cases hquoted : other.isQuoted = true
  · rw [h.text_eq_of_quoted (h.isQuoted_eq.trans hquoted)]
  · simp [hquoted]

theorem caseBlind_literal : CaseBlind SameFound literal := by
  have hunsigned (negative : Bool) : CaseBlind SameFound (unsigned negative) := by
    refine .single .literal fun {token other} h => ?_
    rw [h.kind_eq, h.isKeyword_eq, h.isKeyword_eq]
    by_cases hnumber : other.kind = .number
    · have hliteral : token.isLiteral = true := by simp [Token.isLiteral, h.kind_eq, hnumber]
      rw [h.text_eq_of_literal hliteral]
    · simp [hnumber]
  have hsigned := CaseBlind.after (@look_symbol?_caseBlind "-" (by decide)) (hunsigned true)
    (hunsigned false)
  intro tokens others h
  cases h with
  | nil => exact .error (.same _)
  | @cons token other rest more hfirst hrest =>
    by_cases hstring : other.kind = .string
    · have htoken := hfirst.kind_eq.trans hstring
      have hliteral : token.isLiteral = true := by simp [Token.isLiteral, htoken]
      rw [literal_text rest htoken, literal_text more hstring, hfirst.text_eq_of_literal hliteral]
      exact .ok ⟨rfl, hrest⟩
    · have htoken : token.kind ≠ .string := hfirst.kind_eq ▸ hstring
      rw [literal_signed (by simpa using htoken), literal_signed (by simpa using hstring)]
      exact hsigned (.cons hfirst hrest)

theorem caseBlind_newName (before : List (String × Literal)) (name : String) :
    CaseBlind SameFound (newName before name) := by
  rw [newName_eq]
  split
  · exact .unexpected _
  · exact .give name

/-- Every production goes the same way in both runs. -/
theorem Production.caseBlind {asked : List String → Prop} {p : Reading α} (h : Production asked p) :
    CaseBlind SameFound p := by
  induction h with
  | give x => exact .give x
  | noDecimal precision scale => exact .refuse _
  | noType => exact .unexpected .type
  | identifier => exact caseBlind_identifier
  | integer => exact caseBlind_integer
  | stringLiteral => exact caseBlind_stringLiteral
  | literal => exact caseBlind_literal
  | typeName => exact caseBlind_typeName
  | newName before name => exact caseBlind_newName before name
  | seq _ _ hp hq => exact .seq hp hq
  | mark _ hmark _ hq => exact .skip (caseBlind_symbol hmark) hq
  | angle _ hq => exact .skip caseBlind_closingAngle hq
  | words _ _ hq => exact .skip (caseBlind_keywords _) hq
  | mark? _ hmark _ _ hp hq => exact .after (look_symbol?_caseBlind hmark) hp hq
  | words? words _ _ hp hq => exact .after (look_keywords?_caseBlind words) hp hq
  | bounded heq _ h => exact .of_bounded heq h

/-! ### Statements -/

theorem caseBlind_endOfStatement : CaseBlind Eq endOfStatement := by
  intro tokens others h
  cases h with
  | nil => exact .ok rfl
  | cons hfirst _ => exact .error (.found .endOfStatement hfirst)

theorem EndAlike.refl {x : Parsing α} : EndAlike Eq x x := by
  cases x with
  | ok x => exact .ok rfl
  | error fault => exact .error (.same fault)

theorem EndAlike.map {x y : Parsing α} {f : α → β} (h : EndAlike Eq x y) :
    EndAlike Eq (x.map f) (y.map f) := by
  cases h with
  | ok hsame => exact .ok (congrArg f hsame)
  | error hfault => exact .error hfault

theorem Production.endAlike {asked : List String → Prop} {p : Reading α} (hp : Production asked p)
    (finish : α → Parsing β) {tokens others : List Token} (h : SameWords tokens others) :
    EndAlike Eq (whole p finish tokens) (whole p finish others) := by
  refine (hp.caseBlind h).bind fun found other hfound =>
    (caseBlind_endOfStatement hfound.2).bind fun _ _ _ => ?_
  rw [hfound.1]
  exact .refl

theorem endAlike_statementOfKind (kind : StatementKind) {tokens others : List Token}
    (h : SameWords tokens others) :
    EndAlike Eq (statementOfKind kind tokens) (statementOfKind kind others) := by
  cases kind with
  | register =>
    have hproduction : Production (fun _ => True) registrationReading :=
      production_registrationReading trivial trivial
    rw [statementOfKind_register, statementOfKind_register, typeRegistration_whole]
    exact (hproduction.endAlike .ok h).map
  | create kind =>
    have hproduction : Production (fun _ => True) (declarationReading kind) :=
      production_declarationReading trivial trivial
    rw [statementOfKind_create, statementOfKind_create, source_whole]
    exact (hproduction.endAlike (·.source? kind) h).map
  | other => exact .ok rfl

theorem ofTokens_of_sameWords {tokens others : List Token} (h : SameWords tokens others) :
    StatementKind.ofTokens tokens = StatementKind.ofTokens others :=
  StatementKind.ofTokens_of_alike (fun hfirst => ⟨hfirst.keyword_eq, hfirst.parenthesis_eq⟩) h

theorem endAlike_statement {tokens others : List Token} (h : SameWords tokens others) :
    EndAlike Eq (statement tokens) (statement others) := by
  unfold statement
  rw [ofTokens_of_sameWords h]
  exact endAlike_statementOfKind _ h

/-- Unquoted words count in any case: tokens that differ in it alone are of one kind, and make the same
statement or fail with the same fault. The statement is the one that the tokens say; what quoted names
and strings say in it is kept to the letter, but for properties: their names are in upper case, and some
of them are counts or truth values. -/
theorem words_read_in_any_case {tokens others : List Token} (h : SameWords tokens others) :
    StatementKind.ofTokens tokens = StatementKind.ofTokens others ∧
    (∀ tree?, statement tokens = .ok tree? ↔ statement others = .ok tree?) ∧
    (∀ fault, statement tokens = .error fault →
      ∃ other, statement others = .error other ∧ fault.Recased other) ∧
    ∀ tree, statement tokens = .ok (some tree) →
      (∃ opened, Opens .lax tokens opened ∧ Says .lax (.ofTokens tokens) tree opened) ∧
      ∀ token ∈ tokens, (token.kind = .quoted → tree.KeepsName token.text) ∧
        (token.kind = .string → tree.KeepsString token.text) := by
  have halike := endAlike_statement h
  refine ⟨ofTokens_of_sameWords h, fun tree? => ?_, fun fault hfault => ?_, fun tree htree => ?_⟩
  · generalize statement tokens = first, statement others = second at halike
    cases halike with
    | ok hsame => rw [hsame]
    | error _ => simp
  · rw [hfault] at halike
    generalize statement others = second at halike
    cases halike with
    | error hother => exact ⟨_, rfl, hother⟩
  · exact ⟨says_of_allFit (allFit_lax tokens) htree, fun token htoken => keeps_statement htree htoken⟩

def recasedWords (create stream name type topic : String) : List Token :=
  [⟨.plain, create⟩, ⟨.plain, stream⟩, ⟨.plain, name⟩, ⟨.plain, "("⟩, ⟨.quoted, "Id"⟩,
    ⟨.plain, type⟩, ⟨.plain, ")"⟩, ⟨.plain, "WITH"⟩, ⟨.plain, "("⟩, ⟨.plain, topic⟩, ⟨.plain, "="⟩,
    ⟨.string, "Topic"⟩, ⟨.plain, ")"⟩]

theorem words_read_in_any_case_stream :
    SameWords (recasedWords "create" "Stream" "s" "int" "Kafka_topic")
      (recasedWords "CREATE" "STREAM" "S" "INT" "KAFKA_TOPIC") ∧
    statement (recasedWords "create" "Stream" "s" "int" "Kafka_topic") =
      statement (recasedWords "CREATE" "STREAM" "S" "INT" "KAFKA_TOPIC") ∧
    ∃ source, statement (recasedWords "create" "Stream" "s" "int" "Kafka_topic") =
      .ok (some (.create source)) ∧ (Statement.create source).KeepsName "Id" := by
  have hsame : SameWords (recasedWords "create" "Stream" "s" "int" "Kafka_topic")
      (recasedWords "CREATE" "STREAM" "S" "INT" "KAFKA_TOPIC") := by decide
  have hread : statement (recasedWords "create" "Stream" "s" "int" "Kafka_topic") =
      .ok (some (.create ⟨.stream, "S", [⟨"Id", .base .integer, .none⟩],
        ⟨"Topic", .separate none none, none, none, none, []⟩, false, false, false⟩)) := by
    decide +kernel
  obtain ⟨-, htrees, -, hkept⟩ := words_read_in_any_case hsame
  obtain ⟨-, htexts⟩ := hkept _ hread
  exact ⟨hsame, hread.trans ((htrees _).mp hread).symm, _, hread,
    (htexts ⟨.quoted, "Id"⟩ (by decide)).1 rfl⟩

/-- A property is named in upper case also where its name is quoted. -/
theorem quoted_property_in_upper_case :
    (lex "CREATE STREAM S WITH (`kafka_topic`='t')".toList).map reducedTokens = .ok
      [⟨.plain, "CREATE"⟩, ⟨.plain, "STREAM"⟩, ⟨.plain, "S"⟩, ⟨.plain, "WITH"⟩, ⟨.plain, "("⟩,
        ⟨.quoted, "kafka_topic"⟩, ⟨.plain, "="⟩, ⟨.string, "t"⟩, ⟨.plain, ")"⟩] ∧
    ∃ tree, statement
      [⟨.plain, "CREATE"⟩, ⟨.plain, "STREAM"⟩, ⟨.plain, "S"⟩, ⟨.plain, "WITH"⟩, ⟨.plain, "("⟩,
        ⟨.quoted, "kafka_topic"⟩, ⟨.plain, "="⟩, ⟨.string, "t"⟩, ⟨.plain, ")"⟩] = .ok (some tree) ∧
      "kafka_topic" ∉ tree.names ∧ "kafka_topic" ∉ tree.strings ∧
      tree.properties = [("KAFKA_TOPIC", .text "t")] := by
  refine ⟨by decide +kernel, .create ⟨.stream, "S", [],
    ⟨"t", .separate none none, none, none, none, []⟩, false, false, false⟩, by decide +kernel, ?_⟩
  decide

end Sql
end TopicPlan
