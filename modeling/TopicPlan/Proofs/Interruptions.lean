import TopicPlan.Proofs.OverlongNumerals
import TopicPlan.Proofs.Runs

/-! What stops the reading of a test case. A text stops it by holding several statements, and by an
overlong numeral where a statement is asked for an integer; every other fault is an outcome. A run
stops exactly when one of its texts does, whatever the catalog is by then. -/
namespace TopicPlan
namespace Sql

theorem parseStatement_eq_error {text : List Char} {chunk : List Lexeme} {fault : GrammarFault} :
    (∃ source, parseStatement text chunk = .error (.malformed fault source)) ↔
      statement (reducedTokens chunk) = .error fault := by
  unfold parseStatement
  cases statement (reducedTokens chunk) with
  | ok found => simp
  | error other => simp

/-- An overlong numeral of `n` digits where a statement is asked for an integer: the text can be taken
apart, the statements before that one can be read, and it itself, cut off before the numeral, would
be refused for want of an integer at its end. -/
def MeetsOverlong (sql : String) (n : Nat) : Prop :=
  ∃ lexemes readable chunk later, lex sql.toList = .ok lexemes ∧
    statementsOf lexemes = readable ++ chunk :: later ∧
    (∀ other ∈ readable, ∃ parsed, parseStatement sql.toList other = .ok parsed) ∧
    ∃ before token after, reducedTokens chunk = before ++ token :: after ∧ token.IsOverlong n ∧
      statementOfKind (.ofTokens (reducedTokens chunk)) before = .error wantsInteger

theorem parse_tooLong_iff {sql : String} {n : Nat} :
    (∃ source, parse sql = .error (.malformed (.numeralTooLong n) source)) ↔
      MeetsOverlong sql n := by
  unfold parse MeetsOverlong
  cases hlex : lex sql.toList with
  | error error => simp
  | ok lexemes =>
    simp only [mapM_eq_error, Except.ok.injEq]
    constructor
    · rintro ⟨source, readable, chunk, later, hchunks, hreadable, hchunk⟩
      refine ⟨lexemes, readable, chunk, later, rfl, hchunks, hreadable, ?_⟩
      have hstatement := parseStatement_eq_error.mp ⟨source, hchunk⟩
      exact statementOfKind_tooLong_iff.mp hstatement
    · rintro ⟨_, readable, chunk, later, rfl, hchunks, hreadable, hmeets⟩
      have hstatement : statement (reducedTokens chunk) = .error (.numeralTooLong n) :=
        statementOfKind_tooLong_iff.mpr hmeets
      obtain ⟨source, hchunk⟩ := parseStatement_eq_error.mpr hstatement
      exact ⟨source, readable, chunk, later, hchunks, hreadable, hchunk⟩

end Sql
open Sql

/-- What stops the reading at a text is told by its parse alone. -/
theorem extract_eq_error {config : EngineConfig} {catalog : Catalog} {sql : String}
    {error : ExtractionError} :
    (extract config catalog sql).result = .error error ↔
      (error = .severalStatements sql ∧
        ∃ first second rest, parse sql = .ok (first :: second :: rest)) ∨
      ∃ n, error = .numeralTooLong n ∧
        ∃ source, parse sql = .error (.malformed (.numeralTooLong n) source) := by
  rcases hparse : parse sql with fault | _ | ⟨parsed, _ | ⟨second, rest⟩⟩
  · rw [extract_unparsed hparse, unparsed.eq_def]
    split
    · simp [eq_comm]
    · next hother =>
      have hshort : ∀ n source, fault ≠ .malformed (.numeralTooLong n) source := hother
      simp [hshort]
  · simp [extract_blank hparse]
  · simp [extract_single hparse]
  · simp [extract_several hparse, eq_comm]

def Interrupts (sql : String) : Prop :=
  (∃ first second rest, parse sql = .ok (first :: second :: rest)) ∨ ∃ n, MeetsOverlong sql n

theorem extract_interrupted_iff {config : EngineConfig} {catalog : Catalog} {sql : String} :
    (∃ error, (extract config catalog sql).result = .error error) ↔ Interrupts sql := by
  simp only [extract_eq_error, parse_tooLong_iff, Interrupts]
  constructor
  · rintro ⟨error, ⟨-, hseveral⟩ | ⟨n, -, hmeets⟩⟩
    · exact Or.inl hseveral
    · exact Or.inr ⟨n, hmeets⟩
  · rintro (hseveral | ⟨n, hmeets⟩)
    · exact ⟨_, Or.inl ⟨rfl, hseveral⟩⟩
    · exact ⟨_, Or.inr ⟨n, rfl, hmeets⟩⟩

/-- A run stops exactly when one of its texts stops it: those before it only change the catalog. -/
theorem extractAll_interrupted_iff {config : EngineConfig} {catalog : Catalog}
    {statements : List String} :
    (∃ error, (extractAll config catalog statements).result = .error error) ↔
      ∃ sql ∈ statements, Interrupts sql := by
  induction statements generalizing catalog with
  | nil => simp [extractAll]
  | cons sql rest ih =>
    have hsql : (∃ error, (extract config catalog sql).result = .error error) ↔ Interrupts sql :=
      extract_interrupted_iff
    simp only [extractAll_cons, List.mem_cons, exists_eq_or_imp]
    cases hx : (extract config catalog sql).result with
    | error error =>
      rw [hx] at hsql
      have hinterrupts : Interrupts sql := hsql.mp ⟨error, rfl⟩
      simp [Except.bind, hinterrupts]
    | ok extraction =>
      rw [hx] at hsql
      have hgoes : ¬Interrupts sql := fun h => by simpa using hsql.mpr h
      have hrest : (∃ error, (extractAll config extraction.catalog rest).result = .error error) ↔
          ∃ sql ∈ rest, Interrupts sql := ih
      simp only [hgoes, false_or, ← hrest, Except.bind, map_eq_error]

/-- Reading a text stops only at several statements and at an overlong numeral where an integer is
asked for, and it does stop there; a test case stops exactly when one of its texts does. -/
theorem reading_stops_iff (config : EngineConfig) (catalog : Catalog) (sql : String)
    (declared : List Topic) (statements inputs outputs : List String) :
    (∀ error, (extract config catalog sql).result = .error error ↔
      (error = .severalStatements sql ∧
        ∃ first second rest, parse sql = .ok (first :: second :: rest)) ∨
      ∃ n, error = .numeralTooLong n ∧ MeetsOverlong sql n) ∧
    ((∃ error, (collectTopics config declared statements inputs outputs).result = .error error) ↔
      ∃ text ∈ statements, (∃ first second rest, parse text = .ok (first :: second :: rest)) ∨
        ∃ n, MeetsOverlong text n) := by
  constructor
  · intro error
    rw [extract_eq_error]
    simp only [parse_tooLong_iff]
  · have hrun : (∃ error, (extractAll config .empty statements).result = .error error) ↔
        ∃ text ∈ statements, Interrupts text := extractAll_interrupted_iff
    rw [collectTopics]
    simp only [Noted.result_bind, Noted.result_pure]
    refine Iff.trans ?_ hrun
    cases (extractAll config .empty statements).result with
    | error error => simp [Except.bind]
    | ok found => simp [Except.bind]

end TopicPlan
