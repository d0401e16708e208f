import TopicPlan.Sql.Classification
import TopicPlan.Sql.Lexer
import Mathlib.Algebra.Ring.Int.Defs
import Mathlib.Data.List.Forall2

/-! What the kind of a statement is told by. The leading words are keywords, which no string and no
quoted name can be. Whether a query follows a declaration is told by the word `AS` and by how many
parentheses stand before it; here a string or a quoted name counts whose text is a parenthesis, and
nothing else of such tokens does. -/
namespace TopicPlan.Sql

namespace Token

/-- The step into or out of parentheses that a token makes, whatever kind of token it is. -/
def parenthesis (token : Token) : Int :=
  if token.text = "(" then 1 else if token.text = ")" then -1 else 0

/-- Two tokens of one kind that are the same, unless they are strings or quoted names. -/
structure SameOutside (token other : Token) : Prop where
  kind : token.kind = other.kind
  text : token.kind ≠ .string → token.kind ≠ .quoted → token.text = other.text

theorem SameOutside.keyword_eq {token other : Token} (h : token.SameOutside other) :
    token.keyword = other.keyword := by
  obtain ⟨kind, text⟩ := token
  obtain ⟨otherKind, otherText⟩ := other
  obtain rfl : kind = otherKind := h.kind
  cases kind with
  | string | number | quoted => rfl
  | plain | separator =>
    have htext : text = otherText := h.text nofun nofun
    rw [htext]

theorem parenthesis_of_keyword {token : Token} (h : token.keyword = "AS") :
    token.text ≠ "(" ∧ token.text ≠ ")" := by
  have hupper : Text.upper token.text = "AS" := by
    unfold keyword at h
    split at h
    · exact absurd h (by decide)
    · exact h
  constructor <;> intro htext <;> rw [htext] at hupper <;> revert hupper <;> decide

end Token

namespace StatementKind

def namedKind? (tokens : List Token) : Option (SourceKind × List Token) :=
  match afterKeywords? ["STREAM"] tokens, afterKeywords? ["TABLE"] tokens with
  | some rest, _ => some (.stream, rest)
  | none, some rest => some (.table, rest)
  | none, none => none

def declared? (tokens : List Token) : Option (SourceKind × List Token) :=
  (afterKeywords? ["CREATE"] tokens).bind fun tokens =>
    let tokens := (afterKeywords? ["OR", "REPLACE"] tokens).getD tokens
    namedKind? ((afterKeywords? ["SOURCE"] tokens).getD tokens)

theorem ofTokens_eq (tokens : List Token) :
    ofTokens tokens =
      if (afterKeywords? ["REGISTER", "TYPE"] tokens).isSome then .register
      else match declared? tokens with
        | none => .other
        | some (kind, rest) => if hasQuery 0 rest then .other else .create kind := by
  unfold ofTokens declared? namedKind?
  cases afterKeywords? ["CREATE"] tokens with
  | none => rfl
  | some tokens =>
    simp only [Option.bind_some]
    generalize (afterKeywords? ["SOURCE"] ((afterKeywords? ["OR", "REPLACE"] tokens).getD
      tokens)).getD ((afterKeywords? ["OR", "REPLACE"] tokens).getD tokens) = rest
    cases afterKeywords? ["STREAM"] rest with
    | some after => rfl
    | none => cases afterKeywords? ["TABLE"] rest <;> rfl

theorem not_register_of_declared {tokens rest : List Token} {kind : SourceKind}
    (h : declared? tokens = some (kind, rest)) :
    afterKeywords? ["REGISTER", "TYPE"] tokens = none := by
  cases tokens with
  | nil => rfl
  | cons token tokens =>
    by_cases hcreate : token.keyword = "CREATE"
    · simp [afterKeywords?, afterWords?, hcreate]
    · simp [declared?, afterKeywords?, afterWords?, hcreate] at h

/-! ### Whether a query follows -/

theorem hasQuery_cons (depth : Int) (token : Token) (tokens : List Token) :
    hasQuery depth (token :: tokens) =
      (depth == 0 && token.keyword == "AS" || hasQuery (depth + token.parenthesis) tokens) := by
  unfold Token.parenthesis
  by_cases hkeyword : token.keyword = "AS"
  · obtain ⟨hopen, hclose⟩ := Token.parenthesis_of_keyword hkeyword
    simp [hasQuery, hopen, hclose]
  · by_cases hopen : token.text = "("
    · simp [hasQuery, hkeyword, hopen]
    · by_cases hclose : token.text = ")"
      · simp [hasQuery, hkeyword, hclose, Int.sub_eq_add_neg]
      · simp [hasQuery, hopen, hclose]

/-- The word `AS` stands among tokens where all parentheses are closed that were opened. -/
def AsksQuery (tokens : List Token) : Prop :=
  ∃ before word after, tokens = before ++ word :: after ∧ word.keyword = "AS" ∧
    (before.map Token.parenthesis).sum = 0

theorem hasQuery_iff (depth : Int) (tokens : List Token) :
    hasQuery depth tokens = true ↔ ∃ before word after, tokens = before ++ word :: after ∧
      word.keyword = "AS" ∧ depth + (before.map Token.parenthesis).sum = 0 := by
  induction tokens generalizing depth with
  | nil => simp [hasQuery]
  | cons token tokens ih =>
    rw [hasQuery_cons, Bool.or_eq_true, ih]
    constructor
    · rintro (hhere | ⟨before, word, after, rfl, hword, hdepth⟩)
      · obtain ⟨hdepth, hword⟩ : depth = 0 ∧ token.keyword = "AS" := by simpa using hhere
        exact ⟨[], token, tokens, rfl, hword, by simpa using hdepth⟩
      · refine ⟨token :: before, word, after, rfl, hword, ?_⟩
        rw [List.map_cons, List.sum_cons]
        omega
    · rintro ⟨before, word, after, htokens, hword, hdepth⟩
      cases before with
      | nil =>
        cases htokens
        left
        simpa [hword] using hdepth
      | cons first before =>
        cases htokens
        rw [List.map_cons, List.sum_cons] at hdepth
        exact Or.inr ⟨before, word, after, rfl, hword, by omega⟩

theorem hasQuery_zero_iff (tokens : List Token) :
    hasQuery 0 tokens = true ↔ AsksQuery tokens := by
  rw [hasQuery_iff]
  simp [AsksQuery]

/-! ### Tokens that are alike -/

section Rel

variable {α β γ δ : Type} {r : α → β → Prop} {first : Option α} {second : Option β}

theorem isSome_of_rel (h : Option.Rel r first second) : first.isSome = second.isSome := by
  cases h <;> rfl

theorem getD_of_rel (h : Option.Rel r first second) {a : α} {b : β} (hab : r a b) :
    r (first.getD a) (second.getD b) := by
  cases h with
  | some hboth => exact hboth
  | none => exact hab

theorem bind_of_rel {s : γ → δ → Prop} {f : α → Option γ} {g : β → Option δ}
    (h : Option.Rel r first second) (hfg : ∀ {a b}, r a b → Option.Rel s (f a) (g b)) :
    Option.Rel s (first.bind f) (second.bind g) := by
  cases h with
  | some hboth => exact hfg hboth
  | none => exact .none

theorem map_of_rel {f : α → γ} {g : β → γ} (h : Option.Rel r first second)
    (hfg : ∀ {a b}, r a b → f a = g b) : first.map f = second.map g := by
  cases h with
  | some hboth => exact congrArg some (hfg hboth)
  | none => rfl

end Rel

theorem afterWords?_alike {R : Token → Token → Prop} {isWord : String → Token → Bool}
    (hR : ∀ {token other}, R token other → ∀ word, isWord word token = isWord word other)
    (words : List String) {tokens others : List Token} (h : List.Forall₂ R tokens others) :
    Option.Rel (List.Forall₂ R) (afterWords? isWord words tokens) (afterWords? isWord words others) := by
  induction words generalizing tokens others with
  | nil => exact .some h
  | cons word words ih =>
    cases h with
    | nil => exact .none
    | cons hfirst hrest =>
      unfold afterWords?
      rw [hR hfirst]
      split
      · exact ih hrest
      · exact .none

section Alike

variable {R : Token → Token → Prop} (hR : ∀ {token other : Token}, R token other →
  token.keyword = other.keyword) {tokens others : List Token}

include hR

theorem afterKeywords?_alike (words : List String) (h : List.Forall₂ R tokens others) :
    Option.Rel (List.Forall₂ R) (afterKeywords? words tokens) (afterKeywords? words others) := by
  refine @afterWords?_alike R _ (fun hfirst word => ?_) words _ _ h
  rw [hR hfirst]

theorem getD_afterKeywords?_alike (words : List String) (h : List.Forall₂ R tokens others) :
    List.Forall₂ R ((afterKeywords? words tokens).getD tokens)
      ((afterKeywords? words others).getD others) :=
  getD_of_rel (afterKeywords?_alike hR words h) h

theorem namedKind?_alike (h : List.Forall₂ R tokens others) :
    Option.Rel (fun found other => found.1 = other.1 ∧ List.Forall₂ R found.2 other.2)
      (namedKind? tokens) (namedKind? others) := by
  have hstream := afterKeywords?_alike hR ["STREAM"] h
  have htable := afterKeywords?_alike hR ["TABLE"] h
  unfold namedKind?
  generalize afterKeywords? ["STREAM"] tokens = stream at hstream ⊢
  generalize afterKeywords? ["STREAM"] others = otherStream at hstream ⊢
  generalize afterKeywords? ["TABLE"] tokens = table at htable ⊢
  generalize afterKeywords? ["TABLE"] others = otherTable at htable ⊢
  cases hstream with
  | some hrest => exact .some ⟨rfl, hrest⟩
  | none =>
    cases htable with
    | some hrest => exact .some ⟨rfl, hrest⟩
    | none => exact .none

theorem declared?_alike (h : List.Forall₂ R tokens others) :
    Option.Rel (fun found other => found.1 = other.1 ∧ List.Forall₂ R found.2 other.2)
      (declared? tokens) (declared? others) := by
  refine bind_of_rel (afterKeywords?_alike hR ["CREATE"] h) fun hafter => ?_
  have hreplace := getD_afterKeywords?_alike hR ["OR", "REPLACE"] hafter
  exact namedKind?_alike hR (getD_afterKeywords?_alike hR ["SOURCE"] hreplace)

/-- Alike tokens are of the same kind exactly when a query is asked for in both or in neither, wherever
they declare a source. -/
theorem ofTokens_eq_iff_of_alike (h : List.Forall₂ R tokens others) :
    ofTokens tokens = ofTokens others ↔ ∀ kind rest otherRest,
      declared? tokens = some (kind, rest) → declared? others = some (kind, otherRest) →
        (AsksQuery rest ↔ AsksQuery otherRest) := by
  have hdeclared := declared?_alike hR h
  have hregister := isSome_of_rel (afterKeywords?_alike hR ["REGISTER", "TYPE"] h)
  rw [ofTokens_eq, ofTokens_eq, hregister]
  cases hfirst : declared? tokens with
  | none =>
    rw [hfirst] at hdeclared
    cases hsecond : declared? others with
    | none => simp
    | some second =>
      rw [hsecond] at hdeclared
      cases hdeclared
  | some first =>
    rw [hfirst] at hdeclared
    cases hsecond : declared? others with
    | none =>
      rw [hsecond] at hdeclared
      cases hdeclared
    | some second =>
      obtain ⟨kind, rest⟩ := first
      obtain ⟨otherKind, otherRest⟩ := second
      rw [hsecond] at hdeclared
      cases hdeclared with
      | some hboth =>
        obtain rfl : kind = otherKind := hboth.1
        rw [not_register_of_declared hsecond]
        have hquery : (if hasQuery 0 rest = true then StatementKind.other else .create kind) =
            (if hasQuery 0 otherRest = true then .other else .create kind) ↔
              (hasQuery 0 rest = true ↔ hasQuery 0 otherRest = true) := by
          cases hasQuery 0 rest <;> cases hasQuery 0 otherRest <;> simp
        have hasked : (hasQuery 0 rest = true ↔ hasQuery 0 otherRest = true) ↔
            (AsksQuery rest ↔ AsksQuery otherRest) := by
          rw [hasQuery_zero_iff, hasQuery_zero_iff]
        refine (hquery.trans hasked).trans ⟨?_, fun hall => hall kind rest otherRest rfl rfl⟩
        intro hsame found rest' otherRest' hrest hother
        cases hrest
        cases hother
        exact hsame

end Alike

theorem hasQuery_of_alike {R : Token → Token → Prop}
    (hR : ∀ {token other : Token}, R token other →
      token.keyword = other.keyword ∧ token.parenthesis = other.parenthesis)
    {tokens others : List Token} (h : List.Forall₂ R tokens others) (depth : Int) :
    hasQuery depth tokens = hasQuery depth others := by
  induction h generalizing depth with
  | nil => rfl
  | cons hfirst _ ih =>
    obtain ⟨hkeyword, hparenthesis⟩ := hR hfirst
    rw [hasQuery_cons, hasQuery_cons, hkeyword, hparenthesis, ih]

theorem ofTokens_of_alike {R : Token → Token → Prop}
    (hR : ∀ {token other : Token}, R token other →
      token.keyword = other.keyword ∧ token.parenthesis = other.parenthesis)
    {tokens others : List Token} (h : List.Forall₂ R tokens others) :
    ofTokens tokens = ofTokens others := by
  have hkeyword : ∀ {token other : Token}, R token other → token.keyword = other.keyword :=
    fun h => (hR h).1
  rw [ofTokens_eq_iff_of_alike hkeyword h]
  intro kind rest otherRest hrest hother
  have hdeclared := declared?_alike hkeyword h
  rw [hrest, hother] at hdeclared
  cases hdeclared with
  | some hboth => rw [← hasQuery_zero_iff, ← hasQuery_zero_iff, hasQuery_of_alike hR hboth.2]

theorem ofTokens_eq_register_iff (tokens : List Token) :
    ofTokens tokens = .register ↔ (afterKeywords? ["REGISTER", "TYPE"] tokens).isSome = true := by
  rw [ofTokens_eq]
  split
  · next h => exact iff_of_true rfl h
  · next h =>
    refine iff_of_false ?_ h
    split
    · nofun
    · split <;> nofun

/-- Strings and quoted names have no part in the leading words of a statement, whatever their texts are.
Two statements that differ in such texts alone are of the same kind exactly when the word `AS` stands
outside parentheses in both or in neither of the declarations, where each text that is a parenthesis
counts as one; so they are of the same kind wherever the same tokens are parentheses in both. -/
theorem kind_told_outside_texts {tokens others : List Token}
    (h : List.Forall₂ Token.SameOutside tokens others) :
    (ofTokens tokens = .register ↔ ofTokens others = .register) ∧
    (declared? tokens).map (·.1) = (declared? others).map (·.1) ∧
    (ofTokens tokens = ofTokens others ↔ ∀ kind rest otherRest,
      declared? tokens = some (kind, rest) → declared? others = some (kind, otherRest) →
        (AsksQuery rest ↔ AsksQuery otherRest)) ∧
    (List.Forall₂ (fun token other => token.parenthesis = other.parenthesis) tokens others →
      ofTokens tokens = ofTokens others) := by
  refine ⟨?_, ?_, ofTokens_eq_iff_of_alike Token.SameOutside.keyword_eq h, ?_⟩
  · have hregister := isSome_of_rel
      (afterKeywords?_alike Token.SameOutside.keyword_eq ["REGISTER", "TYPE"] h)
    rw [ofTokens_eq_register_iff, ofTokens_eq_register_iff, hregister]
  · exact map_of_rel (declared?_alike Token.SameOutside.keyword_eq h) fun hboth => hboth.1
  · intro hparentheses
    have hboth : List.Forall₂ (fun token other => token.SameOutside other ∧
        token.parenthesis = other.parenthesis) tokens others := by
      induction h with
      | nil => exact .nil
      | cons hfirst _ ih =>
        cases hparentheses with
        | cons hparenthesis hrest => exact .cons ⟨hfirst, hparenthesis⟩ (ih hrest)
    exact ofTokens_of_alike (fun hfirst => ⟨hfirst.1.keyword_eq, hfirst.2⟩) hboth

def twoColumns (name : String) : List Token :=
  [⟨.plain, "CREATE"⟩, ⟨.plain, "STREAM"⟩, ⟨.plain, "S"⟩, ⟨.plain, "("⟩, ⟨.quoted, name⟩,
    ⟨.plain, "INT"⟩, ⟨.plain, ","⟩, ⟨.plain, "AS"⟩, ⟨.plain, "INT"⟩, ⟨.plain, ")"⟩]

theorem sameOutside_twoColumns (name other : String) :
    List.Forall₂ Token.SameOutside (twoColumns name) (twoColumns other) := by
  have hsame : ∀ token : Token, token.SameOutside token := fun _ => ⟨rfl, fun _ _ => rfl⟩
  have hname : Token.SameOutside ⟨.quoted, name⟩ ⟨.quoted, other⟩ :=
    ⟨rfl, fun _ hquoted => absurd rfl hquoted⟩
  simp [twoColumns, hsame, hname]

/-- A quoted name that reads like a keyword. -/
theorem kind_told_outside_texts_keyword :
    List.Forall₂ Token.SameOutside (twoColumns "AS") (twoColumns "x") ∧
      ofTokens (twoColumns "AS") = ofTokens (twoColumns "x") ∧
      ofTokens (twoColumns "x") = .create .stream := by
  have halike := sameOutside_twoColumns "AS" "x"
  obtain ⟨-, -, -, hkind⟩ := kind_told_outside_texts halike
  exact ⟨halike, hkind (by simp [twoColumns, Token.parenthesis]), by decide +kernel⟩

/-- A quoted name that is a parenthesis makes a column named `AS` look like a query. -/
theorem quoted_parenthesis_hides_declaration :
    (lex "CREATE STREAM S (`)` INT, AS INT)".toList).map reducedTokens = .ok (twoColumns ")") ∧
      (lex "CREATE STREAM S (`x` INT, AS INT)".toList).map reducedTokens = .ok (twoColumns "x") ∧
      List.Forall₂ Token.SameOutside (twoColumns ")") (twoColumns "x") ∧
      ofTokens (twoColumns ")") = .other ∧ ofTokens (twoColumns "x") = .create .stream := by
  refine ⟨by decide +kernel, by decide +kernel, sameOutside_twoColumns ")" "x", ?_⟩
  decide +kernel

end StatementKind
end TopicPlan.Sql
