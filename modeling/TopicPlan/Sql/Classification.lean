import TopicPlan.Sql.Statement
import TopicPlan.Sql.Token

/-!
The kind of a statement, told from its leading words without reading the rest. A declaration with a
query after it is a statement of another kind.
-/

namespace TopicPlan.Sql

/-- The tokens after the given words, if they come first. `isWord` tells a token by a word. -/
def afterWords? (isWord : String → Token → Bool) : List String → List Token → Option (List Token)
  | [], tokens => some tokens
  | word :: words, token :: tokens =>
    if isWord word token then afterWords? isWord words tokens else none
  | _ :: _, [] => none

theorem length_of_afterWords? {isWord : String → Token → Bool} {words : List String}
    {tokens rest : List Token} (h : afterWords? isWord words tokens = some rest) :
    rest.length + words.length = tokens.length := by
  induction words generalizing tokens with
  | nil => simp_all [afterWords?]
  | cons word words ih =>
    cases tokens with
    | nil => simp [afterWords?] at h
    | cons token tokens =>
      simp only [afterWords?] at h
      split at h
      · have := ih h
        simp only [List.length_cons]
        omega
      · cases h

namespace StatementKind

/-- The tokens after leading words, told by their upper case alone. -/
def afterKeywords? (words : List String) (tokens : List Token) : Option (List Token) :=
  afterWords? (fun word token => token.keyword == word) words tokens

/-- Whether the word `AS` stands outside all parentheses, `depth` of which are open. A parenthesis
counts whatever token holds it. -/
def hasQuery : Int → List Token → Bool
  | _, [] => false
  | depth, token :: tokens =>
    if token.text == "(" then hasQuery (depth + 1) tokens
    else if token.text == ")" then hasQuery (depth - 1) tokens
    else (depth == 0 && token.keyword == "AS") || hasQuery depth tokens

def ofTokens (tokens : List Token) : StatementKind :=
  if (afterKeywords? ["REGISTER", "TYPE"] tokens).isSome then .register
  else match afterKeywords? ["CREATE"] tokens with
    | none => .other
    | some tokens =>
      let tokens := (afterKeywords? ["OR", "REPLACE"] tokens).getD tokens
      let tokens := (afterKeywords? ["SOURCE"] tokens).getD tokens
      match afterKeywords? ["STREAM"] tokens, afterKeywords? ["TABLE"] tokens with
      | some rest, _ => if hasQuery 0 rest then .other else .create .stream
      | none, some rest => if hasQuery 0 rest then .other else .create .table
      | none, none => .other

end StatementKind

end TopicPlan.Sql
