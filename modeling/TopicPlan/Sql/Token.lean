import TopicPlan.Text.Blank
import TopicPlan.Text.Case

/-!
Tokens of a statement. Keywords are not reserved: whether a word is a keyword is decided where the
grammar asks for one, by its upper case.
-/

namespace TopicPlan.Sql

/-- What a token's text is: the content of a string, a numeral, the content of a quoted name, a
semicolon between statements, or a word or mark as it stands. -/
inductive TokenKind where
  | string
  | number
  | quoted
  | separator
  | plain
deriving DecidableEq, Repr

structure Token where
  kind : TokenKind
  text : String
deriving DecidableEq, Repr

def isNameStart (c : Char) : Bool := c.isAlpha || c == '_'

def isNameChar (c : Char) : Bool := c.isAlphanum || c == '_' || c == '@' || c == '$'

/-- The text of a name that needs no quotes; one line feed may follow it. -/
def isName (s : List Char) : Bool :=
  match s with
  | [] => false
  | c :: rest =>
    isNameStart c && (rest.all isNameChar ||
      (rest.getLast? == some '\n' && rest.dropLast.all isNameChar))

namespace Token

def upper (t : Token) : String := Text.upper t.text

/-- Strings and numerals are values and never name anything. -/
def isLiteral (t : Token) : Bool := t.kind == .string || t.kind == .number

def isQuoted (t : Token) : Bool := t.kind == .quoted

/-- A token that may name something: a quoted name, or the text of an unquoted one. -/
def isWord (t : Token) : Bool := !t.isLiteral && (t.isQuoted || isName t.text.toList)

/-- The token's text where it can be a keyword, in upper case. -/
def keyword (t : Token) : String := if t.isLiteral || t.isQuoted then "" else t.upper

/-- The single words of a token. Only words and marks are taken apart, and only where blanks part
them. -/
def split (t : Token) : List Token :=
  if t.isLiteral || t.isQuoted then [t]
  else match Text.words t.text.toList with
    | [] => [t]
    | [_] => [t]
    | words => words.map fun word => ⟨.plain, String.ofList word⟩

end Token

/-- A token with its place in the text: the characters from `start` up to `stop`. -/
structure Lexeme where
  token : Token
  start : Nat
  stop : Nat
deriving DecidableEq, Repr

/-- The runs of items between separators, the empty ones left out. -/
def splitRuns (isSeparator : α → Bool) (items : List α) : List (List α) :=
  let rec go : List α → List (List α)
    | [] => [[]]
    | item :: rest =>
      if isSeparator item then [] :: go rest
      else match go rest with
        | [] => [[item]]
        | run :: runs => (item :: run) :: runs
  (go items).filter fun run => !run.isEmpty

end TopicPlan.Sql
