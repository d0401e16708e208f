import TopicPlan.Sql.Lexer
import TopicPlan.Sql.Grammar

/-!
From a text to its statements. The first statement that cannot be read makes the whole text
unreadable.
-/

namespace TopicPlan.Sql

inductive ScriptError where
  | unreadable (error : LexError)
  /-- A statement, given by its text, with the fault in it. -/
  | malformed (fault : GrammarFault) (statement : String)
deriving DecidableEq, Repr

def GrammarFault.message (statement : String) : GrammarFault → String
  | .unexpected expectation (some token) =>
    s!"{expectation.message}, found '{token.text}': {statement}"
  | .unexpected expectation none => s!"{expectation.message}, found end of statement: {statement}"
  | .decimalInvalid precision scale => s!"Invalid DECIMAL({precision}, {scale}): {statement}"
  | .columnRepeated name => s!"Duplicate column names: \x60{name}\x60"
  | .keyInTable name =>
    s!"Column \x60{name}\x60 is a 'KEY' column: please use 'PRIMARY KEY' for tables."
  | .primaryKeyInStream name =>
    s!"Column \x60{name}\x60 is a 'PRIMARY KEY' column: please use 'KEY' for streams."
  | .property error => error.message
  | .numeralTooLong digits => Text.tooLongMessage digits

def ScriptError.message : ScriptError → String
  | .unreadable error => s!"Failed to tokenize statement: {error.message}"
  | .malformed fault statement => fault.message statement

/-- The characters of a text from the first to the last of some lexemes. -/
def sourceText (text : List Char) (lexemes : List Lexeme) : String :=
  match lexemes.head?, lexemes.getLast? with
  | some first, some last => String.ofList ((text.take last.stop).drop first.start)
  | _, _ => ""

def parseStatement (text : List Char) (lexemes : List Lexeme) :
    Except ScriptError ParsedStatement :=
  let source := sourceText text lexemes
  match statement (reducedTokens lexemes) with
  | .ok statement? => .ok ⟨source, statement?⟩
  | .error fault => .error (.malformed fault source)

def parse (sql : String) : Except ScriptError (List ParsedStatement) :=
  match lex sql.toList with
  | .error error => .error (.unreadable error)
  | .ok lexemes => (statementsOf lexemes).mapM (parseStatement sql.toList)

end TopicPlan.Sql
