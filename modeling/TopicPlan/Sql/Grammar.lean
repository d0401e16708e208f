import TopicPlan.Sql.Classification

/-!
The grammar of type registrations and source declarations. Each production reads tokens from the
front and answers with what it read and the tokens after it. No word is reserved: a word is a
keyword only where the grammar asks for that keyword.
-/

namespace TopicPlan.Sql

inductive Expectation where
  | keywords (words : List String)
  | symbol (spelling : String)
  | identifier
  | integer
  | stringLiteral
  | literal
  | type
  | readableNumber
  | newProperty (name : String)
  | endOfStatement
deriving DecidableEq, Repr

def Expectation.message : Expectation → String
  | .keywords words => "Expected " ++ " ".intercalate words
  | .symbol spelling => s!"Expected '{spelling}'"
  | .identifier => "Expected identifier"
  | .integer => "Expected integer"
  | .stringLiteral => "Expected string literal"
  | .literal => "Expected literal"
  | .type => "Expected type"
  | .readableNumber => "Invalid numeric literal"
  | .newProperty name => s!"Duplicate property {name}"
  | .endOfStatement => "Unexpected input"

inductive GrammarFault where
  | unexpected (expectation : Expectation) (found : Option Token)
  | decimalInvalid (precision scale : Nat)
  | columnRepeated (name : String)
  | keyInTable (name : String)
  | primaryKeyInStream (name : String)
  | property (error : PropertyError)
  | numeralTooLong (digits : Nat)
deriving DecidableEq, Repr

abbrev Parsing := Except GrammarFault

/-- Fails at the first of the remaining tokens. -/
def unexpected (expectation : Expectation) (tokens : List Token) : Parsing α :=
  .error (.unexpected expectation tokens.head?)

/-- A token is a keyword when it is an unquoted name that reads as the word in upper case. -/
def Token.isKeyword (word : String) (token : Token) : Bool :=
  token.isWord && !token.isQuoted && token.upper == word

def keywords? (words : List String) (tokens : List Token) : Option (List Token) :=
  afterWords? Token.isKeyword words tokens

/-- The tokens after keywords that may be left out, and whether they were there. -/
def optionalKeywords (words : List String) (tokens : List Token) : Bool × List Token :=
  match keywords? words tokens with
  | some rest => (true, rest)
  | none => (false, tokens)

def keywords (words : List String) (tokens : List Token) : Parsing (List Token) :=
  match keywords? words tokens with
  | some rest => .ok rest
  | none => unexpected (.keywords words) tokens

/-- The tokens after a symbol, if it comes first. Any token but a literal may spell it. -/
def symbol? (symbol : String) : List Token → Option (List Token)
  | token :: rest => if !token.isLiteral && token.text == symbol then some rest else none
  | [] => none

def symbol (symbol : String) (tokens : List Token) : Parsing (List Token) :=
  match symbol? symbol tokens with
  | some rest => .ok rest
  | none => unexpected (.symbol symbol) tokens

/-- The tokens after a closing angle. Of two joined angles the second one stays. -/
def closingAngle (tokens : List Token) : Parsing (List Token) :=
  match symbol? ">>" tokens with
  | some rest => .ok (⟨.plain, ">"⟩ :: rest)
  | none => symbol ">" tokens

/-- A name: quoted as it stands, unquoted in upper case. -/
def identifier : List Token → Parsing (String × List Token)
  | token :: rest =>
    if token.isWord then .ok (if token.isQuoted then token.text else token.upper, rest)
    else unexpected .identifier (token :: rest)
  | [] => unexpected .identifier []

def integer : List Token → Parsing (Nat × List Token)
  | token :: rest =>
    if token.kind == .number then
      match Text.readNat token.text.toList with
      | .ok n => .ok (n, rest)
      | .error (.tooLong digits) => .error (.numeralTooLong digits)
      | .error .malformed => unexpected .integer (token :: rest)
    else unexpected .integer (token :: rest)
  | [] => unexpected .integer []

def stringLiteral : List Token → Parsing (String × List Token)
  | token :: rest =>
    if token.kind == .string then .ok (token.text, rest)
    else unexpected .stringLiteral (token :: rest)
  | [] => unexpected .stringLiteral []

/-- One item or more with commas between them. There are at most `bound` commas. -/
def commaList (item : List Token → Parsing (α × List Token)) :
    Nat → List Token → Parsing (List α × List Token)
  | 0, tokens => do
    let (first, tokens) ← item tokens
    return ([first], tokens)
  | bound + 1, tokens => do
    let (first, tokens) ← item tokens
    match symbol? "," tokens with
    | none => return ([first], tokens)
    | some tokens =>
      let (more, tokens) ← commaList item bound tokens
      return (first :: more, tokens)

def commaSeparated (item : List Token → Parsing (α × List Token)) (tokens : List Token) :
    Parsing (List α × List Token) :=
  commaList item tokens.length tokens

def named (item : List Token → Parsing (α × List Token)) (tokens : List Token) :
    Parsing ((String × α) × List Token) := do
  let (name, tokens) ← identifier tokens
  let (value, tokens) ← item tokens
  return ((name, value), tokens)

/-- The parameters of a decimal type. The scale is at most the precision, which is at least one. -/
def decimalParameters (tokens : List Token) : Parsing (DataType × List Token) := do
  let tokens ← symbol "(" tokens
  let (precision, tokens) ← integer tokens
  let tokens ← symbol "," tokens
  let (scale, tokens) ← integer tokens
  let tokens ← symbol ")" tokens
  if precision < 1 ∨ precision < scale then throw (.decimalInvalid precision scale)
  return (.decimal precision scale, tokens)

/-- A type. Types nest at most `depth` deep; deeper than there are tokens they cannot. -/
def typeAt : Nat → List Token → Parsing (DataType × List Token)
  | 0, tokens => unexpected .type tokens
  | _ + 1, [] => unexpected .type []
  | depth + 1, token :: tokens =>
    if !token.isWord then unexpected .type (token :: tokens)
    else if token.isQuoted then .ok (.reference token.text, tokens)
    else
      let name := token.upper
      if name = "ARRAY" then do
        let tokens ← symbol "<" tokens
        let (item, tokens) ← typeAt depth tokens
        let tokens ← closingAngle tokens
        return (.array item, tokens)
      else if name = "MAP" then do
        let tokens ← symbol "<" tokens
        let (key, tokens) ← typeAt depth tokens
        let tokens ← symbol "," tokens
        let (value, tokens) ← typeAt depth tokens
        let tokens ← closingAngle tokens
        return (.map key value, tokens)
      else if name = "STRUCT" then
        match symbol? "<>" tokens with
        | some tokens => .ok (.struct [], tokens)
        | none => do
          let tokens ← symbol "<" tokens
          match symbol? ">" tokens with
          | some tokens => return (.struct [], tokens)
          | none =>
            let (fields, tokens) ← commaSeparated (named (typeAt depth)) tokens
            let tokens ← closingAngle tokens
            return (.struct fields, tokens)
      else if name = "DECIMAL" then decimalParameters tokens
      else match BaseType.ofKeyword? name with
        | none => .ok (.reference name, tokens)
        | some base =>
          match name, symbol? "(" tokens with
          | "VARCHAR", some tokens => do
            let (_, tokens) ← integer tokens
            let tokens ← symbol ")" tokens
            return (.base base, tokens)
          | _, _ => .ok (.base base, tokens)

def dataType (tokens : List Token) : Parsing (DataType × List Token) :=
  typeAt (tokens.length + 1) tokens

def columnConstraint (tokens : List Token) : Parsing (Constraint × List Token) :=
  match keywords? ["PRIMARY", "KEY"] tokens with
  | some tokens => .ok (.primaryKey, tokens)
  | none =>
    match keywords? ["KEY"] tokens with
    | some tokens => .ok (.key, tokens)
    | none =>
      match keywords? ["HEADERS"] tokens with
      | some tokens => .ok (.headers, tokens)
      | none =>
        match keywords? ["HEADER"] tokens with
        | some tokens => do
          let tokens ← symbol "(" tokens
          let (key, tokens) ← stringLiteral tokens
          let tokens ← symbol ")" tokens
          return (.header key, tokens)
        | none => .ok (.none, tokens)

def column (tokens : List Token) : Parsing (Column × List Token) := do
  let ((name, type), tokens) ← named dataType tokens
  let (constraint, tokens) ← columnConstraint tokens
  return (⟨name, type, constraint⟩, tokens)

/-- The columns of a source between parentheses, which may be left out. -/
def columns (tokens : List Token) : Parsing (List Column × List Token) :=
  match symbol? "(" tokens with
  | none => .ok ([], tokens)
  | some tokens => do
    let (columns, tokens) ← commaSeparated column tokens
    let tokens ← symbol ")" tokens
    return (columns, tokens)

/-- The number that a numeral denotes: an integer unless it has a point or an exponent. -/
def numberOf? (s : List Char) : Option Literal :=
  if s.any fun c => c == '.' || c == 'e' || c == 'E' then
    (Decimal.read? s).map fun d => .real (Binary64.ofDecimal false d)
  else (Text.readInt s).toOption.map .int

def Literal.neg : Literal → Literal
  | .int value => .int (-value)
  | .real value => .real value.neg
  | value => value

/-- A property value: a string, a number with a sign that may be left out, or a truth value. -/
def literal (tokens : List Token) : Parsing (Literal × List Token) :=
  match tokens with
  | [] => unexpected .literal []
  | first :: rest =>
    if first.kind == .string then .ok (.text first.text, rest)
    else
      let (negative, tokens) : Bool × List Token := match symbol? "-" tokens with
        | some tokens => (true, tokens)
        | none => (false, tokens)
      match tokens with
      | [] => unexpected .literal []
      | token :: rest =>
        if token.kind == .number then
          match numberOf? token.text.toList with
          | some value => .ok (if negative then value.neg else value, rest)
          | none => unexpected .readableNumber tokens
        else if !negative && token.isKeyword "TRUE" then .ok (.bool true, rest)
        else if !negative && token.isKeyword "FALSE" then .ok (.bool false, rest)
        else unexpected .literal tokens

/-- A property: a name that none of the properties before it has, and its value. -/
def propertyEntry (before : List (String × Literal)) (tokens : List Token) :
    Parsing ((String × Literal) × List Token) := do
  let (name, tokens) ← identifier tokens
  let name := Text.upper name
  let tokens ← symbol "=" tokens
  if before.any fun entry => entry.1 = name then unexpected (.newProperty name) tokens
  else do
    let (value, tokens) ← literal tokens
    return ((name, value), tokens)

/-- The properties up to the closing parenthesis, added to the ones before; no name comes twice.
There are at most `bound` commas. -/
def propertyList (before : List (String × Literal)) :
    Nat → List Token → Parsing (List (String × Literal) × List Token)
  | 0, tokens => do
    let (entry, tokens) ← propertyEntry before tokens
    return (before ++ [entry], ← symbol ")" tokens)
  | bound + 1, tokens => do
    let (entry, tokens) ← propertyEntry before tokens
    match symbol? "," tokens with
    | some tokens => propertyList (before ++ [entry]) bound tokens
    | none => return (before ++ [entry], ← symbol ")" tokens)

def withClause (tokens : List Token) : Parsing (List (String × Literal) × List Token) :=
  match keywords? ["WITH"] tokens with
  | none => .ok ([], tokens)
  | some tokens => do
    let tokens ← symbol "(" tokens
    propertyList [] tokens.length tokens

def endOfStatement (tokens : List Token) : Parsing Unit :=
  if tokens.isEmpty then .ok () else unexpected .endOfStatement tokens

/-- Column names are distinct, and keys are declared the way the kind of source asks for. The first
column at fault is reported. -/
def checkColumns (kind : SourceKind) (seen : List String) : List Column → Parsing Unit
  | [] => .ok ()
  | column :: rest =>
    if column.name ∈ seen then .error (.columnRepeated column.name)
    else match kind, column.constraint with
      | .table, .key => .error (.keyInTable column.name)
      | .stream, .primaryKey => .error (.primaryKeyInStream column.name)
      | _, _ => checkColumns kind (column.name :: seen) rest

def typeRegistration (tokens : List Token) : Parsing TypeRegistration := do
  let tokens ← keywords ["REGISTER", "TYPE"] tokens
  let (ifNotExists, tokens) := optionalKeywords ["IF", "NOT", "EXISTS"] tokens
  let (name, tokens) ← identifier tokens
  let tokens ← keywords ["AS"] tokens
  let (type, tokens) ← dataType tokens
  endOfStatement tokens
  return { name, type, ifNotExists }

def SourceKind.keyword : SourceKind → String
  | .stream => "STREAM"
  | .table => "TABLE"

def source (kind : SourceKind) (tokens : List Token) : Parsing Source := do
  let tokens ← keywords ["CREATE"] tokens
  let (orReplace, tokens) := optionalKeywords ["OR", "REPLACE"] tokens
  let (isSource, tokens) := optionalKeywords ["SOURCE"] tokens
  let tokens ← keywords [kind.keyword] tokens
  let (ifNotExists, tokens) := optionalKeywords ["IF", "NOT", "EXISTS"] tokens
  let (name, tokens) ← identifier tokens
  let (columns, tokens) ← columns tokens
  let (literals, tokens) ← withClause tokens
  endOfStatement tokens
  checkColumns kind [] columns
  let properties ← (Properties.ofLiterals literals).mapError GrammarFault.property
  return { kind, name, columns, properties, orReplace, ifNotExists, isSource }

def statementOfKind (kind : StatementKind) (tokens : List Token) : Parsing (Option Statement) :=
  match kind with
  | .register => return some (.register (← typeRegistration tokens))
  | .create kind => return some (.create (← source kind tokens))
  | .other => return none

def statement (tokens : List Token) : Parsing (Option Statement) :=
  statementOfKind (.ofTokens tokens) tokens

end TopicPlan.Sql
