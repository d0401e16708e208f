import TopicPlan.Sql.Token
import TopicPlan.Text.Codes

/-!
Taking a text apart into tokens. Phrases of several words and marks of several characters are one
token each, the longest one that fits; comments and blanks between tokens are dropped; what follows
a command word at the start of a statement is one string. Only an unclosed string, quoted name or
comment makes a text unreadable.
-/

namespace TopicPlan.Sql

/-- The characters that are tokens of their own and end a word. -/
def isSymbol (c : Char) : Bool := "()[]\x7b\x7d&^:,.-=><%!|+;/\\*~?@#'\x60\"".toList.contains c

/-- What may stand at the start of a token beside words, numbers and single symbols. -/
inductive Mark where
  /-- A phrase or a mark that is a token by itself. -/
  | keyword
  /-- The opening of a string. -/
  | string
  /-- The opening of a national string, which is a word however it reads. -/
  | national
  | lineComment
  /-- A comment up to its closing, with more comments of its kind inside if `nests`. -/
  | blockComment (opening closing : Char × Char) (nests : Bool)
deriving DecidableEq, Repr

/-- The phrases and marks, in upper case; a space stands for any run of blanks. -/
def marks : List (List Char × Mark) :=
  [("'", .string), ("N'", .national), ("--", .lineComment),
    ("/*", .blockComment ('/', '*') ('*', '/') true),
    ("/*+", .blockComment ('/', '*') ('*', '/') false),
    ("\x7b#", .blockComment ('\x7b', '#') ('#', '\x7d') true)].map (fun (s, m) => (s.toList, m)) ++
  ["\x7b%", "\x7b%+", "\x7b%-", "%\x7d", "+%\x7d", "-%\x7d", "\x7b\x7b+", "\x7b\x7b-", "+\x7d\x7d",
    "-\x7d\x7d", "&<", "&>", "==", "::", "?::", "||", "|>", ">=", "<=", "<>", "!=", ":=", "<=>",
    "->", "->>", "=>", "#>", "#>>", "<->", "<<->>", "&&", "??", "~~~", "~~", "~~*", "~*", "-|-",
    "CLUSTER BY", "CONNECT BY", "DISTRIBUTE BY", "FOREIGN KEY", "GROUP BY", "GROUPING SETS",
    "ORDER BY", "PARTITION BY", "PARTITIONED BY", "PRIMARY KEY", "SIMILAR TO", "SORT BY",
    "SQL SECURITY", "DOUBLE PRECISION", "CHAR VARYING", "CHARACTER VARYING",
    "USER-DEFINED"].map fun s => (s.toList, .keyword)

def spelled? : List Char → List Char → Option Nat
  | [], _ => some 0
  | ' ' :: mark, s =>
    let blanks := (s.takeWhile Text.isBlank).length
    if blanks = 0 then none else (spelled? mark (s.drop blanks)).map (· + blanks)
  | c :: mark, d :: s => if d.toUpper = c then (spelled? mark s).map (· + 1) else none
  | _ :: _, [] => none

/-- The longest mark at the front of a text, its spelling and the number of its characters. -/
def longestMark? (s : List Char) : Option (Mark × List Char × Nat) :=
  let longer (best : Option (Mark × List Char × Nat)) (entry : List Char × Mark) :=
    match spelled? entry.1 s, best with
    | none, best => best
    | some used, some (mark, spelling, most) =>
      if most < used then some (entry.2, entry.1, used) else some (mark, spelling, most)
    | some used, none => some (entry.2, entry.1, used)
  marks.foldl longer none

/-- What makes a text unreadable. A closing quote may be missing because the text ends, because it
ends in a doubled quote, or because it ends in the opening one. -/
inductive LexFault where
  | unclosed
  | endsInDoubledQuote
  | endsInOpening
  | commentUnclosed
deriving DecidableEq, Repr

/-- A quoted text and the number of its characters with the closing quote. A doubled quote stands
for itself; it cannot be the last thing of all. -/
def quotedText (quote : Char) : List Char → Except LexFault (List Char × Nat)
  | [] => .error .unclosed
  | c :: rest =>
    if c = quote then
      match rest with
      | d :: after =>
        if d = quote then
          if after.isEmpty then .error .endsInDoubledQuote
          else (quotedText quote after).map fun (text, used) => (quote :: text, used + 2)
        else .ok ([], 1)
      | [] => .ok ([], 1)
    else (quotedText quote rest).map fun (text, used) => (c :: text, used + 1)

def afterQuote (quote : Char) (s : List Char) : Except LexFault (List Char × Nat) :=
  if s.isEmpty then .error .endsInOpening else quotedText quote s

/-- The number of characters up to the end of a comment, in which `depth` comments are open. -/
def commentLength? (opening closing : Char × Char) (nests : Bool) : Nat → List Char → Option Nat
  | _, [] => none
  | depth, c :: tail =>
    match tail with
    | [] => none
    | d :: rest =>
      let depth := if (c, d) = closing then depth - 1 else depth
      if depth = 0 then some 2
      else match rest with
        | e :: inner =>
          if nests && (d, e) == opening then
            (commentLength? opening closing nests (depth + 1) inner).map (· + 3)
          else (commentLength? opening closing nests depth (d :: e :: inner)).map (· + 1)
        | [] => (commentLength? opening closing nests depth [d]).map (· + 1)
termination_by _ s => s.length

/-- The number of further characters of a numeral: digits, one point unless a parameter mark comes
before, one exponent mark, and one sign after it where a digit follows. -/
def numeralTail (afterParameter point exponent sign : Bool) : List Char → Nat
  | [] => 0
  | c :: rest =>
    if c.isDigit then numeralTail afterParameter point exponent sign rest + 1
    else if c == '.' && !point then
      if afterParameter then 0 else numeralTail afterParameter true exponent sign rest + 1
    else if (c == '-' || c == '+') && exponent && !sign then
      if rest.head?.any Char.isDigit then numeralTail afterParameter point exponent true rest + 1
      else 0
    else if (c == 'e' || c == 'E') && !exponent then
      numeralTail afterParameter point true sign rest + 1
    else 0

/-- What a token means for the ones after it. -/
inductive Role where
  /-- The parameter mark: the word after it is no keyword. -/
  | parameter
  | separator
  /-- The word that opens a block, after which a command may stand. -/
  | opensBlock
  /-- A word after which a hint may stand. -/
  | takesHint
  | command
  | other
deriving DecidableEq, Repr

/-- The words whose statement is read no further. -/
def commandWords : List String :=
  ["SHOW", "EXECUTE", "FETCH", "RENAME", "CALL", "EXPLAIN", "OPTIMIZE", "PREPARE", "VACUUM"]

def wordRole (last : Option Role) (word : List Char) : Role :=
  let upper := Text.upper (String.ofList word)
  if last = some .parameter then .other
  else if commandWords.contains upper then .command
  else if upper = "BEGIN" then .opensBlock
  else if ["SELECT", "INSERT", "UPDATE", "DELETE"].contains upper then .takesHint
  else .other

/-- A step of the lexer: the number of characters it takes, and the token they make if any. -/
structure Piece where
  used : Nat
  token? : Option (Token × Role)

namespace Piece

def skip (used : Nat) : Piece := ⟨used, none⟩

def of (kind : TokenKind) (text : List Char) (used : Nat) (role : Role) : Piece :=
  ⟨used, some (⟨kind, String.ofList text⟩, role)⟩

def single (last : Option Role) (c : Char) (rest : List Char) : Piece :=
  if c == ';' then of .separator [c] 1 .separator
  else if isSymbol c then of .plain [c] 1 (if c == '@' then .parameter else .other)
  else
    let word := c :: rest.takeWhile fun d => !Text.isBlank d && !isSymbol d
    of .plain word word.length (wordRole last word)

/-- A quoted text that opens with the first `opening` characters of `s`. -/
def quotation (kind : TokenKind) (quote : Char) (opening : Nat) (s : List Char) :
    Except LexFault Piece :=
  (afterQuote quote (s.drop opening)).map fun (text, used) =>
    of kind text (opening + used) .other

def endsPhrase (spelling after : List Char) : Bool :=
  spelling.any isSymbol || after.head?.all fun c => Text.isBlank c || isSymbol c

/-- The piece at the front of a text, `last` being the role of the token before it. -/
def next (last : Option Role) (c : Char) (rest : List Char) : Except LexFault Piece :=
  let s := c :: rest
  if Text.isBlank c then .ok (skip 1)
  else if c.isDigit then
    let used := numeralTail (last = some .parameter) false false false rest + 1
    .ok (of .number (s.take used) used .other)
  else if c == '"' || c == '\x60' then quotation .quoted c 1 s
  else
    match longestMark? s with
    | some (.string, _, used) => quotation .string '\'' used s
    | some (.national, _, used) => quotation .plain '\'' used s
    | some (.lineComment, _, used) =>
      .ok (skip (used + ((s.drop used).takeWhile fun d => d != '\n' && d != '\r').length))
    | some (.blockComment opening closing nests, spelling, used) =>
      match commentLength? opening closing nests 1 (s.drop used) with
      | none => .error .commentUnclosed
      | some length =>
        if spelling.length = 3 && last = some .takesHint then
          .ok (of .plain (s.take (used + length)) (used + length) .other)
        else .ok (skip (used + length))
    | some (.keyword, spelling, used) =>
      if endsPhrase spelling (s.drop used) then .ok (of .plain spelling used .other)
      else .ok (single last c rest)
    | none => .ok (single last c rest)

end Piece

/-- The number of characters of a command's tail: it ends before the first semicolon that follows
a piece. -/
def tailLength (last : Option Role) : List Char → Except LexFault Nat
  | [] => .ok 0
  | c :: rest => do
    let piece ← Piece.next last c rest
    let after := rest.drop (piece.used - 1)
    let used := max 1 piece.used
    if after.head? = some ';' then return used
    return used + (← tailLength ((piece.token?.map (·.2)).or last) after)
termination_by s => s.length
decreasing_by simp only [List.length_drop, List.length_cons]; omega

/-- A command stands at the start of a statement or of a block. -/
def startsCommand (last : Option Role) : Bool :=
  last == none || last == some .separator || last == some .opensBlock

def lexFrom (last : Option Role) (start : Nat) : List Char → Except LexFault (List Lexeme)
  | [] => .ok []
  | c :: rest => do
    let piece ← Piece.next last c rest
    let after := rest.drop (piece.used - 1)
    let stop := start + max 1 piece.used
    match piece.token? with
    | none => lexFrom last stop after
    | some (token, role) =>
      if role = .command && startsCommand last && after.head? ≠ some ';' then
        let length ← tailLength (some role) after
        let tail := Text.strip (after.take length)
        let lexemes ← lexFrom (some .other) (stop + length) (after.drop length)
        if tail.isEmpty then return ⟨token, start, stop⟩ :: lexemes
        let tail : Lexeme := ⟨⟨.string, String.ofList tail⟩, stop, stop + length⟩
        return ⟨token, start, stop⟩ :: tail :: lexemes
      else return ⟨token, start, stop⟩ :: (← lexFrom (some role) stop after)
termination_by s => s.length
decreasing_by all_goals simp only [List.length_drop, List.length_cons]; omega

/-- An unreadable text, shown by the characters around the place where reading stopped. -/
structure LexError where
  context : String
deriving DecidableEq, Repr

def LexError.message (e : LexError) : String := s!"Error tokenizing '{e.context}'"

/-- The fifty characters before and after the place of a fault; the last character of the text is
never shown. -/
def LexError.of (s : List Char) (fault : LexFault) : LexError :=
  let codes := Text.codes s
  let place := match fault with
    | .unclosed => codes.length
    | .endsInDoubledQuote => codes.length - 1
    | .endsInOpening | .commentUnclosed => codes.length + 1
  let stop := min (place + 50) (codes.length - 1)
  ⟨String.ofList (Text.ofCodes ((codes.take stop).drop (place - 50)))⟩

def lex (s : List Char) : Except LexError (List Lexeme) :=
  (lexFrom none 0 s).mapError (LexError.of s)

/-- The single words of the tokens of each statement in a text. -/
def reducedTokens (lexemes : List Lexeme) : List Token := lexemes.flatMap (·.token.split)

/-- The lexemes of each statement of a text, statements without any left out. -/
def statementsOf (lexemes : List Lexeme) : List (List Lexeme) :=
  splitRuns (fun lexeme => lexeme.token.kind == .separator) lexemes

end TopicPlan.Sql
