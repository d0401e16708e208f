import TopicPlan.Text.Utf8
import TopicPlan.Yaml.Scalar

/-!
The tokens of a YAML text. Whether a token is a key shows only at the colon after it, so a token
that may be one is remembered as a candidate until then. A candidate has to be on the colon's line,
not too far before it; where indentation demands a key, a missing colon is an error.
-/

namespace TopicPlan.Yaml

/-- A token that is a key if a colon follows. -/
structure Candidate where
  /-- The number of tokens before it. -/
  place : Nat
  required : Bool
  line : Nat
  index : Nat
  column : Nat

/-- The farthest that a candidate may be before its colon. -/
def keyReach : Nat := 1024

/-- A text that is read up to a place. Tokens are in reverse order. Open flow collections each have
a place for a candidate, and so has the block around them. -/
structure Lexing where
  cursor : Cursor
  tokens : List Token
  count : Nat
  /-- The indentation of the open block collections, the innermost first. -/
  indents : List Nat
  candidates : List (Option Candidate)
  keyAllowed : Bool

namespace Lexing

def start (text : List Char) : Lexing := ⟨.ofText text, [], 0, [], [none], true⟩

abbrev Result := Except Fault Lexing

def inFlow (s : Lexing) : Bool := s.candidates.length > 1

/-- The indentation of the innermost open block collection, or one less than none at all. -/
def indent (s : Lexing) : Int :=
  match s.indents with
  | indent :: _ => indent
  | [] => -1

def push (token : Token) (s : Lexing) : Lexing :=
  { s with tokens := token :: s.tokens, count := s.count + 1 }

/-- Puts tokens before the token of a place; they are given in reverse order. -/
def insertAt (place : Nat) (tokens : List Token) (s : Lexing) : Lexing :=
  let after := s.count - place
  { s with
    tokens := s.tokens.take after ++ tokens ++ s.tokens.drop after
    count := s.count + tokens.length }

def skip (n : Nat) (s : Lexing) : Lexing := { s with cursor := s.cursor.skip n }

def allowKey (allowed : Bool) (s : Lexing) : Lexing := { s with keyAllowed := allowed }

/-- Forgets the candidate of the innermost collection, unless it has to be a key. -/
def dropCandidate (s : Lexing) : Result :=
  match s.candidates with
  | some candidate :: outer =>
    if candidate.required then .error .malformed else .ok { s with candidates := none :: outer }
  | _ => .ok s

/-- Whether a candidate's colon cannot come any more. -/
def isStale (s : Lexing) (candidate : Candidate) : Bool :=
  candidate.line != s.cursor.line || s.cursor.index - candidate.index > keyReach

def dropStale (s : Lexing) : Result :=
  if s.candidates.any fun c? => c?.any fun c => s.isStale c && c.required then .error .malformed
  else .ok { s with candidates := s.candidates.map fun c? => c?.filter fun c => !s.isStale c }

/-- The tokens that stay where they are, in order. A candidate holds back its token and all tokens
after it, for a key may still come before it. -/
def settled (s : Lexing) : List Token :=
  let held := s.candidates.filterMap fun c? => c?.filter fun c => !s.isStale c
  s.tokens.reverse.take ((held.map (·.place)).foldl min s.count)

def saveCandidate (s : Lexing) : Result := do
  let required := !s.inFlow && s.indent == s.cursor.column
  if !s.keyAllowed then return s
  let s ← s.dropCandidate
  let cursor := s.cursor
  let candidate : Candidate := ⟨s.count, required, cursor.line, cursor.index, cursor.column⟩
  return { s with candidates := some candidate :: s.candidates.drop 1 }

/-- Ends the block collections that are indented deeper than a column, or all of them. -/
def unwind (column : Option Nat) : List Nat → Lexing → Lexing
  | [], s => s
  | indent :: outer, s =>
    if column.all (· < indent) then unwind column outer ({ s with indents := outer }.push .blockEnd)
    else s

def unwindTo (column : Option Nat) (s : Lexing) : Lexing :=
  if s.inFlow then s else unwind column s.indents s

/-- Whether a block collection begins at a column, and the indentations with it. -/
def deepen (column : Nat) (s : Lexing) : Bool × Lexing :=
  if s.indent < column then (true, { s with indents := column :: s.indents }) else (false, s)

def openBlock (token : Token) (s : Lexing) : Result :=
  if s.inFlow then .ok s
  else if !s.keyAllowed then .error .malformed
  else
    let (deeper, s) := s.deepen s.cursor.column
    .ok (if deeper then s.push token else s)

def mark (token : Token) (s : Lexing) : Lexing := (s.push token).skip 1

/-- The cursor at the next token. A line break outside flow collections allows a key after it. -/
def toNextToken : Nat → Lexing → Lexing
  | 0, s => s
  | bound + 1, s =>
    let cursor := s.cursor.skipComment
    match cursor.rest with
    | c :: _ =>
      if isBreak c then
        toNextToken bound { s with cursor := cursor.step, keyAllowed := s.keyAllowed || !s.inFlow }
      else { s with cursor }
    | [] => { s with cursor }

/-- A line that begins or ends a document. -/
def separator (token : Token) (s : Lexing) : Result := do
  let s ← (s.unwindTo none).dropCandidate
  return ((s.allowKey false).push token).skip 3

def isNameChar (c : Char) : Bool := c.isAlphanum || c == '-' || c == '_'

def directiveNumber (cursor : Cursor) : Except Fault (Nat × Cursor) :=
  let digits := cursor.takeWhile Char.isDigit
  match Text.readNat digits with
  | .ok n => .ok (n, cursor.skip digits.length)
  | .error .malformed => .error .malformed
  | .error (.tooLong count) => .error (.numeralTooLong count)

/-- The major number of a version, which is followed by a minor one. -/
def versionNumber (cursor : Cursor) : Except Fault (Nat × Cursor) := do
  let (major, cursor) ← directiveNumber cursor
  if cursor.rest.head? != some '.' then throw .malformed
  let (_, cursor) ← directiveNumber cursor.step
  if !endsWord cursor.rest then throw .malformed
  return (major, cursor)

def isTagChar (c : Char) : Bool :=
  c.isAlphanum || "-;/?:@&=+$,_.!~*'()[]%".toList.contains c

/-- The bytes that escapes at the cursor spell, each with two hexadecimal digits. -/
def escapedBytes : Nat → List Char → Except Fault (List UInt8)
  | 0, _ => .ok []
  | bound + 1, s =>
    match s with
    | '%' :: a :: b :: rest =>
      match Text.hexValue? a, Text.hexValue? b with
      | some high, some low => do
        return UInt8.ofNat (16 * high + low) :: (← escapedBytes bound rest)
      | _, _ => .error .malformed
    | '%' :: _ => .error .malformed
    | _ => .ok []

/-- The name of a tag at the cursor. Escapes in it encode characters. -/
def tagName : Nat → Cursor → Except Fault (List Char × Cursor)
  | 0, cursor => .ok ([], cursor)
  | bound + 1, cursor =>
    match cursor.rest with
    | [] => .ok ([], cursor)
    | c :: _ =>
      if c == '%' then do
        let bytes ← escapedBytes (cursor.rest.length + 1) cursor.rest
        match Text.decodeUtf8 bytes with
        | .error _ => throw .malformed
        | .ok chars =>
          let (more, cursor) ← tagName bound (cursor.skip (3 * bytes.length))
          return (chars ++ more, cursor)
      else if isTagChar c then do
        let (more, cursor) ← tagName bound cursor.step
        return (c :: more, cursor)
      else .ok ([], cursor)

def fullTagName (cursor : Cursor) : Except Fault (List Char × Cursor) :=
  if cursor.rest.head?.any isTagChar then tagName (cursor.rest.length + 1) cursor
  else .error .malformed

def tagHandle (cursor : Cursor) : Except Fault (List Char × Cursor) :=
  match cursor.rest with
  | '!' :: ' ' :: _ => .ok (['!'], cursor.step)
  | '!' :: _ =>
    let name := cursor.step.takeWhile isNameChar
    let cursor := cursor.step.skip name.length
    if cursor.rest.head? == some '!' then .ok ('!' :: name ++ ['!'], cursor.step)
    else .error .malformed
  | _ => .error .malformed

def handleMeaning (cursor : Cursor) : Except Fault (List Char × List Char × Cursor) := do
  let (handle, cursor) ← tagHandle (cursor.skipWhile (· == ' '))
  if cursor.rest.head? != some ' ' then throw .malformed
  let (start, cursor) ← fullTagName (cursor.skipWhile (· == ' '))
  if !endsWord cursor.rest then throw .malformed
  return (handle, start, cursor)

/-- The rest of a line with nothing but a comment, and the break that ends it. -/
def restOfLine (cursor : Cursor) : Except Fault Cursor :=
  let cursor := cursor.skipComment
  if startsWithBreak cursor.rest then .ok cursor.step else .error .malformed

/-- A directive: the version, the meaning of a handle, or one that is not looked at. Its line ends
with it, so that no key is allowed on the next one. -/
def directive (s : Lexing) : Result := do
  let s ← (s.unwindTo none).dropCandidate
  let s := (s.allowKey false).skip 1
  let name := s.cursor.takeWhile isNameChar
  let cursor := s.cursor.skip name.length
  if name.isEmpty || !endsWord cursor.rest then throw .malformed
  if name == "YAML".toList then
    let (major, cursor) ← versionNumber (cursor.skipWhile (· == ' '))
    return { s with cursor := ← restOfLine cursor }.push (.version major)
  else if name == "TAG".toList then
    let (handle, start, cursor) ← handleMeaning cursor
    return { s with cursor := ← restOfLine cursor }.push
      (.tagHandle (String.ofList handle) (String.ofList start))
  else
    let cursor := cursor.skipWhile fun c => !isBreak c
    return { s with cursor := ← restOfLine cursor }.push .directive

def flowStart (token : Token) (s : Lexing) : Result := do
  let s ← s.saveCandidate
  return ({ s with candidates := none :: s.candidates, keyAllowed := true }).mark token

def flowEnd (token : Token) (s : Lexing) : Result := do
  if !s.inFlow then throw .malformed
  let s ← s.dropCandidate
  return ({ s with candidates := s.candidates.drop 1, keyAllowed := false }).mark token

def flowEntry (s : Lexing) : Result := do
  let s ← (s.allowKey true).dropCandidate
  return s.mark .flowEntry

def blockEntry (s : Lexing) : Result := do
  let s ← s.openBlock .blockSequenceStart
  let s ← (s.allowKey true).dropCandidate
  return s.mark .blockEntry

def explicitKey (s : Lexing) : Result := do
  let s ← s.openBlock .blockMappingStart
  let s ← (s.allowKey !s.inFlow).dropCandidate
  return s.mark .key

/-- A colon. With a candidate before it that is a key; otherwise the key is empty or was marked. -/
def colon (s : Lexing) : Result := do
  match s.candidates with
  | some candidate :: outer =>
    let s := { s with candidates := none :: outer, keyAllowed := false }
    let (deeper, s) : Bool × Lexing := if s.inFlow then (false, s) else s.deepen candidate.column
    let tokens := if deeper then [.key, .blockMappingStart] else [.key]
    return (s.insertAt candidate.place tokens).mark .value
  | _ =>
    let s ← s.openBlock .blockMappingStart
    let s ← (s.allowKey !s.inFlow).dropCandidate
    return s.mark .value

def named (token : String → Token) (s : Lexing) : Result := do
  let s ← s.saveCandidate
  let cursor := s.cursor.step
  let name := cursor.takeWhile isNameChar
  let after := cursor.skip name.length
  let closes := startsWithGap after.rest ||
    after.rest.head?.any ['?', ':', ',', ']', '\x7d', '%', '@', '\x60'].contains
  if name.isEmpty || !closes then throw .malformed
  return ({ s with cursor := after, keyAllowed := false }).push (token (String.ofList name))

/-- A tag as it is written: its handle, unless the name is a full one, and its name. A second mark
before the next blank belongs to a handle. -/
def writtenTag (start : Cursor) : Except Fault (Option (List Char) × List Char × Cursor) := do
  let cursor := start.step
  match cursor.rest with
  | '<' :: _ =>
    let (name, after) ← fullTagName cursor.step
    if after.rest.head? != some '>' then throw .malformed
    return (none, name, after.step)
  | rest =>
    if startsWithGap rest then return (none, ['!'], cursor)
    let hasHandle := (cursor.takeWhile fun c => c != ' ' && !isBreak c).contains '!'
    let (handle, cursor) ← if hasHandle then tagHandle start else pure (['!'], cursor)
    let (name, after) ← fullTagName cursor
    return (some handle, name, after)

def tag (s : Lexing) : Result := do
  let s ← s.saveCandidate
  let (handle, name, after) ← writtenTag s.cursor
  if !endsWord after.rest then throw .malformed
  return ({ s with cursor := after, keyAllowed := false }).push
    (.tag (handle.map String.ofList) (String.ofList name))

def block (folded : Bool) (s : Lexing) : Result := do
  let s ← (s.allowKey true).dropCandidate
  let (text, cursor) ← blockScalar folded s.indent s.cursor.step
  return { s with cursor }.push (.scalar false (String.ofList text))

def quoted (quote : Char) (s : Lexing) : Result := do
  let s ← s.saveCandidate
  let (text, cursor) ← quotedScalar quote (s.cursor.rest.length + 1) s.cursor.step
  return ({ s with cursor, keyAllowed := false }).push (.scalar false (String.ofList text))

def plain (s : Lexing) : Result := do
  let s ← s.saveCandidate
  let (text, cursor, broken) :=
    plainScalar s.inFlow (s.indent + 1) (s.cursor.rest.length + 1) s.cursor
  return ({ s with cursor, keyAllowed := broken }).push (.scalar true (String.ofList text))

/-- The marks that no plain scalar begins with. -/
def indicators : List Char :=
  ['-', '?', ':', ',', '[', ']', '\x7b', '\x7d', '#', '&', '*', '!', '|', '>', '\'', '"', '%', '@',
    '\x60']

def startsPlain (inFlow : Bool) (c : Char) (rest : List Char) : Bool :=
  (!isGap c && !indicators.contains c) ||
    (!startsWithGap rest && (c == '-' || (!inFlow && (c == '?' || c == ':'))))

def token (c : Char) (rest : List Char) (s : Lexing) : Result :=
  let atLineStart := s.cursor.column == 0
  let gapFollows := startsWithGap rest
  if c == '%' && atLineStart then s.directive
  else if atLineStart && startsWithSeparator (c :: rest) then
    s.separator (if c == '-' then .documentStart else .documentEnd)
  else if c == '[' then s.flowStart .flowSequenceStart
  else if c == '\x7b' then s.flowStart .flowMappingStart
  else if c == ']' then s.flowEnd .flowSequenceEnd
  else if c == '\x7d' then s.flowEnd .flowMappingEnd
  else if c == ',' then s.flowEntry
  else if c == '-' && gapFollows then s.blockEntry
  else if c == '?' && (s.inFlow || gapFollows) then s.explicitKey
  else if c == ':' && (s.inFlow || gapFollows) then s.colon
  else if c == '*' then s.named .alias
  else if c == '&' then s.named .anchor
  else if c == '!' then s.tag
  else if c == '|' && !s.inFlow then s.block false
  else if c == '>' && !s.inFlow then s.block true
  else if c == '\'' || c == '"' then s.quoted c
  else if startsPlain s.inFlow c rest then s.plain
  else .error .malformed

def fetch (s : Lexing) : Except Fault (Bool × Lexing) := do
  let s ← (s.toNextToken (s.cursor.rest.length + 1)).dropStale
  match s.cursor.rest with
  | [] => return (false, ← (s.unwindTo none).dropCandidate)
  | c :: rest => return (true, ← (s.unwindTo (some s.cursor.column)).token c rest)

/-- Tokens in order. If there is a fault in the text, they are those that are settled before it. -/
structure Outcome where
  tokens : List Token
  fault : Option Fault
deriving Repr

/-- Reads tokens to the end of the text, or to a fault. Each takes a character at least. -/
def run : Nat → Lexing → Outcome
  | 0, s => ⟨s.settled, some .malformed⟩
  | bound + 1, s =>
    match s.fetch with
    | .error fault => ⟨s.settled, some fault⟩
    | .ok (true, s) => run bound s
    | .ok (false, s) => ⟨s.tokens.reverse, none⟩

end Lexing

def isAllowed (c : Char) : Bool :=
  c == '\t' || c == '\n' || c == '\r' || (' ' ≤ c && c ≤ '~') || c == '\u0085' ||
    ('\u00a0' ≤ c && c.toNat ≤ 0xFFFD) || 0x10000 ≤ c.toNat

/-- The tokens of a text. A byte order mark at its beginning is left out. -/
def tokens (text : List Char) : Lexing.Outcome :=
  if !text.all isAllowed then ⟨[], some .malformed⟩
  else
    let text := match text with
      | '\uFEFF' :: rest => rest
      | text => text
    (Lexing.start text).run (text.length + 1)

end TopicPlan.Yaml
