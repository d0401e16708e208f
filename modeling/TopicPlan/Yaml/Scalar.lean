import TopicPlan.Number.Power
import TopicPlan.Yaml.Token

/-!
The texts of scalars: plain, quoted, and block ones. Within a scalar that goes over several lines,
one line break becomes a space, and of several breaks the first is dropped; block scalars that are
not folded keep all of them.
-/

namespace TopicPlan.Yaml

def foldBreaks (first : Char) (more : List Char) : List Char :=
  if breakChar first != '\n' then first :: more
  else if more.isEmpty then [' '] else more

/-! Plain scalars. -/

def flowMarks : List Char := [',', '[', ']', '\x7b', '\x7d']

/-- The longest piece of a plain scalar without blanks. A colon before a gap ends it; within flow
collections their marks do, too. -/
def plainPiece (inFlow : Bool) : List Char → List Char
  | [] => []
  | c :: rest =>
    if isGap c then []
    else if c == ':' && (startsWithGap rest || (inFlow && rest.head?.any flowMarks.contains)) then
      []
    else if inFlow && (c == '?' || flowMarks.contains c) then []
    else c :: plainPiece inFlow rest

/-- What stands between two pieces of a scalar: its text, the cursor after it, and whether it holds
a line break. -/
structure Spacing where
  text : List Char
  cursor : Cursor
  broken : Bool

/-- The breaks and blanks after a first break; none before a line that separates documents. -/
def plainBreaks : Nat → Cursor → List Char → Option (List Char) × Cursor
  | 0, cursor, breaks => (some breaks, cursor)
  | bound + 1, cursor, breaks =>
    let cursor := cursor.skipWhile (· == ' ')
    match cursor.rest with
    | c :: rest =>
      if isBreak c then
        if startsWithSeparator rest then (none, cursor.step)
        else plainBreaks bound cursor.step (breaks ++ [breakChar c])
      else (some breaks, cursor)
    | [] => (some breaks, cursor)

/-- The spacing after a piece of a plain scalar; its text is empty where the scalar ends. -/
def plainSpacing (cursor : Cursor) : Spacing :=
  let blanks := cursor.takeWhile (· == ' ')
  let cursor := cursor.skipWhile (· == ' ')
  match cursor.rest with
  | c :: rest =>
    if !isBreak c then ⟨blanks, cursor, false⟩
    else if startsWithSeparator rest then ⟨[], cursor.step, true⟩
    else match plainBreaks rest.length cursor.step [] with
      | (some breaks, cursor) => ⟨foldBreaks c breaks, cursor, true⟩
      | (none, cursor) => ⟨[], cursor, true⟩
  | [] => ⟨blanks, cursor, false⟩

/-- A plain scalar. On further lines it has to be indented by `indent` at least. The answer says
whether the scalar's end comes after a line break. -/
def plainScalar (inFlow : Bool) (indent : Int) : Nat → Cursor → List Char × Cursor × Bool
  | 0, cursor => ([], cursor, false)
  | bound + 1, cursor =>
    let piece := plainPiece inFlow cursor.rest
    let spacing := plainSpacing (cursor.skip piece.length)
    let next := spacing.cursor
    let nextPiece := plainPiece inFlow next.rest
    if spacing.text.isEmpty || next.rest.head? == some '#' || nextPiece.isEmpty ||
        (!inFlow && (next.column : Int) < indent) then (piece, next, spacing.broken)
    else
      let (more, last, broken) := plainScalar inFlow indent bound next
      (piece ++ spacing.text ++ more, last, broken)

/-! Quoted scalars. -/

/-- The breaks and blanks after a first break of a quoted scalar, which no line between documents
may follow. -/
def quotedBreaks : Nat → Cursor → Except Fault (List Char × Cursor)
  | 0, _ => .error .malformed
  | bound + 1, cursor =>
    if startsWithSeparator cursor.rest then .error .malformed
    else
      let cursor := cursor.skipWhile fun c => c == ' ' || c == '\t'
      match cursor.rest with
      | c :: _ =>
        if isBreak c then do
          let (breaks, cursor) ← quotedBreaks bound cursor.step
          return (breakChar c :: breaks, cursor)
        else .ok ([], cursor)
      | [] => .ok ([], cursor)

def quotedSpacing (cursor : Cursor) : Except Fault (List Char × Cursor) :=
  let isBlank (c : Char) : Bool := c == ' ' || c == '\t'
  let blanks := cursor.takeWhile isBlank
  let cursor := cursor.skipWhile isBlank
  match cursor.rest with
  | [] => .error .malformed
  | c :: rest =>
    if isBreak c then do
      let (breaks, cursor) ← quotedBreaks (rest.length + 1) cursor.step
      return (foldBreaks c breaks, cursor)
    else .ok (blanks, cursor)

def escapes : List (Char × Char) :=
  [('0', '\u0000'), ('a', '\u0007'), ('b', '\u0008'), ('t', '\t'), ('\t', '\t'), ('n', '\n'),
    ('v', '\u000b'), ('f', '\u000c'), ('r', '\r'), ('e', '\u001b'), (' ', ' '), ('"', '"'),
    ('\\', '\\'), ('/', '/'), ('N', '\u0085'), ('_', '\u00a0'), ('L', '\u2028'), ('P', '\u2029')]

def codeWidth? (c : Char) : Option Nat :=
  if c == 'x' then some 2 else if c == 'u' then some 4 else if c == 'U' then some 8 else none

/-- The bound of the codes that fit into a word. -/
def codeBound : Nat := twoPow 31

def codeText (width : Nat) (s : List Char) : Except Fault (List Char) :=
  let digits := (s.take width).filterMap Text.hexValue?
  let code := digits.foldl (fun n d => 16 * n + d) 0
  if digits.length ≠ width then .error .malformed
  else if codeBound ≤ code then .error .codeTooLarge
  else if 0x110000 ≤ code then .error .codeOutOfRange
  else .ok (Text.ofCode code)

/-- A quoted scalar up to its closing quote. Between single quotes only the quote is special, and
doubled it stands for itself. -/
def quotedScalar (quote : Char) : Nat → Cursor → Except Fault (List Char × Cursor)
  | 0, _ => .error .malformed
  | bound + 1, cursor =>
    match cursor.rest with
    | [] => .error .malformed
    | c :: rest =>
      if isGap c then do
        let (spacing, cursor) ← quotedSpacing cursor
        let (more, cursor) ← quotedScalar quote bound cursor
        return (spacing ++ more, cursor)
      else if c == quote then
        if quote == '\'' && rest.head? == some '\'' then do
          let (more, cursor) ← quotedScalar quote bound (cursor.skip 2)
          return ('\'' :: more, cursor)
        else .ok ([], cursor.step)
      else if quote == '"' && c == '\\' then
        match rest with
        | [] => .error .malformed
        | e :: code =>
          match escapes.lookup e, codeWidth? e with
          | some char, _ => do
            let (more, cursor) ← quotedScalar quote bound (cursor.skip 2)
            return (char :: more, cursor)
          | none, some width => do
            let text ← codeText width code
            let (more, cursor) ← quotedScalar quote bound (cursor.skip (2 + width))
            return (text ++ more, cursor)
          | none, none =>
            if isBreak e then do
              let (breaks, cursor) ← quotedBreaks (code.length + 1) (cursor.skip 2)
              let (more, cursor) ← quotedScalar quote bound cursor
              return (breaks ++ more, cursor)
            else .error .malformed
      else do
        let (more, cursor) ← quotedScalar quote bound cursor.step
        return (c :: more, cursor)

/-! Block scalars. -/

/-- What happens to the breaks at the end of a block scalar. -/
inductive Chomping where
  | strip
  | clip
  | keep
deriving DecidableEq, Repr

/-- The marks after the indicator of a block scalar, in either order: a chomping, and an indentation
of its own. -/
def headerMarks (cursor : Cursor) : Option Chomping × Option Nat × Cursor :=
  let chomping? (c : Option Char) : Option Chomping :=
    if c == some '+' then some .keep else if c == some '-' then some .strip else none
  let digit? (c : Option Char) : Option Nat :=
    c.bind fun c => if c.isDigit then some (c.toNat - 48) else none
  let first := cursor.rest.head?
  let second := cursor.step.rest.head?
  match chomping? first, digit? first with
  | some chomping, _ => match digit? second with
    | some n => (some chomping, some n, cursor.skip 2)
    | none => (some chomping, none, cursor.step)
  | none, some n => match chomping? second with
    | some chomping => (some chomping, some n, cursor.skip 2)
    | none => (none, some n, cursor.step)
  | none, none => (none, none, cursor)

/-- The end of the line with a block scalar's indicator, which holds nothing but a comment. -/
def headerEnd (cursor : Cursor) : Except Fault Cursor :=
  match cursor.rest with
  | '\t' :: _ => .error .malformed
  | rest =>
    if !startsWithGap rest then .error .malformed
    else
      let cursor := cursor.skipComment
      if startsWithBreak cursor.rest then .ok cursor.step else .error .malformed

def blockHeader (cursor : Cursor) : Except Fault (Chomping × Option Nat × Cursor) := do
  let (chomping, indent, cursor) := headerMarks cursor
  if indent == some 0 then throw .malformed
  return (chomping.getD .clip, indent, ← headerEnd cursor)

/-- The breaks and blanks before the first line of a block scalar, and the deepest column among
them. -/
def blockIndentation : Nat → Cursor → Nat → List Char × Nat × Cursor
  | 0, cursor, deepest => ([], deepest, cursor)
  | bound + 1, cursor, deepest =>
    match cursor.rest with
    | c :: _ =>
      if isBreak c then
        let (breaks, deepest, cursor) := blockIndentation bound cursor.step deepest
        (breakChar c :: breaks, deepest, cursor)
      else if c == ' ' then
        let cursor := cursor.step
        blockIndentation bound cursor (max deepest cursor.column)
      else ([], deepest, cursor)
    | [] => ([], deepest, cursor)

def skipToColumn (column : Nat) (cursor : Cursor) : Cursor :=
  cursor.skip ((cursor.rest.take (column - cursor.column)).takeWhile (· == ' ')).length

def blockBreaks (indent : Nat) : Nat → Cursor → List Char × Cursor
  | 0, cursor => ([], cursor)
  | bound + 1, cursor =>
    let cursor := skipToColumn indent cursor
    match cursor.rest with
    | c :: _ =>
      if isBreak c then
        let (breaks, cursor) := blockBreaks indent bound cursor.step
        (breakChar c :: breaks, cursor)
      else ([], cursor)
    | [] => ([], cursor)

/-- A block scalar's text so far, with what comes before its next line. -/
structure BlockText where
  text : List Char
  lastBreak : List Char
  breaks : List Char
  cursor : Cursor

/-- The lines of a block scalar. Folding joins two lines by a space where neither starts with a
blank. -/
def blockLines (folded : Bool) (indent : Nat) : Nat → BlockText → BlockText
  | 0, state => state
  | bound + 1, state =>
    let cursor := state.cursor
    if cursor.column != indent || cursor.rest.isEmpty then state
    else
      let startsDeeper (s : List Char) : Bool := s.head?.any fun c => c == ' ' || c == '\t'
      let line := cursor.takeWhile fun c => !isBreak c
      let atBreak := cursor.skip line.length
      let lastBreak := (atBreak.rest.take 1).map breakChar
      let (breaks, next) := blockBreaks indent (atBreak.rest.length + 1) atBreak.step
      let text := state.text ++ state.breaks ++ line
      if next.column != indent || next.rest.isEmpty then ⟨text, lastBreak, breaks, next⟩
      else if folded && lastBreak == ['\n'] && !startsDeeper cursor.rest &&
          !startsDeeper next.rest then
        let joint := if breaks.isEmpty then [' '] else []
        blockLines folded indent bound ⟨text ++ joint, lastBreak, breaks, next⟩
      else blockLines folded indent bound ⟨text ++ lastBreak, lastBreak, breaks, next⟩

/-- A block scalar, from the place after its indicator on; `parent` is the indentation around it. -/
def blockScalar (folded : Bool) (parent : Int) (cursor : Cursor) :
    Except Fault (List Char × Cursor) := do
  let (chomping, indent?, cursor) ← blockHeader cursor
  let least := max 1 (parent + 1).toNat
  let bound := cursor.rest.length + 1
  let (indent, breaks, cursor) : Nat × List Char × Cursor := match indent? with
    | some n =>
      let indent := least + n - 1
      (indent, blockBreaks indent bound cursor)
    | none =>
      let (breaks, deepest, cursor) := blockIndentation bound cursor 0
      (max least deepest, breaks, cursor)
  let result := blockLines folded indent bound ⟨[], [], breaks, cursor⟩
  let ending := match chomping with
    | .strip => []
    | .clip => result.lastBreak
    | .keep => result.lastBreak ++ result.breaks
  return (result.text ++ ending, result.cursor)

end TopicPlan.Yaml
