import TopicPlan.Yaml.Fault

/-!
Tokens of a YAML text, and the place in the text from which the next one is read.
-/

namespace TopicPlan.Yaml

/-- A token. Block collections have tokens for their start and end although the text marks them by
indentation alone, and a key has a token before it. -/
inductive Token where
  /-- The directive that names the version of the notation, by its major number. -/
  | version (major : Nat)
  /-- The directive that says what names of tags begin with when they are written with a handle. -/
  | tagHandle (handle start : String)
  /-- A directive that is not looked at. -/
  | directive
  | documentStart
  | documentEnd
  | blockSequenceStart
  | blockMappingStart
  | blockEnd
  | flowSequenceStart
  | flowSequenceEnd
  | flowMappingStart
  | flowMappingEnd
  | blockEntry
  | flowEntry
  | key
  | value
  | alias (name : String)
  | anchor (name : String)
  /-- A tag: a full name, or the end of one that begins with what a handle stands for. -/
  | tag (handle : Option String) (name : String)
  | scalar (plain : Bool) (text : String)
deriving DecidableEq, Repr

/-- Line breaks; carriage returns have been replaced before. -/
def isBreak (c : Char) : Bool :=
  c == '\n' || c == '\u0085' || c == '\u2028' || c == '\u2029'

def isGap (c : Char) : Bool := c == ' ' || c == '\t' || isBreak c

def breakChar (c : Char) : Char := if c == '\u0085' then '\n' else c

/-- Whether a text ends, or goes on with a blank or a line break. -/
def startsWithGap : List Char → Bool
  | [] => true
  | c :: _ => isGap c

/-- Whether a text ends, or goes on with a space or a line break. -/
def endsWord : List Char → Bool
  | [] => true
  | c :: _ => c == ' ' || isBreak c

def startsWithBreak : List Char → Bool
  | [] => true
  | c :: _ => isBreak c

/-- The line between two documents, or after the last one. -/
def startsWithSeparator : List Char → Bool
  | '-' :: '-' :: '-' :: rest => startsWithGap rest
  | '.' :: '.' :: '.' :: rest => startsWithGap rest
  | _ => false

/-- What is left of a text, and the place where it begins. -/
structure Cursor where
  rest : List Char
  line : Nat
  column : Nat
  index : Nat
deriving Repr

namespace Cursor

def ofText (text : List Char) : Cursor := ⟨text, 0, 0, 0⟩

def step (cursor : Cursor) : Cursor :=
  match cursor.rest with
  | [] => cursor
  | c :: rest =>
    if isBreak c then ⟨rest, cursor.line + 1, 0, cursor.index + 1⟩
    else
      -- A byte order mark takes no column.
      let width := if c == '\uFEFF' then 0 else 1
      ⟨rest, cursor.line, cursor.column + width, cursor.index + 1⟩

def skip : Nat → Cursor → Cursor
  | 0, cursor => cursor
  | n + 1, cursor => skip n cursor.step

def takeWhile (p : Char → Bool) (cursor : Cursor) : List Char := cursor.rest.takeWhile p

def skipWhile (p : Char → Bool) (cursor : Cursor) : Cursor :=
  cursor.skip (cursor.takeWhile p).length

def skipComment (cursor : Cursor) : Cursor :=
  let cursor := cursor.skipWhile (· == ' ')
  match cursor.rest with
  | '#' :: _ => cursor.skipWhile fun c => !isBreak c
  | _ => cursor

end Cursor

end TopicPlan.Yaml
