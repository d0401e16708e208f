/-!
Names of files and tests. The display name of a test is its file's name without the ending, its own
name, and its format, with dashes between them; the simple name is what comes after the file's part.
-/

namespace TopicPlan.Suite

def pathParts (path : List Char) : List (List Char) :=
  path.foldr (fun c parts =>
    match parts with
    | part :: rest => if c == '/' then [] :: part :: rest else (c :: part) :: rest
    | [] => [[c]]) [[]]

/-- The last part of a path; empty parts and single dots do not count. -/
def fileName (path : String) : String :=
  let parts := (pathParts path.toList).filter fun part => part != [] && part != ['.']
  String.ofList (parts.getLast?.getD [])

def stem (name : String) : String :=
  match name.toList.reverse.dropWhile (· != '.') with
  | _ :: rest => String.ofList rest.reverse
  | [] => name

/-- A name from its last dot on, unless the dot comes first or last. -/
def ending (name : String) : String :=
  let cs := name.toList.reverse
  let after := cs.takeWhile (· != '.')
  match cs.dropWhile (· != '.') with
  | _ :: _ :: _ => if after.isEmpty then "" else String.ofList ('.' :: after.reverse)
  | _ => ""

def filePart (path : String) : String := stem (fileName path) ++ " - "

def displayName (path test : String) (format : Option String) : String :=
  filePart path ++ test ++ match format with
    | some format => " - " ++ format
    | none => ""

/-- What is left of a text after a given beginning. -/
def after? : List Char → List Char → Option (List Char)
  | [], rest => some rest
  | c :: start, d :: rest => if c = d then after? start rest else none
  | _ :: _, [] => none

def simpleName? (path displayed : String) : Option String :=
  (after? (filePart path).toList displayed.toList).map String.ofList

def notOfFile (displayed : String) : String := s!"Not prefixed test name: {displayed}"

/-- What stands for a test's format in its statements. -/
def placeholder : String := "\x7bFORMAT\x7d"

/-- What the placeholder becomes in a test without formats: no format's name, so that the statement
fails for everyone to see. -/
def missingFormatText : String :=
  "To use " ++ placeholder ++ " in your statements please set the 'format' test case element"

/-- The text with every occurrence of `pattern` replaced; occurrences are found from the left. While
`skipped` is positive, that many more characters belong to the last one. -/
def replaceAll (pattern replacement : List Char) : Nat → List Char → List Char
  | _, [] => []
  | skipped + 1, _ :: rest => replaceAll pattern replacement skipped rest
  | 0, c :: rest =>
    if pattern.isPrefixOf (c :: rest) then
      replacement ++ replaceAll pattern replacement (pattern.length - 1) rest
    else c :: replaceAll pattern replacement 0 rest

def statementFor (format : Option String) (statement : String) : String :=
  let replacement := format.getD missingFormatText
  String.ofList (replaceAll placeholder.toList replacement.toList 0 statement.toList)

end TopicPlan.Suite
