import TopicPlan.Text.CaseTable

/-!
Upper and lower case of whole texts. One character may become several, as the sharp s does, and
the lower case of the capital sigma depends on where in a word it stands.
-/

namespace TopicPlan.Text

def lookupRuns (runs : List CaseRun) (c : Char) : Char :=
  Char.ofNat ((runs.findSome? (·.map? c.toNat)).getD c.toNat)

/-- The upper case of one character; within ASCII only the letters change. -/
def upperChar (c : Char) : List Char :=
  if c.toNat < 128 then [c.toUpper]
  else match upperExpansions.lookup c.toNat with
    | some codes => codes.map Char.ofNat
    | none => [lookupRuns upperRuns c]

def upper (s : String) : String := String.ofList (s.toList.flatMap upperChar)

theorem upperChar_of_ascii {c : Char} (h : c.toNat < 128) : upperChar c = [c.toUpper] := by
  simp [upperChar, h]

theorem flatMap_upperChar_of_ascii {cs : List Char} (h : ∀ c ∈ cs, c.toNat < 128) :
    cs.flatMap upperChar = cs.map Char.toUpper := by
  induction cs with
  | nil => rfl
  | cons c rest ih =>
    rw [List.flatMap_cons, upperChar_of_ascii (h c (by simp)), ih fun d hd => h d (by simp [hd])]
    rfl

theorem upper_of_ascii {s : String} (h : ∀ c ∈ s.toList, c.toNat < 128) :
    upper s = String.ofList (s.toList.map Char.toUpper) := by
  rw [upper, flatMap_upperChar_of_ascii h]

def inRanges (ranges : List (Nat × Nat)) (c : Char) : Bool :=
  ranges.any fun (first, last) => first ≤ c.toNat && c.toNat ≤ last

/-- A capital sigma ends a word when a letter comes before it and none after it, looking through
the characters that carry no case of their own. `before` is reversed. -/
def endsWord (before after : List Char) : Bool :=
  let letterFirst (s : List Char) : Bool :=
    (s.dropWhile (inRanges caseIgnorableRanges)).head?.any (inRanges casedRanges)
  letterFirst before && !letterFirst after

/-- The lower case of a character between `before`, reversed, and `after`. -/
def lowerChar (before : List Char) (c : Char) (after : List Char) : List Char :=
  if c.toNat < 128 then [c.toLower]
  else if c == 'Σ' then [if endsWord before after then 'ς' else 'σ']
  else match lowerExpansions.lookup c.toNat with
    | some codes => codes.map Char.ofNat
    | none => [lookupRuns lowerRuns c]

def lowerFrom (before : List Char) : List Char → List Char
  | [] => []
  | c :: after => lowerChar before c after ++ lowerFrom (c :: before) after

def lower (s : String) : String := String.ofList (lowerFrom [] s.toList)

end TopicPlan.Text
