import Mathlib.Data.List.Infix
import Mathlib.Tactic.SplitIfs
import TopicPlan.Json.Reader
import TopicPlan.Proofs.Numerals

/-! The limits of a reader of JSON. A text that has no document is malformed, unless a run of more
digits than a numeral may have stands in it, or more collections begin in it than may be inside each
other. -/
namespace TopicPlan.Json

variable {α β : Type} {room : Nat} {s rest : List Char}

def isOpening (c : Char) : Bool := c == '[' || c == '\x7b'

/-- What the outcome of a reading tells of its text: what is left is the end of the text, a numeral
beyond the limit stands in it, and for want of room it has more openings than there is room. -/
def Accounts (room : Nat) (s : List Char) : Reading (α × List Char) → Prop
  | .ok (_, rest) => rest <:+ s
  | .error (.fault ..) => True
  | .error (.numeralTooLong count) => Text.HasOverlong count s
  | .error (.tooDeep _) => room < s.countP isOpening

theorem Accounts.of_suffix {x : Reading (α × List Char)} (h : rest <:+ s)
    (hx : Accounts room rest x) : Accounts room s x := by
  match x, hx with
  | .ok (_, _), hx => exact hx.trans h
  | .error (.fault ..), _ => trivial
  | .error (.numeralTooLong _), hx => exact Text.HasOverlong.of_suffix h hx
  | .error (.tooDeep _), hx => exact Nat.lt_of_lt_of_le hx h.sublist.countP_le

theorem Accounts.skip (count : Nat) {x : Reading (α × List Char)}
    (hx : Accounts room (s.drop count) x) : Accounts room s x :=
  hx.of_suffix (List.drop_suffix count s)

theorem Accounts.bind {x : Reading (α × List Char)} {f : α × List Char → Reading (β × List Char)}
    (hx : Accounts room s x) (hf : ∀ a rest, rest <:+ s → Accounts room s (f (a, rest))) :
    Accounts room s (x >>= f) := by
  match x, hx with
  | .ok (a, rest), hx => exact hf a rest hx
  | .error (.fault ..), _ => trivial
  | .error (.numeralTooLong _), hx => exact hx
  | .error (.tooDeep _), hx => exact hx

/-- Outside a collection there is room for one more, and the text has one more opening. -/
theorem Accounts.outside {c : Char} {x : Reading (α × List Char)} (hc : isOpening c = true)
    (hx : Accounts room rest x) : Accounts (room + 1) (c :: rest) x := by
  match x, hx with
  | .ok (_, _), hx => exact hx.trans (List.suffix_cons c rest)
  | .error (.fault ..), _ => trivial
  | .error (.numeralTooLong _), hx =>
    exact Text.HasOverlong.of_suffix (List.suffix_cons c rest) hx
  | .error (.tooDeep _), hx =>
    show room + 1 < (c :: rest).countP isOpening
    rw [List.countP_cons_of_pos hc]
    exact Nat.succ_lt_succ hx

theorem Accounts.enter {collection : Collection} {c : Char} {f : Nat → Reading (α × List Char)}
    (hc : isOpening c = true) (hf : ∀ inner, Accounts inner rest (f inner)) :
    Accounts room (c :: rest) (enter collection room >>= f) := by
  cases room with
  | zero =>
    show 0 < (c :: rest).countP isOpening
    rw [List.countP_cons_of_pos hc]
    exact Nat.succ_pos _
  | succ inner => exact (hf inner).outside hc

/-! The parts of a document. -/

theorem skipSpace_suffix (s : List Char) : skipSpace s <:+ s := List.dropWhile_suffix _

theorem suffix_of_skipSpace {c : Char} {later : List Char} (h : skipSpace s = c :: later) :
    later <:+ s :=
  (List.suffix_cons c later).trans (h ▸ skipSpace_suffix s)

theorem accounts_textFrom (room : Nat) (quote : List Char) (read : List Nat) (s : List Char) :
    Accounts room s (textFrom quote read s) := by
  fun_induction textFrom quote read s with
  | case2 read rest => exact List.suffix_cons _ rest
  | case6 => exact Accounts.skip 12 ‹_›
  | case7 => exact Accounts.skip 6 ‹_›
  | case8 => exact Accounts.skip 6 ‹_›
  | case10 => exact Accounts.skip 2 ‹_›
  | case13 => exact Accounts.skip 1 ‹_›
  | _ => trivial

/-! The parts of a numeral. -/

theorem wholeAt_append (s : List Char) : (wholeAt s).1 ++ (wholeAt s).2 = s := by
  unfold wholeAt
  split
  · rfl
  · exact List.takeWhile_append_dropWhile

theorem fractionAt_suffix (s : List Char) : (fractionAt s).2 <:+ s := by
  unfold fractionAt
  split
  · dsimp only
    split_ifs
    · exact List.suffix_rfl
    · exact (List.dropWhile_suffix _).trans (List.suffix_cons _ _)
  · exact List.suffix_rfl

theorem signAt_suffix (s : List Char) : (signAt s).2 <:+ s := by
  unfold signAt
  split
  · exact List.suffix_cons _ _
  · exact List.suffix_cons _ _
  · exact List.suffix_rfl

theorem exponentAt_suffix (s : List Char) : (exponentAt s).2 <:+ s := by
  unfold exponentAt
  split
  · dsimp only
    split_ifs
    · exact List.suffix_rfl
    · exact ((List.dropWhile_suffix _).trans (signAt_suffix _)).trans (List.suffix_cons _ _)
    · exact List.suffix_rfl
  · exact List.suffix_rfl

theorem wholeAt_digits (s : List Char) : (wholeAt s).1.all Char.isDigit = true := by
  unfold wholeAt
  split
  · rfl
  · exact List.all_takeWhile

theorem accounts_numberOf {start whole fraction exponent : List Char} {negative : Bool}
    (hwhole : whole <+: s) (hdigits : whole.all Char.isDigit = true)
    (hnonempty : whole.isEmpty = false) (hrest : rest <:+ s) :
    Accounts room s (numberOf start negative whole fraction exponent rest) := by
  unfold numberOf
  split
  · cases hread : Text.readNat whole with
    | ok n => exact hrest
    | error error =>
      exact ⟨Text.digitLimit_lt_of_readNat hdigits hnonempty hread, whole, hwhole.isInfix, rfl, hdigits⟩
  · cases Decimal.read? (whole ++ fraction ++ exponent) with
    | some d => exact hrest
    | none => trivial

theorem accounts_numberAt (room : Nat) (start : List Char) (negative : Bool) (s : List Char) :
    Accounts room s (numberAt start negative s) := by
  unfold numberAt
  dsimp only
  split
  · trivial
  · next hnonempty =>
    exact accounts_numberOf ⟨_, wholeAt_append s⟩ (wholeAt_digits s) (by simpa using hnonempty)
      (((exponentAt_suffix _).trans (fractionAt_suffix _)).trans ⟨_, wholeAt_append s⟩)

/-! Documents. -/

theorem literalAt?_suffix {found : Json × List Char} (h : literalAt? s = some found) :
    found.2 <:+ s := by
  obtain ⟨⟨word, value⟩, -, hword⟩ := List.exists_of_findSome?_eq_some h
  dsimp only at hword
  split_ifs at hword
  obtain rfl := Option.some.inj hword
  exact List.drop_suffix _ _

section Step

variable {bound : Nat} (hvalue : ∀ room s, Accounts room s (valueAt room bound s))
  (hitems : ∀ room s, Accounts room s (itemsAt room bound s))
  (hmembers : ∀ room members s, Accounts room s (membersAt room bound members s))

include hitems hmembers in
theorem accounts_valueAt_succ (room : Nat) (s : List Char) :
    Accounts room s (valueAt room (bound + 1) s) := by
  unfold valueAt
  split
  · exact Accounts.skip 1 ((accounts_textFrom _ _ _ _).bind fun _ _ hrest => hrest)
  · next rest =>
    refine Accounts.enter rfl fun inner => ?_
    split
    · next hclosed => exact suffix_of_skipSpace hclosed
    · refine Accounts.of_suffix (skipSpace_suffix rest) ?_
      exact (hitems inner _).bind fun _ _ hlater => hlater
  · next rest =>
    refine Accounts.enter rfl fun inner => ?_
    split
    · next hclosed => exact suffix_of_skipSpace hclosed
    · refine Accounts.of_suffix (skipSpace_suffix rest) ?_
      exact (hmembers inner [] _).bind fun _ _ hlater => hlater
  · split
    · next hfound => exact literalAt?_suffix hfound
    · split
      · exact Accounts.skip 1 (accounts_numberAt _ _ _ _)
      · exact accounts_numberAt _ _ _ _

include hvalue hitems in
theorem accounts_itemsAt_succ (room : Nat) (s : List Char) :
    Accounts room s (itemsAt room (bound + 1) s) := by
  unfold itemsAt
  refine (hvalue room s).bind fun item rest hrest => Accounts.of_suffix hrest ?_
  dsimp only
  split
  · next hclosed => exact suffix_of_skipSpace hclosed
  · next later hcomma =>
    refine Accounts.of_suffix (suffix_of_skipSpace hcomma) ?_
    refine Accounts.of_suffix (skipSpace_suffix later) ?_
    exact (hitems room _).bind fun _ _ hlater => hlater
  · trivial

include hvalue hmembers in
theorem accounts_membersAt_succ (room : Nat) (members : OrderedMap String Json) (s : List Char) :
    Accounts room s (membersAt room (bound + 1) members s) := by
  unfold membersAt
  split
  · refine Accounts.skip 1 ((accounts_textFrom _ _ _ _).bind fun name rest hrest => ?_)
    refine Accounts.of_suffix hrest ?_
    dsimp only
    split
    · next later hcolon =>
      refine Accounts.of_suffix (suffix_of_skipSpace hcolon) ?_
      refine Accounts.of_suffix (skipSpace_suffix later) ?_
      refine (hvalue room _).bind fun value rest hrest => Accounts.of_suffix hrest ?_
      dsimp only
      split
      · next hclosed => exact suffix_of_skipSpace hclosed
      · next later hcomma =>
        refine Accounts.of_suffix (suffix_of_skipSpace hcomma) ?_
        exact (hmembers room _ _).of_suffix (skipSpace_suffix later)
      · trivial
    · trivial
  · trivial

end Step

/-- However many steps there are. -/
theorem accounts_collections (bound : Nat) :
    (∀ room s, Accounts room s (valueAt room bound s)) ∧
      (∀ room s, Accounts room s (itemsAt room bound s)) ∧
      ∀ room members s, Accounts room s (membersAt room bound members s) := by
  induction bound with
  | zero => exact ⟨fun _ _ => trivial, fun _ _ => trivial, fun _ _ _ => trivial⟩
  | succ bound ih =>
    obtain ⟨hvalue, hitems, hmembers⟩ := ih
    exact ⟨accounts_valueAt_succ hitems hmembers, accounts_itemsAt_succ hvalue hitems,
      accounts_membersAt_succ hvalue hmembers⟩

/-- What an error that is no fault of the text's form tells of the text. -/
def ReadError.AccountsFor (s : List Char) : ReadError → Prop
  | .malformed .. => True
  | .numeralTooLong count => Text.HasOverlong count s
  | .tooDeep _ => depthLimit < s.countP isOpening

/-- A text without a document is malformed, or has a numeral or collections beyond a limit. -/
theorem read_error_accounts {text : String} {error : ReadError} (h : Json.read text = .error error) :
    error.AccountsFor text.toList := by
  have hvalue := ((accounts_collections (2 * text.toList.length + 2)).1 depthLimit
    (skipSpace text.toList)).of_suffix (skipSpace_suffix _)
  unfold Json.read at h
  dsimp only at h
  generalize valueAt _ _ _ = found at h hvalue
  by_cases hmark : (text.toList.head?.any (·.toNat == 0xFEFF)) = true
  · rw [if_pos hmark] at h
    cases h
    trivial
  · rw [if_neg hmark] at h
    match found, hvalue with
    | .ok (value, rest), _ =>
      cases hrest : skipSpace rest with
      | nil =>
        simp only [bind, Except.bind, hrest] at h
        cases h
      | cons c later =>
        simp only [bind, Except.bind, hrest] at h
        cases h
        trivial
    | .error (.fault ..), _ => cases h; trivial
    | .error (.numeralTooLong _), hlong => cases h; exact hlong
    | .error (.tooDeep _), hdeep => cases h; exact hdeep

end TopicPlan.Json
