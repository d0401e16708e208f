/-!
Blank characters and the words between them. A text is handled as its list of characters, so that
positions are counted in characters.
-/

namespace TopicPlan.Text

/-- The characters that separate words: white space, and the four information separators. -/
def isBlank (c : Char) : Bool :=
  let n := c.toNat
  (9 ≤ n && n ≤ 13) || (28 ≤ n && n ≤ 32) || n == 0x85 || n == 0xA0 || n == 0x1680 ||
    (0x2000 ≤ n && n ≤ 0x200A) || n == 0x2028 || n == 0x2029 || n == 0x202F || n == 0x205F ||
    n == 0x3000

def stripWhere (isDropped : Char → Bool) (s : List Char) : List Char :=
  ((s.dropWhile isDropped).reverse.dropWhile isDropped).reverse

def strip (s : List Char) : List Char := stripWhere isBlank s

/-- The words of a text, where `word` holds the reversed start of the current one. -/
def wordsFrom (word : List Char) : List Char → List (List Char)
  | [] => if word.isEmpty then [] else [word.reverse]
  | c :: rest =>
    if isBlank c then
      if word.isEmpty then wordsFrom [] rest else word.reverse :: wordsFrom [] rest
    else wordsFrom (c :: word) rest

/-- The maximal runs of characters that are not blank, in order. -/
def words (s : List Char) : List (List Char) := wordsFrom [] s

theorem wordsFrom_append {letters : List Char} (h : ∀ c ∈ letters, isBlank c = false)
    (word s : List Char) : wordsFrom word (letters ++ s) = wordsFrom (letters.reverse ++ word) s := by
  induction letters generalizing word with
  | nil => rfl
  | cons c letters ih =>
    have hletters := ih (fun d hd => h d (List.mem_cons_of_mem c hd)) (c :: word)
    simp [wordsFrom, h c List.mem_cons_self, hletters]

theorem words_append_cons {word rest : List Char} {c : Char} (hword : word ≠ [])
    (h : ∀ c ∈ word, isBlank c = false) (hc : isBlank c = true) :
    words (word ++ c :: rest) = word :: words rest := by
  rw [words, wordsFrom_append h]
  simp [wordsFrom, words, hc, hword]

theorem words_blanks_append {blanks : List Char} (h : ∀ c ∈ blanks, isBlank c = true)
    (s : List Char) : words (blanks ++ s) = words s := by
  induction blanks with
  | nil => rfl
  | cons c blanks ih =>
    have hblanks := ih fun d hd => h d (List.mem_cons_of_mem c hd)
    simpa [words, wordsFrom, h c List.mem_cons_self] using hblanks

theorem wordsFrom_append_blanks {blanks : List Char} (h : ∀ c ∈ blanks, isBlank c = true)
    (word s : List Char) : wordsFrom word (s ++ blanks) = wordsFrom word s := by
  induction s generalizing word with
  | nil =>
    cases blanks with
    | nil => rfl
    | cons c blanks =>
      have hrest : wordsFrom [] blanks = [] := by
        have hblanks := words_blanks_append (fun d hd => h d (List.mem_cons_of_mem c hd)) []
        rwa [List.append_nil] at hblanks
      simp [wordsFrom, h c List.mem_cons_self, hrest]
  | cons c s ih => simp only [List.cons_append, wordsFrom, ih]

theorem words_strip (s : List Char) : words (strip s) = words s := by
  have hfront : words (s.dropWhile isBlank) = words s := by
    have hblanks : ∀ c ∈ s.takeWhile isBlank, isBlank c = true := fun c hc =>
      List.all_eq_true.mp List.all_takeWhile c hc
    rw [← words_blanks_append hblanks, List.takeWhile_append_dropWhile]
  generalize hkept : s.dropWhile isBlank = kept at hfront
  have hback : kept = (kept.reverse.dropWhile isBlank).reverse ++
      (kept.reverse.takeWhile isBlank).reverse := by
    rw [← List.reverse_append, List.takeWhile_append_dropWhile, List.reverse_reverse]
  have hblanks : ∀ c ∈ (kept.reverse.takeWhile isBlank).reverse, isBlank c = true := fun c hc =>
    List.all_eq_true.mp List.all_takeWhile c (List.mem_reverse.mp hc)
  rw [← hfront, strip, stripWhere, hkept]
  conv => rhs; rw [hback]
  exact (wordsFrom_append_blanks hblanks [] _).symm

end TopicPlan.Text
