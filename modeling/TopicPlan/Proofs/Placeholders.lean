import TopicPlan.Proofs.TopicCriterion
import TopicPlan.Suite.Name

/-! Placeholders in statements. No two of them overlap, since none begins inside another one; so a text
is cut at its placeholders in one way only. Main statement: the texts between the placeholders are kept,
and what takes the place of the placeholders makes no new one out of the text around it. -/
namespace TopicPlan
namespace Suite

/-- A text cut at all occurrences of a pattern, into parts that hold none. -/
inductive CutAt (pattern : List Char) : List Char → List (List Char) → Prop
  | last {part : List Char} (h : ¬pattern <:+: part) : CutAt pattern part [part]
  | more {part rest : List Char} {parts : List (List Char)} (h : ¬pattern <:+: part)
      (hrest : CutAt pattern rest parts) : CutAt pattern (part ++ (pattern ++ rest)) (part :: parts)

theorem CutAt.ne_nil {pattern text : List Char} {parts : List (List Char)}
    (h : CutAt pattern text parts) : parts ≠ [] := by
  cases h <;> exact List.cons_ne_nil _ _

theorem CutAt.append {pattern front back : List Char} {first second : List (List Char)}
    (hfirst : CutAt pattern front first) (hsecond : CutAt pattern back second) :
    CutAt pattern (front ++ (pattern ++ back)) (first ++ second) := by
  induction hfirst with
  | last h => exact .more h hsecond
  | more h _ ih =>
    rw [List.append_assoc, List.append_assoc]
    exact .more h ih

theorem CutAt.exists {pattern : List Char} (hpattern : pattern ≠ []) (text : List Char) :
    ∃ parts, CutAt pattern text parts := by
  induction hn : text.length using Nat.strongRecOn generalizing text with
  | ind n ih =>
    by_cases h : pattern <:+: text
    · obtain ⟨front, back, rfl⟩ := h
      have hlength := List.length_pos_iff.mpr hpattern
      simp only [List.length_append] at hn
      obtain ⟨first, hfirst⟩ := ih front.length (by omega) front rfl
      obtain ⟨second, hsecond⟩ := ih back.length (by omega) back rfl
      rw [List.append_assoc]
      exact ⟨_, hfirst.append hsecond⟩
    · exact ⟨_, .last h⟩

/-! ### Patterns whose first character comes once -/

section Pattern

variable {first : Char} {back replacement : List Char}

/-- Before an occurrence of the pattern no other one begins that would overlap it. -/
theorem not_prefix_of_free (hfirst : first ∉ back) {part : List Char} (hpart : part ≠ [])
    (hfree : ¬(first :: back) <:+: part) (rest : List Char) :
    ¬(first :: back) <+: part ++ (first :: back ++ rest) := by
  intro h
  rcases List.prefix_or_prefix_of_prefix h (List.prefix_append part _) with hshort | hlong
  · exact hfree hshort.isInfix
  obtain ⟨surplus, hsurplus⟩ := hlong
  -- What of the pattern is beyond the part begins as the pattern does.
  have hagain : surplus <+: first :: back ++ rest := by
    rw [← List.prefix_append_right_inj part, hsurplus]
    exact h
  cases surplus with
  | nil =>
    rw [List.append_nil] at hsurplus
    exact hfree (hsurplus ▸ List.infix_rfl)
  | cons c surplus =>
    obtain ⟨rfl, -⟩ := List.cons_prefix_cons.mp hagain
    obtain ⟨d, part, rfl⟩ := List.exists_cons_of_ne_nil hpart
    obtain ⟨-, hback⟩ := List.cons.inj hsurplus
    exact hfirst (by simp [← hback])

theorem replaceAll_append (pattern replacement front rest : List Char) :
    replaceAll pattern replacement front.length (front ++ rest) =
      replaceAll pattern replacement 0 rest := by
  induction front with
  | nil => rfl
  | cons c front ih => exact ih

theorem replaceAll_pattern (rest : List Char) :
    replaceAll (first :: back) replacement 0 (first :: back ++ rest) =
      replacement ++ replaceAll (first :: back) replacement 0 rest := by
  have hprefix : (first :: back).isPrefixOf (first :: (back ++ rest)) = true :=
    List.isPrefixOf_iff_prefix.mpr (List.prefix_append (first :: back) rest)
  rw [List.cons_append, replaceAll, if_pos hprefix, List.length_cons, Nat.add_sub_cancel,
    replaceAll_append]

theorem replaceAll_cons {pattern rest : List Char} {c : Char} (h : ¬pattern <+: c :: rest) :
    replaceAll pattern replacement 0 (c :: rest) = c :: replaceAll pattern replacement 0 rest := by
  rw [replaceAll, if_neg fun hprefix => h (List.isPrefixOf_iff_prefix.mp hprefix)]

theorem replaceAll_of_free {pattern text : List Char} (h : ¬pattern <:+: text) :
    replaceAll pattern replacement 0 text = text := by
  induction text with
  | nil => rfl
  | cons c text ih =>
    rw [List.infix_cons_iff, not_or] at h
    rw [replaceAll_cons h.1, ih h.2]

theorem replaceAll_part (hfirst : first ∉ back) {part rest : List Char}
    (hfree : ¬(first :: back) <:+: part) :
    replaceAll (first :: back) replacement 0 (part ++ (first :: back ++ rest)) =
      part ++ (replacement ++ replaceAll (first :: back) replacement 0 rest) := by
  induction part with
  | nil => exact replaceAll_pattern rest
  | cons c part ih =>
    have hnot : ¬(first :: back) <+: c :: (part ++ (first :: back ++ rest)) :=
      not_prefix_of_free hfirst (List.cons_ne_nil c part) hfree rest
    rw [List.infix_cons_iff, not_or] at hfree
    rw [List.cons_append, replaceAll_cons hnot, ih hfree.2, List.cons_append]

/-- Replacing a pattern puts the replacement between the parts of the text. -/
theorem replaceAll_of_cutAt (hfirst : first ∉ back) {text : List Char} {parts : List (List Char)}
    (h : CutAt (first :: back) text parts) :
    replaceAll (first :: back) replacement 0 text = replacement.intercalate parts := by
  induction h with
  | last h => rw [replaceAll_of_free h, List.intercalate_singleton]
  | more h hrest ih =>
    rw [replaceAll_part hfirst h, ih, List.intercalate_cons_of_ne_nil hrest.ne_nil, List.append_assoc]

theorem part_unique (hfirst : first ∉ back) {part other rest left : List Char}
    (hpart : ¬(first :: back) <:+: part) (hother : ¬(first :: back) <:+: other)
    (h : part ++ (first :: back ++ rest) = other ++ (first :: back ++ left)) :
    part = other ∧ rest = left := by
  induction part generalizing other with
  | nil =>
    cases other with
    | nil => exact ⟨rfl, List.append_cancel_left h⟩
    | cons d other =>
      refine absurd ?_ (not_prefix_of_free hfirst (List.cons_ne_nil d other) hother left)
      rw [← h]
      exact List.prefix_append _ _
  | cons c part ih =>
    cases other with
    | nil =>
      refine absurd ?_ (not_prefix_of_free hfirst (List.cons_ne_nil c part) hpart rest)
      rw [h]
      exact List.prefix_append _ _
    | cons d other =>
      obtain ⟨rfl, hafter⟩ := List.cons.inj h
      rw [List.infix_cons_iff, not_or] at hpart hother
      obtain ⟨rfl, hrest⟩ := ih hpart.2 hother.2 hafter
      exact ⟨rfl, hrest⟩

theorem CutAt.unique (hfirst : first ∉ back) {text : List Char} {parts others : List (List Char)}
    (h : CutAt (first :: back) text parts) (hothers : CutAt (first :: back) text others) :
    others = parts := by
  have hholds (part rest : List Char) :
      (first :: back) <:+: part ++ (first :: back ++ rest) := List.infix_append' _ _ _
  induction h generalizing others with
  | last h =>
    cases hothers with
    | last _ => rfl
    | more _ _ => exact absurd (hholds _ _) h
  | @more part rest _ h _ ih =>
    generalize htext : part ++ (first :: back ++ rest) = text at hothers
    cases hothers with
    | last hnot => exact absurd (htext ▸ hholds _ _) hnot
    | more hother hrest =>
      obtain ⟨rfl, rfl⟩ := part_unique hfirst h hother htext
      rw [ih hrest]

end Pattern

/-! ### No new placeholder -/

theorem infix_append_cases {p left right : List Char} (h : p <:+: left ++ right) :
    p <:+: left ∨ p <:+: right ∨
      ∃ x y, p = x ++ y ∧ x ≠ [] ∧ y ≠ [] ∧ x <:+ left ∧ y <+: right := by
  induction left with
  | nil => exact Or.inr (Or.inl h)
  | cons c left ih =>
    rcases List.infix_cons_iff.mp h with hprefix | hinfix
    · rcases List.prefix_or_prefix_of_prefix hprefix (List.prefix_append (c :: left) right) with
        hshort | ⟨y, rfl⟩
      · exact Or.inl hshort.isInfix
      · have hy : y <+: right := (List.prefix_append_right_inj (c :: left)).mp hprefix
        by_cases hnil : y = []
        · exact Or.inl (by simp [hnil])
        · exact Or.inr (Or.inr ⟨_, y, rfl, List.cons_ne_nil c left, hnil, List.suffix_rfl, hy⟩)
    · rcases ih hinfix with hleft | hright | ⟨x, y, hp, hx, hy, hsuffix, hprefix⟩
      · exact Or.inl (hleft.trans (List.suffix_cons c left).isInfix)
      · exact Or.inr (Or.inl hright)
      · exact Or.inr (Or.inr ⟨x, y, hp, hx, hy, hsuffix.trans (List.suffix_cons c left), hprefix⟩)

section Insertion

variable {first last : Char} {word name : List Char}

/-- A pattern does not come about where a name is put between two texts without it: it would begin and
end outside the name, which would lie inside it. -/
theorem not_infix_between (hfirst : first ∉ name) (hlast : last ∉ name)
    (hname : ¬name <:+: first :: (word ++ [last])) {before after : List Char}
    (hbefore : ¬(first :: (word ++ [last])) <:+: before)
    (hafter : ¬(first :: (word ++ [last])) <:+: after) :
    ¬(first :: (word ++ [last])) <:+: before ++ (name ++ after) := by
  intro h
  rcases infix_append_cases h with hin | hin | ⟨x, y, hpattern, -, hy, -, hprefix⟩
  · exact hbefore hin
  · rcases infix_append_cases hin with hin | hin | ⟨x, y, hpattern, hx, -, hsuffix, -⟩
    · exact hfirst (hin.subset List.mem_cons_self)
    · exact hafter hin
    · obtain ⟨c, x, rfl⟩ := List.exists_cons_of_ne_nil hx
      obtain ⟨rfl, -⟩ := List.cons.inj hpattern
      exact hfirst (hsuffix.subset List.mem_cons_self)
  · rcases List.prefix_or_prefix_of_prefix hprefix (List.prefix_append name after) with hin | hin
    · have hend : y.getLast hy = last := by
        have hsame := congrArg List.getLast? hpattern
        simp only [List.getLast?_append_of_ne_nil _ hy, List.getLast?_eq_getLast_of_ne_nil hy] at hsame
        simpa [List.getLast?_cons] using hsame.symm
      exact hlast (hin.subset (hend ▸ List.getLast_mem hy))
    · refine hname (hin.isInfix.trans ?_)
      rw [hpattern]
      exact (List.suffix_append x y).isInfix

theorem not_infix_intercalate (hfirst : first ∉ name) (hlast : last ∉ name)
    (hname : ¬name <:+: first :: (word ++ [last])) {text : List Char} {parts : List (List Char)}
    (h : CutAt (first :: (word ++ [last])) text parts) :
    ¬(first :: (word ++ [last])) <:+: name.intercalate parts := by
  induction h with
  | last h => rwa [List.intercalate_singleton]
  | more h hrest ih =>
    rw [List.intercalate_cons_of_ne_nil hrest.ne_nil, List.append_assoc]
    exact not_infix_between hfirst hlast hname h ih

/-- A name without the marks around a word that lies inside the marked word lies inside the word. -/
theorem infix_of_infix_marked (hne : name ≠ []) (hfirst : first ∉ name) (hlast : last ∉ name)
    (h : name <:+: first :: (word ++ [last])) : name <:+: word := by
  obtain ⟨c, name, rfl⟩ := List.exists_cons_of_ne_nil hne
  rcases List.infix_cons_iff.mp h with hprefix | hinfix
  · obtain ⟨rfl, -⟩ := List.cons_prefix_cons.mp hprefix
    exact absurd List.mem_cons_self hfirst
  rcases infix_append_cases hinfix with hin | hin | ⟨x, y, hcut, -, hy, -, hprefix⟩
  · exact hin
  · obtain rfl : c = last := by simpa using hin.subset List.mem_cons_self
    exact absurd List.mem_cons_self hlast
  · obtain ⟨d, y, rfl⟩ := List.exists_cons_of_ne_nil hy
    obtain ⟨rfl, -⟩ := List.cons_prefix_cons.mp hprefix
    exact absurd (by simp [hcut]) hlast

end Insertion

/-! ### Statements -/

def formatWord : String := "FORMAT"

theorem placeholder_eq : placeholder.toList = '\x7b' :: (formatWord.toList ++ ['\x7d']) := by decide

/-- A name of which no placeholder can be made. -/
structure Fills (name : String) : Prop where
  nonempty : name ≠ ""
  noOpening : '\x7b' ∉ name.toList
  noClosing : '\x7d' ∉ name.toList
  notInside : ¬name.toList <:+: formatWord.toList

theorem Fills.not_infix_placeholder {name : String} (h : Fills name) :
    ¬name.toList <:+: '\x7b' :: (formatWord.toList ++ ['\x7d']) := by
  intro hinfix
  refine h.notInside (infix_of_infix_marked ?_ h.noOpening h.noClosing hinfix)
  exact fun hnil => h.nonempty (String.toList_inj.mp hnil)

theorem mem_upper_of_isUpper {c : Char} {s : String} (hc : Text.IsUpper c) (h : c ∈ s.toList) :
    c ∈ (Text.upper s).toList := by
  rw [Text.upper, String.toList_ofList]
  exact List.mem_flatMap.mpr ⟨c, h, by rw [hc]; exact List.mem_singleton_self c⟩

theorem fills_of_ofName {name : String} {format : Format} (h : Format.ofName name = .ok format) :
    Fills name := by
  have hupper := Format.ofName_eq_ok_iff.mp h
  have hbraces : ∀ format : Format, '\x7b' ∉ format.name.toList ∧ '\x7d' ∉ format.name.toList := by
    intro format
    cases format <;> decide
  have hforeign : ∀ format : Format, ¬format.name.toList ⊆ formatWord.toList := by
    intro format
    cases format <;> decide
  have hkept {c : Char} (hc : Text.IsUpper c) (hmem : c ∈ name.toList) : c ∈ format.name.toList := by
    rw [← hupper]
    exact mem_upper_of_isUpper hc hmem
  refine ⟨ne_empty_of_upper_eq_name hupper, fun hopen => ?_, fun hclose => ?_, fun hinside => ?_⟩
  · exact (hbraces format).1 (hkept (by decide) hopen)
  · exact (hbraces format).2 (hkept (by decide) hclose)
  · have hcapital : ∀ c ∈ formatWord.toList, Text.IsUpper c := by
      rw [← List.forall_iff_forall_mem]
      decide
    have hsame : Text.upper name = name := by
      rw [Text.upper, Text.flatMap_upperChar_of_isUpper fun c hc => hcapital c (hinside.subset hc),
        String.ofList_toList]
    refine hforeign format ?_
    rw [← hupper, hsame]
    exact hinside.subset

/-- Names of formats in any case make no placeholder, and where such a name is put in the place of the
placeholders of a statement, the texts between them are kept in order, no placeholder is left, and doing
so once more, for any format or none, changes nothing. -/
theorem placeholders_replaced :
    (∀ name format, Format.ofName name = .ok format → Fills name) ∧
    ∀ statement name, Fills name →
      (∃ parts, (∀ other, CutAt placeholder.toList statement.toList other ↔ other = parts) ∧
        (statementFor (some name) statement).toList = name.toList.intercalate parts) ∧
      ¬placeholder.toList <:+: (statementFor (some name) statement).toList ∧
      ∀ format, statementFor format (statementFor (some name) statement) =
        statementFor (some name) statement := by
  have hopening : '\x7b' ∉ formatWord.toList ++ ['\x7d'] := by decide
  refine ⟨fun name format => fills_of_ofName, fun statement name hname => ?_⟩
  obtain ⟨parts, hparts⟩ := CutAt.exists (placeholder_eq ▸ List.cons_ne_nil _ _) statement.toList
  rw [placeholder_eq] at hparts ⊢
  have hresult : (statementFor (some name) statement).toList = name.toList.intercalate parts := by
    rw [statementFor, String.toList_ofList, placeholder_eq]
    exact replaceAll_of_cutAt hopening hparts
  have hgone : ¬('\x7b' :: (formatWord.toList ++ ['\x7d'])) <:+:
      (statementFor (some name) statement).toList := by
    rw [hresult]
    exact not_infix_intercalate hname.noOpening hname.noClosing hname.not_infix_placeholder hparts
  refine ⟨⟨parts, fun other => ⟨hparts.unique hopening, fun h => h ▸ hparts⟩, hresult⟩, hgone, ?_⟩
  intro format
  generalize statementFor (some name) statement = result at hgone
  rw [statementFor, placeholder_eq, replaceAll_of_free hgone, String.ofList_toList]

theorem placeholders_replaced_nested :
    Fills "Json" ∧
    statementFor (some "Json") "\x7bFOR\x7bFORMAT\x7dMAT\x7d" = "\x7bFORJsonMAT\x7d" ∧
    ∀ format, statementFor format "\x7bFORJsonMAT\x7d" = "\x7bFORJsonMAT\x7d" := by
  have hresult : statementFor (some "Json") "\x7bFOR\x7bFORMAT\x7dMAT\x7d" = "\x7bFORJsonMAT\x7d" := by
    decide
  obtain ⟨hnames, hreplaced⟩ := placeholders_replaced
  have hname : Fills "Json" := hnames "Json" .json (by decide)
  obtain ⟨-, -, hagain⟩ := hreplaced "\x7bFOR\x7bFORMAT\x7dMAT\x7d" "Json" hname
  rw [hresult] at hagain
  exact ⟨hname, hresult, hagain⟩

end Suite
end TopicPlan
