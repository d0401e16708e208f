import TopicPlan.Proofs.Readings

/-! The bounds of the grammar never bind. A production leaves no more tokens than it finds, and a type,
a column or a property takes at least one; so the depth to which types are read and the numbers of
commas that lists allow, which are taken from the number of tokens, are always enough. -/
namespace TopicPlan.Sql
open Reading

variable {α β : Type}

/-- What a production leaves is no longer than what it finds. -/
def NeverGrows (p : Reading α) : Prop :=
  ∀ ⦃tokens x rest⦄, p tokens = .ok (x, rest) → rest.length ≤ tokens.length

/-- What a production leaves is shorter than what it finds. -/
def Consumes (p : Reading α) : Prop :=
  ∀ ⦃tokens x rest⦄, p tokens = .ok (x, rest) → rest.length < tokens.length

/-- Two productions do the same to fewer than `n` tokens. -/
def AgreeBelow (n : Nat) (p q : Reading α) : Prop :=
  ∀ ⦃tokens⦄, tokens.length < n → p tokens = q tokens

theorem length_symbol? {spelling : String} {tokens rest : List Token}
    (h : symbol? spelling tokens = some rest) : rest.length < tokens.length := by
  obtain ⟨token, rfl, -⟩ := symbol?_eq_some.mp h
  exact Nat.lt_succ_self _

theorem length_symbol {spelling : String} {tokens rest : List Token}
    (h : symbol spelling tokens = .ok rest) : rest.length < tokens.length :=
  length_symbol? (symbol_eq_ok.mp h)

theorem length_closingAngle {tokens rest : List Token} (h : closingAngle tokens = .ok rest) :
    rest.length ≤ tokens.length := by
  rcases closingAngle_eq_ok.mp h with ⟨later, hjoined, rfl⟩ | ⟨-, hangle⟩
  · exact length_symbol? hjoined
  · exact Nat.le_of_lt (length_symbol? hangle)

theorem length_keywords? {words : List String} {tokens rest : List Token}
    (h : keywords? words tokens = some rest) : rest.length ≤ tokens.length := by
  have hlen := length_of_afterWords? h
  omega

theorem single_consumes (missing : Expectation) (read : Token → Except Expectation α) :
    Consumes (single missing read) := by
  intro tokens x rest h
  obtain ⟨token, rfl, -⟩ := single_eq_ok.mp h
  exact Nat.lt_succ_self _

theorem Consumes.neverGrows {p : Reading α} (h : Consumes p) : NeverGrows p :=
  fun _ _ _ hp => Nat.le_of_lt (h hp)

theorem neverGrows_give (x : α) : NeverGrows (give x) := by
  intro tokens y rest h
  cases h
  exact Nat.le_refl _

theorem neverGrows_refuse (fault : GrammarFault) : NeverGrows (refuse fault : Reading α) := by
  intro tokens y rest h
  cases h

theorem NeverGrows.seq {p : Reading α} {q : α → Reading β} (hp : NeverGrows p)
    (hq : ∀ x, NeverGrows (q x)) : NeverGrows (seq p q) := by
  intro tokens y rest h
  obtain ⟨x, middle, hfirst, hthen⟩ := seq_eq_ok.mp h
  exact Nat.le_trans (hq x hthen) (hp hfirst)

theorem Consumes.seq {p : Reading α} {q : α → Reading β} (hp : Consumes p)
    (hq : ∀ x, NeverGrows (q x)) : Consumes (seq p q) := by
  intro tokens y rest h
  obtain ⟨x, middle, hfirst, hthen⟩ := seq_eq_ok.mp h
  exact Nat.lt_of_le_of_lt (hq x hthen) (hp hfirst)

theorem NeverGrows.skip_symbol {spelling : String} {q : Reading β} (hq : NeverGrows q) :
    NeverGrows (skip (symbol spelling) q) := by
  intro tokens y rest h
  obtain ⟨middle, hfirst, hthen⟩ := skip_eq_ok.mp h
  exact Nat.le_trans (hq hthen) (Nat.le_of_lt (length_symbol hfirst))

theorem NeverGrows.skip_closingAngle {q : Reading β} (hq : NeverGrows q) :
    NeverGrows (skip closingAngle q) := by
  intro tokens y rest h
  obtain ⟨middle, hfirst, hthen⟩ := skip_eq_ok.mp h
  exact Nat.le_trans (hq hthen) (length_closingAngle hfirst)

theorem NeverGrows.after_symbol {spelling : String} {p q : Reading α} (hp : NeverGrows p)
    (hq : NeverGrows q) : NeverGrows (after (symbol? spelling) p q) := by
  intro tokens y rest h
  cases hs : symbol? spelling tokens with
  | none =>
    rw [after_none hs] at h
    exact hq h
  | some middle =>
    rw [after_some hs] at h
    exact Nat.le_trans (hp h) (Nat.le_of_lt (length_symbol? hs))

theorem NeverGrows.after_keywords {words : List String} {p q : Reading α} (hp : NeverGrows p)
    (hq : NeverGrows q) : NeverGrows (after (keywords? words) p q) := by
  intro tokens y rest h
  cases hs : keywords? words tokens with
  | none =>
    rw [after_none hs] at h
    exact hq h
  | some middle =>
    rw [after_some hs] at h
    exact Nat.le_trans (hp h) (length_keywords? hs)

theorem AgreeBelow.refl (n : Nat) (p : Reading α) : AgreeBelow n p p := fun _ _ => rfl

theorem AgreeBelow.seq {n : Nat} {p p' : Reading α} {q q' : α → Reading β}
    (hp : AgreeBelow n p p') (hgrow : NeverGrows p') (hq : ∀ x, AgreeBelow n (q x) (q' x)) :
    AgreeBelow n (seq p q) (seq p' q') := by
  intro tokens hlen
  cases h : p' tokens with
  | error fault => rw [seq_error h, seq_error ((hp hlen).trans h)]
  | ok found =>
    rw [seq_ok h, seq_ok ((hp hlen).trans h)]
    exact hq _ (Nat.lt_of_le_of_lt (hgrow h) hlen)

/-- After a production that takes a token its continuations have to agree on one token less. -/
theorem AgreeBelow.seq_of_consumes {n : Nat} {p : Reading α} {q q' : α → Reading β}
    (hp : Consumes p) (hq : ∀ x, AgreeBelow n (q x) (q' x)) :
    AgreeBelow (n + 1) (Reading.seq p q) (Reading.seq p q') := by
  intro tokens hlen
  cases h : p tokens with
  | error fault => rw [seq_error h, seq_error h]
  | ok found =>
    rw [seq_ok h, seq_ok h]
    have hlt := hp h
    exact hq _ (by omega)

theorem AgreeBelow.skip {n : Nat} {p : List Token → Parsing (List Token)} {q q' : Reading β}
    (hp : ∀ ⦃tokens rest⦄, p tokens = .ok rest → rest.length ≤ tokens.length)
    (hq : AgreeBelow n q q') : AgreeBelow n (skip p q) (skip p q') := by
  intro tokens hlen
  cases h : p tokens with
  | error fault => rw [skip_error h, skip_error h]
  | ok middle =>
    rw [skip_ok h, skip_ok h]
    exact hq (Nat.lt_of_le_of_lt (hp h) hlen)

theorem AgreeBelow.skip_symbol {n : Nat} {spelling : String} {q q' : Reading β}
    (hq : AgreeBelow n q q') :
    AgreeBelow n (Reading.skip (symbol spelling) q) (Reading.skip (symbol spelling) q') :=
  AgreeBelow.skip (fun _ _ h => Nat.le_of_lt (length_symbol h)) hq

theorem AgreeBelow.after_symbol {n : Nat} {spelling : String} {p p' q q' : Reading α}
    (hp : AgreeBelow n p p') (hq : AgreeBelow n q q') :
    AgreeBelow n (after (symbol? spelling) p q) (after (symbol? spelling) p' q') := by
  intro tokens hlen
  cases h : symbol? spelling tokens with
  | none =>
    rw [after_none h, after_none h]
    exact hq hlen
  | some middle =>
    rw [after_some h, after_some h]
    exact hp (Nat.lt_trans (length_symbol? h) hlen)

theorem identifier_consumes : Consumes identifier := by
  rw [identifier_eq]
  exact single_consumes _ _

theorem integer_consumes : Consumes integer := by
  intro tokens n rest h
  obtain ⟨token, rfl, -, -⟩ := integer_eq_ok.mp h
  exact Nat.lt_succ_self _

theorem typeWord_consumes : Consumes typeWord := single_consumes _ _

theorem named_consumes {item : Reading α} (h : NeverGrows item) : Consumes (named item) := by
  rw [named_eq]
  exact identifier_consumes.seq fun _ => h.seq fun _ => neverGrows_give _

theorem commaList_consumes {item : Reading α} (h : Consumes item) (bound : Nat) :
    Consumes (commaList item bound) := by
  induction bound with
  | zero =>
    rw [commaList_zero]
    exact h.seq fun _ => neverGrows_give _
  | succ bound ih =>
    rw [commaList_succ]
    refine h.seq fun _ => NeverGrows.after_symbol ?_ (neverGrows_give _)
    exact ih.neverGrows.seq fun _ => neverGrows_give _

theorem commaSeparated_neverGrows {item : Reading α} (h : Consumes item) :
    NeverGrows (commaSeparated item) :=
  fun tokens _ _ hp => (commaList_consumes h tokens.length).neverGrows hp

theorem decimalParameters_neverGrows : NeverGrows decimalParameters := by
  rw [decimalParameters_eq]
  refine NeverGrows.skip_symbol (integer_consumes.neverGrows.seq fun precision => ?_)
  refine NeverGrows.skip_symbol (integer_consumes.neverGrows.seq fun scale => ?_)
  refine NeverGrows.skip_symbol ?_
  split
  · exact neverGrows_refuse _
  · exact neverGrows_give _

theorem typeBody_neverGrows {depth : Nat} (h : Consumes (typeAt depth)) (name : String) :
    NeverGrows (typeBody depth name) := by
  unfold typeBody
  split
  · exact NeverGrows.skip_symbol (h.neverGrows.seq fun _ =>
      NeverGrows.skip_closingAngle (neverGrows_give _))
  split
  · exact NeverGrows.skip_symbol (h.neverGrows.seq fun _ => NeverGrows.skip_symbol
      (h.neverGrows.seq fun _ => NeverGrows.skip_closingAngle (neverGrows_give _)))
  split
  · refine NeverGrows.after_symbol (neverGrows_give _) (NeverGrows.skip_symbol ?_)
    refine NeverGrows.after_symbol (neverGrows_give _) ?_
    exact (commaSeparated_neverGrows (named_consumes h.neverGrows)).seq fun _ =>
      NeverGrows.skip_closingAngle (neverGrows_give _)
  split
  · exact decimalParameters_neverGrows
  split
  · exact neverGrows_give _
  · split
    · exact NeverGrows.after_symbol (integer_consumes.neverGrows.seq fun _ =>
        NeverGrows.skip_symbol (neverGrows_give _)) (neverGrows_give _)
    · exact neverGrows_give _

theorem typeAt_consumes (depth : Nat) : Consumes (typeAt depth) := by
  induction depth with
  | zero =>
    intro tokens x rest h
    cases h
  | succ depth ih =>
    rw [typeAt_succ]
    refine typeWord_consumes.seq fun token => ?_
    split
    · exact neverGrows_give _
    · exact typeBody_neverGrows ih _

theorem commaList_agree {item item' : Reading α} {n : Nat} (h : AgreeBelow n item item')
    (hitem : Consumes item') {bound bound' : Nat} {tokens : List Token} (hlen : tokens.length < n)
    (hbound : tokens.length ≤ bound) (hbound' : tokens.length ≤ bound') :
    commaList item bound tokens = commaList item' bound' tokens := by
  induction bound generalizing bound' tokens with
  | zero =>
    have hnil : tokens = [] := List.length_eq_zero_iff.mp (Nat.le_zero.mp hbound)
    subst hnil
    cases hfirst : item' [] with
    | ok found => exact absurd (hitem hfirst) (Nat.not_lt_zero _)
    | error fault =>
      have hfirst' : item [] = .error fault := (h hlen).trans hfirst
      rw [commaList_zero, seq_error hfirst']
      cases bound' with
      | zero => rw [commaList_zero, seq_error hfirst]
      | succ bound' => rw [commaList_succ, seq_error hfirst]
  | succ bound ih =>
    cases hfirst : item' tokens with
    | error fault =>
      have hfirst' : item tokens = .error fault := (h hlen).trans hfirst
      rw [commaList_succ, seq_error hfirst']
      cases bound' with
      | zero => rw [commaList_zero, seq_error hfirst]
      | succ bound' => rw [commaList_succ, seq_error hfirst]
    | ok found =>
      have hless := hitem hfirst
      have hfirst' : item tokens = .ok (found.1, found.2) := (h hlen).trans hfirst
      cases bound' with
      | zero => omega
      | succ bound' =>
        rw [commaList_succ, commaList_succ, seq_ok hfirst', seq_ok hfirst]
        cases hs : symbol? "," found.2 with
        | none => rw [after_none hs, after_none hs]
        | some rest =>
          have hrest := length_symbol? hs
          have hmore : commaList item bound rest = commaList item' bound' rest :=
            ih (by omega) (by omega) (by omega)
          rw [after_some hs, after_some hs, seq, seq, hmore]

theorem commaSeparated_agree {item item' : Reading α} {n : Nat} (h : AgreeBelow n item item')
    (hitem : Consumes item') : AgreeBelow n (commaSeparated item) (commaSeparated item') :=
  fun _ hlen => commaList_agree h hitem hlen (Nat.le_refl _) (Nat.le_refl _)

theorem typeBody_agree {n depth depth' : Nat} (h : AgreeBelow n (typeAt depth) (typeAt depth'))
    (name : String) : AgreeBelow n (typeBody depth name) (typeBody depth' name) := by
  have hgrow := (typeAt_consumes depth').neverGrows
  have hnamed : AgreeBelow n (named (typeAt depth)) (named (typeAt depth')) := by
    rw [named_eq, named_eq]
    exact (AgreeBelow.refl n _).seq identifier_consumes.neverGrows fun _ =>
      h.seq hgrow fun _ => AgreeBelow.refl n _
  have hclose {x : DataType} :
      AgreeBelow n (skip closingAngle (give x)) (skip closingAngle (give x)) := AgreeBelow.refl n _
  unfold typeBody
  split
  · exact AgreeBelow.skip_symbol (h.seq hgrow fun _ => hclose)
  split
  · exact AgreeBelow.skip_symbol (h.seq hgrow fun _ => AgreeBelow.skip_symbol
      (h.seq hgrow fun _ => hclose))
  split
  · refine AgreeBelow.after_symbol (AgreeBelow.refl n _) (AgreeBelow.skip_symbol ?_)
    refine AgreeBelow.after_symbol (AgreeBelow.refl n _) ?_
    exact (commaSeparated_agree hnamed (named_consumes hgrow)).seq
      (commaSeparated_neverGrows (named_consumes hgrow)) fun _ => hclose
  · exact AgreeBelow.refl n _

/-- Types are read alike at all depths that are greater than the number of tokens. -/
theorem typeAt_agree {n depth depth' : Nat} (h : n ≤ depth) (h' : n ≤ depth') :
    AgreeBelow n (typeAt depth) (typeAt depth') := by
  induction n generalizing depth depth' with
  | zero =>
    intro tokens hlen
    exact absurd hlen (Nat.not_lt_zero _)
  | succ n ih =>
    obtain ⟨depth, rfl⟩ := Nat.exists_eq_add_of_lt h
    obtain ⟨depth', rfl⟩ := Nat.exists_eq_add_of_lt h'
    rw [typeAt_succ, typeAt_succ]
    refine AgreeBelow.seq_of_consumes typeWord_consumes fun token => ?_
    split
    · exact AgreeBelow.refl n _
    · exact typeBody_agree (ih (Nat.le_add_right n depth) (Nat.le_add_right n depth')) _

theorem dataType_eq_typeAt {depth : Nat} {tokens : List Token} (h : tokens.length < depth) :
    dataType tokens = typeAt depth tokens :=
  typeAt_agree (Nat.le_refl _) h (Nat.lt_succ_self _)

theorem dataType_consumes : Consumes dataType := fun tokens _ _ h =>
  typeAt_consumes (tokens.length + 1) h

theorem literal_consumes : Consumes literal := by
  intro tokens value rest h
  by_cases htext : ∀ token ∈ tokens.head?, token.kind ≠ .string
  · rw [literal_signed htext] at h
    cases hs : symbol? "-" tokens with
    | none =>
      rw [after_none hs] at h
      exact single_consumes _ _ h
    | some middle =>
      rw [after_some hs] at h
      exact Nat.lt_trans (single_consumes _ _ h) (length_symbol? hs)
  · cases tokens with
    | nil => simp at htext
    | cons token tokens =>
      rw [literal_text tokens (by simpa using htext)] at h
      cases h
      simp

theorem newName_neverGrows (before : List (String × Literal)) (name : String) :
    NeverGrows (newName before name) := by
  rw [newName_eq]
  split
  · intro tokens found rest h
    cases h
  · exact neverGrows_give name

theorem propertyEntry_consumes (before : List (String × Literal)) :
    Consumes (propertyEntry before) := by
  rw [propertyEntry_eq]
  refine identifier_consumes.seq fun name => NeverGrows.skip_symbol ?_
  exact (newName_neverGrows before _).seq fun _ =>
    literal_consumes.neverGrows.seq fun _ => neverGrows_give _

theorem propertyList_agree {bound bound' : Nat} {before : List (String × Literal)}
    {tokens : List Token} (hbound : tokens.length ≤ bound) (hbound' : tokens.length ≤ bound') :
    propertyList before bound tokens = propertyList before bound' tokens := by
  induction bound generalizing bound' before tokens with
  | zero =>
    have hnil : tokens = [] := List.length_eq_zero_iff.mp (Nat.le_zero.mp hbound)
    subst hnil
    cases bound' with
    | zero => rfl
    | succ bound' => rfl
  | succ bound ih =>
    cases bound' with
    | zero =>
      have hnil : tokens = [] := List.length_eq_zero_iff.mp (Nat.le_zero.mp hbound')
      subst hnil
      rfl
    | succ bound' =>
      rw [propertyList_succ, propertyList_succ]
      cases hentry : propertyEntry before tokens with
      | error fault => rw [seq_error hentry, seq_error hentry]
      | ok found =>
        have hless := propertyEntry_consumes before hentry
        rw [seq_ok hentry, seq_ok hentry]
        cases hs : symbol? "," found.2 with
        | none => rw [after_none hs, after_none hs]
        | some rest =>
          have hrest := length_symbol? hs
          rw [after_some hs, after_some hs]
          exact ih (by omega) (by omega)

theorem columnConstraint_neverGrows : NeverGrows columnConstraint := by
  rw [columnConstraint_eq]
  have hstring : NeverGrows stringLiteral := by
    rw [stringLiteral_eq]
    exact (single_consumes _ _).neverGrows
  refine NeverGrows.after_keywords (neverGrows_give _) ?_
  refine NeverGrows.after_keywords (neverGrows_give _) ?_
  refine NeverGrows.after_keywords (neverGrows_give _) ?_
  refine NeverGrows.after_keywords (NeverGrows.skip_symbol ?_) (neverGrows_give _)
  exact hstring.seq fun _ => NeverGrows.skip_symbol (neverGrows_give _)

theorem column_consumes : Consumes column := by
  rw [column_eq]
  exact (named_consumes dataType_consumes.neverGrows).seq fun _ =>
    columnConstraint_neverGrows.seq fun _ => neverGrows_give _

end TopicPlan.Sql
