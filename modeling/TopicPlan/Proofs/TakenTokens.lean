import TopicPlan.Proofs.GrammarRules

/-! The tokens that a production takes. A production is followed through its parts: what each of them
takes is collected on the way, and where two joined angles close one type, the second of them is left
for the type around it. What is collected at the end is as the rule of the production tells. -/
namespace TopicPlan.Sql
open Reading

variable {α β : Type} {spelling : Spelling}

namespace Opens

theorem refl (tokens : List Token) : Opens spelling tokens tokens := by
  induction tokens with
  | nil => exact .nil
  | cons token tokens ih => exact .keep token ih

theorem append_left (taken : List Token) {tokens opened : List Token}
    (h : Opens spelling tokens opened) : Opens spelling (taken ++ tokens) (taken ++ opened) := by
  induction taken with
  | nil => exact h
  | cons token taken ih => exact .keep token ih

theorem of_angle {tokens opened : List Token} (h : Opens spelling (plain ">" :: tokens) opened) :
    ∃ rest, opened = plain ">" :: rest ∧ Opens spelling tokens rest := by
  cases h with
  | keep _ h => exact ⟨_, rfl, h⟩
  | joined hmark h => exact absurd (spelling.text_eq hmark) (by decide)

theorem trans {tokens middle opened : List Token} (h : Opens spelling tokens middle)
    (hmiddle : Opens spelling middle opened) : Opens spelling tokens opened := by
  induction h generalizing opened with
  | nil => exact hmiddle
  | keep token h ih =>
    cases hmiddle with
    | keep _ hrest => exact .keep token (ih hrest)
    | joined hmark hrest => exact .joined hmark (ih hrest)
  | joined hmark h ih =>
    obtain ⟨others, rfl, hothers⟩ := of_angle hmiddle
    obtain ⟨rest, rfl, hrest⟩ := of_angle hothers
    exact .joined hmark (ih hrest)

end Opens

def AllFit (spelling : Spelling) (tokens : List Token) : Prop :=
  ∀ token ∈ tokens, spelling.Fits token

/-- Some tokens are taken, with joined angles opened, and the rest of them is left. -/
structure Leaves (spelling : Spelling) (tokens taken rest : List Token) : Prop where
  fits : AllFit spelling rest
  opens : Opens spelling tokens (taken ++ rest)

theorem Leaves.nil {tokens : List Token} (h : AllFit spelling tokens) :
    Leaves spelling tokens [] tokens := ⟨h, Opens.refl tokens⟩

theorem Leaves.front {taken rest : List Token} (h : AllFit spelling (taken ++ rest)) :
    Leaves spelling (taken ++ rest) taken rest :=
  ⟨(List.forall_mem_append.mp h).2, Opens.refl _⟩

theorem Leaves.single {token : Token} {rest : List Token} (h : AllFit spelling (token :: rest)) :
    Leaves spelling (token :: rest) [token] rest :=
  ⟨(List.forall_mem_cons.mp h).2, Opens.refl _⟩

theorem Leaves.trans {tokens before middle after rest : List Token}
    (h : Leaves spelling tokens before middle) (hthen : Leaves spelling middle after rest) :
    Leaves spelling tokens (before ++ after) rest := by
  refine ⟨hthen.fits, ?_⟩
  rw [List.append_assoc]
  exact h.opens.trans (hthen.opens.append_left before)

/-- What a production takes is as a rule tells of what it reads. -/
def Follows (spelling : Spelling) (p : Reading α) (rule : α → List Token → Prop) : Prop :=
  ∀ ⦃tokens x rest⦄, AllFit spelling tokens → p tokens = .ok (x, rest) →
    ∃ taken, Leaves spelling tokens taken rest ∧ rule x taken

namespace Follows

variable {rule rule' : α → List Token → Prop} {later : β → List Token → Prop}

theorem mono {p : Reading α} (hp : Follows spelling p rule)
    (h : ∀ x taken, rule x taken → rule' x taken) : Follows spelling p rule' := by
  intro tokens x rest hfits hx
  obtain ⟨taken, hleaves, hrule⟩ := hp hfits hx
  exact ⟨taken, hleaves, h x taken hrule⟩

theorem give {x : α} (h : rule x []) : Follows spelling (give x) rule := by
  intro tokens y rest hfits hy
  cases hy
  exact ⟨[], .nil hfits, h⟩

theorem refuse (fault : GrammarFault) : Follows spelling (refuse fault) rule := by
  intro tokens x rest hfits hx
  cases hx

/-- What comes after is to complete the tokens that were taken before it. -/
theorem seq {p : Reading α} {q : α → Reading β} (hp : Follows spelling p rule)
    (hq : ∀ x before, rule x before →
      Follows spelling (q x) fun y after => later y (before ++ after)) :
    Follows spelling (seq p q) later := by
  intro tokens y rest hfits hy
  obtain ⟨x, middle, hx, hthen⟩ := seq_eq_ok.mp hy
  obtain ⟨before, hbefore, hrule⟩ := hp hfits hx
  obtain ⟨after, hafter, hlater⟩ := hq x before hrule hbefore.fits hthen
  exact ⟨before ++ after, hbefore.trans hafter, hlater⟩

theorem skip {p : List Token → Parsing (List Token)} {step : List Token → Prop} {q : Reading β}
    (hp : ∀ ⦃tokens rest⦄, AllFit spelling tokens → p tokens = .ok rest →
      ∃ taken, Leaves spelling tokens taken rest ∧ step taken)
    (hq : ∀ before, step before → Follows spelling q fun y after => later y (before ++ after)) :
    Follows spelling (skip p q) later := by
  intro tokens y rest hfits hy
  obtain ⟨middle, hstep, hthen⟩ := skip_eq_ok.mp hy
  obtain ⟨before, hbefore, hrule⟩ := hp hfits hstep
  obtain ⟨after, hafter, hlater⟩ := hq before hrule hbefore.fits hthen
  exact ⟨before ++ after, hbefore.trans hafter, hlater⟩

theorem after {look : List Token → Option (List Token)} {step : List Token → Prop}
    {p q : Reading α}
    (hlook : ∀ ⦃tokens rest⦄, AllFit spelling tokens → look tokens = some rest →
      ∃ taken, Leaves spelling tokens taken rest ∧ step taken)
    (hp : ∀ before, step before → Follows spelling p fun x after => rule x (before ++ after))
    (hq : Follows spelling q rule) : Follows spelling (after look p q) rule := by
  intro tokens x rest hfits hx
  cases hfound : look tokens with
  | none =>
    rw [after_none hfound] at hx
    exact hq hfits hx
  | some middle =>
    rw [after_some hfound] at hx
    obtain ⟨before, hbefore, hstep⟩ := hlook hfits hfound
    obtain ⟨after, hafter, hrule⟩ := hp before hstep hbefore.fits hx
    exact ⟨before ++ after, hbefore.trans hafter, hrule⟩

/-- A bound that is taken from the tokens plays no part. -/
theorem of_bounded {p : Reading α} (bounded : Nat → Reading α)
    (hp : ∀ tokens, p tokens = bounded tokens.length tokens)
    (h : ∀ bound, Follows spelling (bounded bound) rule) : Follows spelling p rule := by
  intro tokens x rest hfits hx
  rw [hp] at hx
  exact h tokens.length hfits hx

end Follows

def TakesOne (spelling : Spelling) (p : Reading α) (rule : α → Token → Prop) : Prop :=
  Follows spelling p fun x taken => ∃ token, rule x token ∧ taken = [token]

theorem TakesOne.seq {p : Reading α} {q : α → Reading β} {rule : α → Token → Prop}
    {later : β → List Token → Prop} (hp : TakesOne spelling p rule)
    (hq : ∀ x token, rule x token → Follows spelling (q x) fun y after => later y (token :: after)) :
    Follows spelling (Reading.seq p q) later := by
  refine Follows.seq hp fun x before hbefore => ?_
  obtain ⟨token, htoken, rfl⟩ := hbefore
  exact hq x token htoken

theorem takesOne_single (missing : Expectation) (read : Token → Except Expectation α) :
    TakesOne spelling (single missing read) fun x token => read token = .ok x := by
  intro tokens x rest hfits hx
  obtain ⟨token, rfl, hread⟩ := single_eq_ok.mp hx
  exact ⟨[token], .single hfits, token, hread, rfl⟩

section Marks

variable {later : β → List Token → Prop} {mark : String}

def TakesMark (spelling : Spelling) (mark : String) (tokens rest : List Token) : Prop :=
  ∃ taken, Leaves spelling tokens taken rest ∧ ∃ token, spelling.Spells mark token ∧ taken = [token]

theorem symbol?_takesMark (hmark : mark ∈ markTexts) {tokens rest : List Token}
    (hfits : AllFit spelling tokens) (h : symbol? mark tokens = some rest) :
    TakesMark spelling mark tokens rest := by
  obtain ⟨token, rfl, hliteral, htext⟩ := symbol?_eq_some.mp h
  have hspells := hfits token (by simp) mark hmark hliteral htext
  exact ⟨[token], .single hfits, token, hspells, rfl⟩

theorem symbol_takesMark (hmark : mark ∈ markTexts) {tokens rest : List Token}
    (hfits : AllFit spelling tokens) (h : symbol mark tokens = .ok rest) :
    TakesMark spelling mark tokens rest := symbol?_takesMark hmark hfits (symbol_eq_ok.mp h)

theorem fits_angle : spelling.Fits (plain ">") := by
  rintro mark - - rfl
  exact spelling.angle

/-- Of two joined angles one is taken and one is left. -/
theorem closingAngle_takesMark {tokens rest : List Token} (hfits : AllFit spelling tokens)
    (h : closingAngle tokens = .ok rest) : TakesMark spelling ">" tokens rest := by
  rcases closingAngle_eq_ok.mp h with ⟨later, hjoined, rfl⟩ | ⟨-, hangle⟩
  · obtain ⟨token, rfl, hliteral, htext⟩ := symbol?_eq_some.mp hjoined
    obtain ⟨htoken, hrest⟩ := List.forall_mem_cons.mp hfits
    have hspells := htoken ">>" (by decide) hliteral htext
    have hleaves : Leaves spelling _ [plain ">"] (plain ">" :: _) :=
      ⟨List.forall_mem_cons.mpr ⟨fits_angle, hrest⟩, .joined hspells (Opens.refl _)⟩
    exact ⟨_, hleaves, plain ">", spelling.angle, rfl⟩
  · exact symbol?_takesMark (by decide) hfits hangle

theorem Follows.symbol (hmark : mark ∈ markTexts) {q : Reading β}
    (hq : ∀ token, spelling.Spells mark token →
      Follows spelling q fun y after => later y (token :: after)) :
    Follows spelling (Reading.skip (Sql.symbol mark) q) later := by
  refine Follows.skip (fun _ _ hfits h => symbol_takesMark hmark hfits h) fun before hbefore => ?_
  obtain ⟨token, hspells, rfl⟩ := hbefore
  exact hq token hspells

theorem Follows.closingAngle {q : Reading β}
    (hq : ∀ token, spelling.Spells ">" token →
      Follows spelling q fun y after => later y (token :: after)) :
    Follows spelling (Reading.skip Sql.closingAngle q) later := by
  refine Follows.skip (fun _ _ hfits h => closingAngle_takesMark hfits h) fun before hbefore => ?_
  obtain ⟨token, hspells, rfl⟩ := hbefore
  exact hq token hspells

theorem Follows.after_symbol (hmark : mark ∈ markTexts) {p q : Reading β}
    (hp : ∀ token, spelling.Spells mark token →
      Follows spelling p fun y after => later y (token :: after))
    (hq : Follows spelling q later) :
    Follows spelling (Reading.after (symbol? mark) p q) later := by
  refine Follows.after (fun _ _ hfits h => symbol?_takesMark hmark hfits h) (fun before hbefore => ?_) hq
  obtain ⟨token, hspells, rfl⟩ := hbefore
  exact hp token hspells

end Marks

section Words

variable {later : β → List Token → Prop}

theorem keywords?_leaves {words : List String} {tokens rest : List Token}
    (hfits : AllFit spelling tokens) (h : keywords? words tokens = some rest) :
    ∃ taken, Leaves spelling tokens taken rest ∧ SaysWords words taken := by
  have hfront : ∃ taken, tokens = taken ++ rest ∧ SaysWords words taken := by
    induction words generalizing tokens with
    | nil =>
      cases h
      exact ⟨[], rfl, .nil⟩
    | cons word words ih =>
      cases tokens with
      | nil => cases h
      | cons token tokens =>
        simp only [keywords?, afterWords?] at h
        split at h
        · next hword =>
          obtain ⟨taken, rfl, hwords⟩ := ih (List.forall_mem_cons.mp hfits).2 h
          exact ⟨token :: taken, rfl, .cons hword hwords⟩
        · cases h
  obtain ⟨taken, rfl, hwords⟩ := hfront
  exact ⟨taken, .front hfits, hwords⟩

theorem keywords_leaves {words : List String} {tokens rest : List Token}
    (hfits : AllFit spelling tokens) (h : keywords words tokens = .ok rest) :
    ∃ taken, Leaves spelling tokens taken rest ∧ SaysWords words taken :=
  keywords?_leaves hfits (keywords_eq_ok.mp h)

theorem saysWords_single {word : String} {tokens : List Token} :
    SaysWords [word] tokens ↔ ∃ token, token.isKeyword word = true ∧ tokens = [token] := by
  simp [SaysWords, List.forall₂_cons_left_iff]

theorem saysWords_pair {first second : String} {tokens : List Token} :
    SaysWords [first, second] tokens ↔ ∃ token next : Token, token.isKeyword first = true ∧
      next.isKeyword second = true ∧ tokens = [token, next] := by
  simp [SaysWords, List.forall₂_cons_left_iff]

theorem Follows.keyword {word : String} {q : Reading β}
    (hq : ∀ token : Token, token.isKeyword word = true →
      Follows spelling q fun y after => later y (token :: after)) :
    Follows spelling (Reading.skip (keywords [word]) q) later := by
  refine Follows.skip (fun _ _ hfits h => keywords_leaves hfits h) fun before hbefore => ?_
  obtain ⟨token, hword, rfl⟩ := saysWords_single.mp hbefore
  exact hq token hword

theorem Follows.after_keyword {word : String} {p q : Reading β}
    (hp : ∀ token : Token, token.isKeyword word = true →
      Follows spelling p fun y after => later y (token :: after))
    (hq : Follows spelling q later) :
    Follows spelling (Reading.after (keywords? [word]) p q) later := by
  refine Follows.after (fun _ _ hfits h => keywords?_leaves hfits h) (fun before hbefore => ?_) hq
  obtain ⟨token, hword, rfl⟩ := saysWords_single.mp hbefore
  exact hp token hword

theorem follows_optionalPhrase (words : List String) :
    Follows spelling (optionalPhrase words) (SaysPhrase words) := by
  refine Follows.after (fun _ _ hfits h => keywords?_leaves hfits h) (fun before hbefore => ?_) ?_
  · exact .give (by simpa [SaysPhrase] using hbefore)
  · exact .give (by simp [SaysPhrase])

end Words

theorem takesOne_identifier :
    TakesOne spelling identifier fun name token => token.Names name := by
  rw [identifier_eq]
  refine (takesOne_single _ _).mono fun name taken hname => ?_
  obtain ⟨token, hread, rfl⟩ := hname
  refine ⟨token, ?_, rfl⟩
  by_cases hword : token.isWord
  · by_cases hquoted : token.isQuoted
    · obtain rfl : token.text = name := by simpa [hword, hquoted] using hread
      exact .quoted (by simpa [Token.isQuoted] using hquoted)
    · obtain rfl : token.upper = name := by simpa [hword, hquoted] using hread
      exact .unquoted (by simp [Token.isKeyword, hword, hquoted])
  · simp [hword] at hread

theorem takesOne_integer : TakesOne spelling integer fun n token => token.Counts n := by
  intro tokens n rest hfits h
  obtain ⟨token, rfl, hkind, hread⟩ := integer_eq_ok.mp h
  exact ⟨[token], .single hfits, token, ⟨hkind, hread⟩, rfl⟩

theorem takesOne_stringLiteral :
    TakesOne spelling stringLiteral fun text token => token.kind = .string ∧ token.text = text := by
  rw [stringLiteral_eq]
  refine (takesOne_single _ _).mono fun text taken htext => ?_
  obtain ⟨token, hread, rfl⟩ := htext
  refine ⟨token, ?_, rfl⟩
  by_cases hkind : token.kind = .string
  · exact ⟨hkind, by simpa [hkind] using hread⟩
  · simp [hkind] at hread

section Lists

variable {rule : α → List Token → Prop}

theorem follows_commaList {item : Reading α} (hitem : Follows spelling item rule) (bound : Nat) :
    Follows spelling (commaList item bound) (SaysList spelling rule) := by
  induction bound with
  | zero =>
    rw [commaList_zero]
    refine hitem.seq fun x taken hx => .give ?_
    rw [List.append_nil]
    exact .last hx
  | succ bound ih =>
    rw [commaList_succ]
    refine hitem.seq fun x taken hx => Follows.after_symbol (by decide) (fun comma hcomma => ?_) ?_
    · refine ih.seq fun xs rest hxs => .give ?_
      rw [List.append_nil]
      exact .more hx hcomma hxs
    · refine .give ?_
      rw [List.append_nil]
      exact .last hx

theorem follows_commaSeparated {item : Reading α} (hitem : Follows spelling item rule) :
    Follows spelling (commaSeparated item) (SaysList spelling rule) :=
  .of_bounded (commaList item) (fun _ => rfl) (follows_commaList hitem)

end Lists

end TopicPlan.Sql
