import TopicPlan.Proofs.GrammarBounds
import TopicPlan.Proofs.Results

/-! What productions are made of. A production is put together from a few that take one token, from marks
and from keywords; what these parts have in common, every production has. For want of which keywords a
production can fail is told with it: there are few of them, and most productions need none. -/
namespace TopicPlan.Sql
open Reading

/-- The name that a type begins with: quoted on the left, or in upper case on the right. -/
def typeName : Reading (String ⊕ String) :=
  single .type fun token =>
    if token.isWord then .ok (if token.isQuoted then .inl token.text else .inr token.upper)
    else .error .type

theorem typeAt_eq (depth : Nat) :
    typeAt (depth + 1) = seq typeName (Sum.elim (fun name => give (.reference name))
      (typeBody depth)) := by
  rw [typeAt_succ]
  funext tokens
  cases tokens with
  | nil => rfl
  | cons token rest =>
    cases hword : token.isWord with
    | false => simp [seq, typeWord, typeName, single, hword, unexpected, bind, Except.bind]
    | true =>
      cases hquoted : token.isQuoted <;>
        simp [seq, typeWord, typeName, single, hword, hquoted, bind, Except.bind]

/-- How productions are put together. The keywords for want of which they can fail are in `asked`. A
bound that is taken from the number of tokens may as well be any larger one. -/
inductive Production (asked : List String → Prop) : {α : Type} → Reading α → Prop
  | give {α : Type} (x : α) : Production asked (give x)
  | noDecimal {α : Type} (precision scale : Nat) :
      Production asked (refuse (.decimalInvalid precision scale) : Reading α)
  | noType {α : Type} : Production asked (unexpected .type : Reading α)
  | identifier : Production asked identifier
  | integer : Production asked integer
  | stringLiteral : Production asked stringLiteral
  | literal : Production asked literal
  | typeName : Production asked typeName
  | newName (before : List (String × Literal)) (name : String) :
      Production asked (newName before name)
  | seq {α β : Type} {p : Reading α} {q : α → Reading β} (hp : Production asked p)
      (hq : ∀ x, Production asked (q x)) : Production asked (seq p q)
  | mark {α : Type} {q : Reading α} (mark : String) (hmark : isName mark.toList = false)
      (hq : Production asked q) : Production asked (skip (symbol mark) q)
  | angle {α : Type} {q : Reading α} (hq : Production asked q) :
      Production asked (skip closingAngle q)
  | words {α : Type} {q : Reading α} {words : List String} (hwords : asked words)
      (hq : Production asked q) : Production asked (skip (keywords words) q)
  | mark? {α : Type} {p q : Reading α} (mark : String) (hmark : isName mark.toList = false)
      (hp : Production asked p) (hq : Production asked q) :
      Production asked (after (symbol? mark) p q)
  | words? {α : Type} {p q : Reading α} (words : List String) (hp : Production asked p)
      (hq : Production asked q) : Production asked (after (keywords? words) p q)
  | bounded {α : Type} {p : Reading α} {bounded : Nat → Reading α}
      (heq : ∀ {bound : Nat} {tokens : List Token}, tokens.length < bound →
        p tokens = bounded bound tokens)
      (h : ∀ bound, Production asked (bounded bound)) : Production asked p

variable {α β : Type} {asked : List String → Prop}

/-! ### The productions of the grammar -/

theorem production_optionalPhrase (words : List String) : Production asked (optionalPhrase words) :=
  .words? words (.give true) (.give false)

theorem production_named {item : Reading α} (h : Production asked item) :
    Production asked (named item) := by
  rw [named_eq]
  exact .seq .identifier fun _ => .seq h fun _ => .give _

theorem production_commaList {item : Reading α} (h : Production asked item) (bound : Nat) :
    Production asked (commaList item bound) := by
  induction bound with
  | zero =>
    rw [commaList_zero]
    exact .seq h fun _ => .give _
  | succ bound ih =>
    rw [commaList_succ]
    exact .seq h fun _ => .mark? "," (by decide) (.seq ih fun _ => .give _) (.give _)

theorem production_commaSeparated {item : Reading α} (h : Production asked item)
    (hitem : Consumes item) : Production asked (commaSeparated item) :=
  .bounded (fun hlen => commaList_agree (AgreeBelow.refl _ item) hitem (Nat.lt_succ_self _)
    (Nat.le_refl _) (Nat.le_of_lt hlen)) (production_commaList h)

theorem production_decimalParameters : Production asked decimalParameters := by
  rw [decimalParameters_eq]
  refine .mark "(" (by decide) (.seq .integer fun precision => .mark "," (by decide) ?_)
  refine .seq .integer fun scale => .mark ")" (by decide) ?_
  split
  · exact .noDecimal precision scale
  · exact .give _

theorem production_typeBody {depth : Nat} (h : Production asked (typeAt depth)) (name : String) :
    Production asked (typeBody depth name) := by
  unfold typeBody
  split
  · exact .mark "<" (by decide) (.seq h fun _ => .angle (.give _))
  split
  · refine .mark "<" (by decide) (.seq h fun _ => .mark "," (by decide) ?_)
    exact .seq h fun _ => .angle (.give _)
  split
  · refine .mark? "<>" (by decide) (.give _) (.mark "<" (by decide) ?_)
    refine .mark? ">" (by decide) (.give _) ?_
    have hfields := production_commaSeparated (production_named h)
      (named_consumes (typeAt_consumes depth).neverGrows)
    exact .seq hfields fun _ => .angle (.give _)
  split
  · exact production_decimalParameters
  split
  · exact .give _
  split
  · exact .mark? "(" (by decide) (.seq .integer fun _ => .mark ")" (by decide) (.give _)) (.give _)
  · exact .give _

theorem production_typeAt (depth : Nat) : Production asked (typeAt depth) := by
  induction depth with
  | zero =>
    have hzero : typeAt 0 = unexpected .type := by
      funext tokens
      rw [typeAt]
    rw [hzero]
    exact .noType
  | succ depth ih =>
    rw [typeAt_eq]
    refine .seq .typeName fun name => ?_
    cases name with
    | inl name => exact .give _
    | inr name => exact production_typeBody ih name

theorem production_dataType : Production asked dataType :=
  .bounded dataType_eq_typeAt production_typeAt

theorem production_columnConstraint : Production asked columnConstraint := by
  rw [columnConstraint_eq]
  refine .words? _ (.give _) (.words? _ (.give _) (.words? _ (.give _) (.words? _ ?_ (.give _))))
  exact .mark "(" (by decide) (.seq .stringLiteral fun _ => .mark ")" (by decide) (.give _))

theorem production_column : Production asked column := by
  rw [column_eq]
  exact .seq (production_named production_dataType) fun _ =>
    .seq production_columnConstraint fun _ => .give _

theorem production_columns : Production asked columns := by
  rw [columns_eq]
  refine .mark? "(" (by decide) ?_ (.give _)
  exact .seq (production_commaSeparated production_column column_consumes) fun _ =>
    .mark ")" (by decide) (.give _)

theorem production_propertyEntry (before : List (String × Literal)) :
    Production asked (propertyEntry before) := by
  rw [propertyEntry_eq]
  refine .seq .identifier fun _ => .mark "=" (by decide) (.seq (.newName before _) fun _ => ?_)
  exact .seq .literal fun _ => .give _

theorem production_propertyList (before : List (String × Literal)) (bound : Nat) :
    Production asked (propertyList before bound) := by
  induction bound generalizing before with
  | zero =>
    rw [propertyList_zero]
    exact .seq (production_propertyEntry before) fun _ => .mark ")" (by decide) (.give _)
  | succ bound ih =>
    rw [propertyList_succ]
    exact .seq (production_propertyEntry before) fun _ =>
      .mark? "," (by decide) (ih _) (.mark ")" (by decide) (.give _))

theorem production_withClause : Production asked withClause := by
  rw [withClause_eq]
  refine .words? _ (.mark "(" (by decide) ?_) (.give _)
  have hbounded : ∀ {bound : Nat} {tokens : List Token}, tokens.length < bound →
      propertyList [] tokens.length tokens = propertyList [] bound tokens :=
    fun hlen => propertyList_agree (Nat.le_refl _) (Nat.le_of_lt hlen)
  exact .bounded hbounded (production_propertyList [])

/-! ### Statements after their leading words -/

def registrationRest : Reading TypeRegistration :=
  seq (optionalPhrase ["IF", "NOT", "EXISTS"]) fun ifNotExists => seq identifier fun name =>
    skip (keywords ["AS"]) <| seq dataType fun type => give { name, type, ifNotExists }

def declarationRest (orReplace isSource : Bool) : Reading Declaration :=
  seq (optionalPhrase ["IF", "NOT", "EXISTS"]) fun ifNotExists => seq identifier fun name =>
    seq columns fun columns => seq withClause fun literals =>
      give { orReplace, isSource, ifNotExists, name, columns, literals }

theorem production_registrationRest (has : asked ["AS"]) : Production asked registrationRest := by
  refine .seq (production_optionalPhrase _) fun _ => .seq .identifier fun _ => .words has ?_
  exact .seq production_dataType fun _ => .give _

theorem production_declarationRest (orReplace isSource : Bool) :
    Production asked (declarationRest orReplace isSource) := by
  refine .seq (production_optionalPhrase _) fun _ => .seq .identifier fun _ => ?_
  exact .seq production_columns fun _ => .seq production_withClause fun _ => .give _

theorem production_registrationReading (hlead : asked ["REGISTER", "TYPE"]) (has : asked ["AS"]) :
    Production asked registrationReading :=
  .words hlead (production_registrationRest has)

theorem production_declarationReading {kind : SourceKind} (hcreate : asked ["CREATE"])
    (hkind : asked [kind.keyword]) : Production asked (declarationReading kind) :=
  .words hcreate <| .seq (production_optionalPhrase _) fun _ =>
    .seq (production_optionalPhrase _) fun _ => .words hkind (production_declarationRest _ _)

/-! ### Whole statements -/

def whole (p : Reading α) (finish : α → Parsing β) (tokens : List Token) : Parsing β :=
  p tokens >>= fun found => endOfStatement found.2 >>= fun _ => finish found.1

theorem typeRegistration_whole : typeRegistration = whole registrationReading .ok := by
  funext tokens
  exact typeRegistration_eq tokens

theorem source_whole (kind : SourceKind) :
    source kind = whole (declarationReading kind) fun declaration => declaration.source? kind := by
  funext tokens
  exact source_eq kind tokens

theorem whole_congr {p q : Reading α} {finish : α → Parsing β} {tokens others : List Token}
    (h : p tokens = q others) : whole p finish tokens = whole q finish others := by
  rw [whole, whole, h]

theorem whole_of_error {p : Reading α} {finish : α → Parsing β} {tokens : List Token}
    {fault : GrammarFault} (h : p tokens = .error fault) : whole p finish tokens = .error fault := by
  rw [whole, h]
  rfl

theorem error_of_whole {p : Reading α} {finish : α → Parsing β} {tokens : List Token}
    {fault : GrammarFault} (h : whole p finish tokens = .error fault) :
    p tokens = .error fault ∨ (∃ token, fault = .unexpected .endOfStatement token) ∨
      ∃ x, finish x = .error fault := by
  rcases bind_eq_error.mp h with hp | ⟨⟨x, rest⟩, -, hrest⟩
  · exact Or.inl hp
  rcases bind_eq_error.mp hrest with hend | ⟨-, -, hfinish⟩
  · unfold endOfStatement at hend
    split at hend
    · cases hend
    · exact Or.inr (Or.inl ⟨_, (Except.error.inj hend).symm⟩)
  · exact Or.inr (Or.inr ⟨x, hfinish⟩)

/-- A fault of what is declared, which no token is to blame for. -/
def GrammarFault.Declared (fault : GrammarFault) : Prop :=
  (∀ expectation found, fault ≠ .unexpected expectation found) ∧ ∀ n, fault ≠ .numeralTooLong n

theorem checkColumns_declared {kind : SourceKind} {seen : List String} {columns : List Column}
    {fault : GrammarFault} (h : checkColumns kind seen columns = .error fault) : fault.Declared := by
  induction columns generalizing seen with
  | nil => cases h
  | cons column rest ih =>
    unfold checkColumns at h
    split at h
    · cases h
      exact ⟨nofun, nofun⟩
    split at h
    · cases h
      exact ⟨nofun, nofun⟩
    · cases h
      exact ⟨nofun, nofun⟩
    · exact ih h

theorem source?_declared {kind : SourceKind} {declaration : Declaration} {fault : GrammarFault}
    (h : declaration.source? kind = .error fault) : fault.Declared := by
  rcases bind_eq_error.mp h with hcolumns | ⟨-, -, hrest⟩
  · exact checkColumns_declared hcolumns
  rcases bind_eq_error.mp hrest with hproperties | ⟨properties, -, hnone⟩
  · cases hread : Properties.ofLiterals declaration.literals with
    | error error =>
      rw [hread] at hproperties
      cases hproperties
      exact ⟨nofun, nofun⟩
    | ok properties =>
      rw [hread] at hproperties
      cases hproperties
  · cases hnone

/-! ### Keywords that are asked for -/

/-- Tokens that fail for want of keywords do so for want of keywords in `asked`. -/
def AsksOnly (asked : List String → Prop) (p : List Token → Parsing α) : Prop :=
  ∀ ⦃tokens words found⦄, p tokens = .error (.unexpected (.keywords words) found) → asked words

namespace AsksOnly

theorem of_unexpected {expectation : Expectation} (h : ∀ words, expectation ≠ .keywords words) :
    AsksOnly asked (unexpected expectation : List Token → Parsing α) := by
  intro tokens words found herror
  simp only [unexpected, Except.error.injEq, GrammarFault.unexpected.injEq] at herror
  exact absurd herror.1 (h words)

theorem of_single {missing : Expectation} {read : Token → Except Expectation α}
    (hmissing : ∀ words, missing ≠ .keywords words)
    (hread : ∀ token words, read token ≠ .error (.keywords words)) :
    AsksOnly asked (single missing read) := by
  intro tokens words found herror
  cases tokens with
  | nil => exact of_unexpected hmissing herror
  | cons token rest =>
    simp only [single] at herror
    split at herror
    · cases herror
    · next expectation hexpectation =>
      refine of_unexpected (fun words hwords => ?_) herror
      exact hread token words (hwords ▸ hexpectation)

theorem of_look {look : List Token → Option (List Token)} {p : List Token → Parsing (List Token)}
    {expectation : Expectation} (hp : ∀ tokens, p tokens = match look tokens with
      | some rest => .ok rest
      | none => unexpected expectation tokens)
    (h : ∀ words, expectation = .keywords words → asked words) : AsksOnly asked p := by
  intro tokens words found herror
  rw [hp] at herror
  split at herror
  · cases herror
  · simp only [unexpected, Except.error.injEq, GrammarFault.unexpected.injEq] at herror
    exact h words herror.1

theorem seq {p : Reading α} {q : α → Reading β} (hp : AsksOnly asked p)
    (hq : ∀ x, AsksOnly asked (q x)) : AsksOnly asked (seq p q) := by
  intro tokens words found herror
  rcases seq_eq_error.mp herror with hfirst | ⟨x, middle, -, hsecond⟩
  · exact hp hfirst
  · exact hq x hsecond

theorem skip {p : List Token → Parsing (List Token)} {q : Reading α} (hp : AsksOnly asked p)
    (hq : AsksOnly asked q) : AsksOnly asked (skip p q) := by
  intro tokens words found herror
  rcases skip_eq_error.mp herror with hfirst | ⟨middle, -, hsecond⟩
  · exact hp hfirst
  · exact hq hsecond

theorem after {look : List Token → Option (List Token)} {p q : Reading α} (hp : AsksOnly asked p)
    (hq : AsksOnly asked q) : AsksOnly asked (after look p q) := by
  intro tokens words found herror
  unfold Reading.after at herror
  split at herror
  · exact hp herror
  · exact hq herror

theorem symbol (mark : String) : AsksOnly asked (symbol mark) := .of_look (fun _ => rfl) nofun

theorem closingAngle : AsksOnly asked closingAngle := by
  intro tokens words found herror
  unfold Sql.closingAngle at herror
  split at herror
  · cases herror
  · exact AsksOnly.symbol ">" herror

theorem keywords {words : List String} (h : asked words) : AsksOnly asked (keywords words) :=
  .of_look (fun _ => rfl) fun _ hwords => Expectation.keywords.inj hwords ▸ h

theorem identifier : AsksOnly asked identifier := by
  rw [identifier_eq]
  refine .of_single nofun fun token words => ?_
  split <;> nofun

theorem stringLiteral : AsksOnly asked stringLiteral := by
  rw [stringLiteral_eq]
  refine .of_single nofun fun token words => ?_
  split <;> nofun

theorem typeName : AsksOnly asked typeName := by
  refine .of_single nofun fun token words => ?_
  split <;> nofun

theorem integer : AsksOnly asked integer := by
  intro tokens words found herror
  have hmissing : AsksOnly asked (unexpected .integer : Reading Nat) := .of_unexpected nofun
  unfold Sql.integer at herror
  split at herror
  · split at herror
    · split at herror
      · cases herror
      · cases herror
      · exact hmissing herror
    · exact hmissing herror
  · exact hmissing herror

theorem literal : AsksOnly asked literal := by
  have hunsigned (negative : Bool) : AsksOnly asked (unsigned negative) := by
    refine .of_single nofun fun token words => ?_
    split
    · split <;> nofun
    · split
      · nofun
      · split <;> nofun
  intro tokens words found herror
  by_cases hstring : ∃ token rest, tokens = token :: rest ∧ token.kind = .string
  · obtain ⟨token, rest, rfl, hkind⟩ := hstring
    rw [literal_text rest hkind] at herror
    cases herror
  · rw [literal_signed] at herror
    · exact AsksOnly.after (hunsigned true) (hunsigned false) herror
    · cases tokens with
      | nil => nofun
      | cons token rest =>
        rintro _ ⟨⟩ hkind
        exact hstring ⟨token, rest, rfl, hkind⟩

theorem newName (before : List (String × Literal)) (name : String) :
    AsksOnly asked (newName before name) := by
  rw [newName_eq]
  split
  · exact .of_unexpected nofun
  · intro tokens words found herror
    cases herror

end AsksOnly

theorem Production.asksOnly {p : Reading α} (h : Production asked p) : AsksOnly asked p := by
  induction h with
  | give | noDecimal =>
    intro tokens words found herror
    cases herror
  | noType => exact .of_unexpected nofun
  | identifier => exact .identifier
  | integer => exact .integer
  | stringLiteral => exact .stringLiteral
  | literal => exact .literal
  | typeName => exact .typeName
  | newName before name => exact .newName before name
  | seq _ _ hp hq => exact .seq hp hq
  | mark mark _ _ hq => exact .skip (.symbol mark) hq
  | angle _ hq => exact .skip .closingAngle hq
  | words hwords _ hq => exact .skip (.keywords hwords) hq
  | mark? _ _ _ _ hp hq => exact .after hp hq
  | words? _ _ _ hp hq => exact .after hp hq
  | bounded heq _ h =>
    intro tokens words found herror
    rw [heq (Nat.lt_succ_self _)] at herror
    exact h _ herror

theorem AsksOnly.whole {p : Reading α} {finish : α → Parsing β} (hp : AsksOnly asked p)
    (hfinish : ∀ x fault, finish x = .error fault → fault.Declared) :
    AsksOnly asked (whole p finish) := by
  intro tokens words found herror
  rcases error_of_whole herror with hfirst | ⟨token, hend⟩ | ⟨x, hlast⟩
  · exact hp hfirst
  · cases hend
  · exact absurd rfl ((hfinish x _ hlast).1 _ _)

end TopicPlan.Sql
