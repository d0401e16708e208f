import TopicPlan.Sql.Grammar

/-! The grammar as productions in sequence. Every production of the grammar equals one that is put
together from a few ways to go on, so that what holds of the parts and is kept by each way to go on
holds of whole statements. -/
namespace TopicPlan.Sql

/-- A production: it takes tokens from the front and leaves the rest. -/
abbrev Reading (α : Type) := List Token → Parsing (α × List Token)

namespace Reading

variable {α β : Type}

def give (x : α) : Reading α := fun tokens => .ok (x, tokens)

def refuse (fault : GrammarFault) : Reading α := fun _ => .error fault

/-- Goes on with what the first production leaves. -/
def seq (p : Reading α) (q : α → Reading β) : Reading β := fun tokens =>
  p tokens >>= fun found => q found.1 found.2

/-- Goes on after tokens that have no value. -/
def skip (p : List Token → Parsing (List Token)) (q : Reading β) : Reading β := fun tokens =>
  p tokens >>= q

/-- Goes on after what `look` finds at the front, and otherwise from the front itself. -/
def after (look : List Token → Option (List Token)) (p q : Reading α) : Reading α := fun tokens =>
  match look tokens with
  | some rest => p rest
  | none => q tokens

/-- Takes one token, or says what the grammar asks for in its place. -/
def single (missing : Expectation) (read : Token → Except Expectation α) : Reading α
  | [] => unexpected missing []
  | token :: rest =>
    match read token with
    | .ok x => .ok (x, rest)
    | .error expectation => unexpected expectation (token :: rest)

theorem single_eq_ok {missing : Expectation} {read : Token → Except Expectation α}
    {tokens rest : List Token} {x : α} :
    single missing read tokens = .ok (x, rest) ↔
      ∃ token, tokens = token :: rest ∧ read token = .ok x := by
  cases tokens with
  | nil => simp [single, unexpected]
  | cons token later =>
    constructor
    · intro h
      simp only [single] at h
      split at h
      · next hread =>
        cases h
        exact ⟨token, rfl, hread⟩
      · cases h
    · rintro ⟨_, ⟨⟩, hread⟩
      simp only [single, hread]

@[simp] theorem give_apply (x : α) (tokens : List Token) : give x tokens = .ok (x, tokens) := rfl

theorem seq_ok {p : Reading α} {q : α → Reading β} {tokens rest : List Token} {x : α}
    (h : p tokens = .ok (x, rest)) : seq p q tokens = q x rest := by
  rw [seq, h]
  rfl

theorem seq_error {p : Reading α} {q : α → Reading β} {tokens : List Token} {fault : GrammarFault}
    (h : p tokens = .error fault) : seq p q tokens = .error fault := by
  rw [seq, h]
  rfl

theorem skip_ok {p : List Token → Parsing (List Token)} {q : Reading β} {tokens rest : List Token}
    (h : p tokens = .ok rest) : skip p q tokens = q rest := by
  rw [skip, h]
  rfl

theorem skip_error {p : List Token → Parsing (List Token)} {q : Reading β} {tokens : List Token}
    {fault : GrammarFault} (h : p tokens = .error fault) : skip p q tokens = .error fault := by
  rw [skip, h]
  rfl

/-- A sequence succeeds exactly when its parts do, one after the other. -/
theorem seq_eq_ok {p : Reading α} {q : α → Reading β} {tokens rest : List Token} {y : β} :
    seq p q tokens = .ok (y, rest) ↔
      ∃ x middle, p tokens = .ok (x, middle) ∧ q x middle = .ok (y, rest) := by
  cases h : p tokens with
  | error fault => simp [seq_error h]
  | ok found =>
    rw [seq_ok h]
    constructor
    · intro hq
      exact ⟨found.1, found.2, rfl, hq⟩
    · rintro ⟨x, middle, ⟨⟩, hq⟩
      exact hq

theorem seq_eq_error {p : Reading α} {q : α → Reading β} {tokens : List Token}
    {fault : GrammarFault} :
    seq p q tokens = .error fault ↔
      p tokens = .error fault ∨ ∃ x middle, p tokens = .ok (x, middle) ∧ q x middle = .error fault := by
  cases h : p tokens with
  | error other => simp [seq_error h]
  | ok found =>
    rw [seq_ok h]
    constructor
    · intro hq
      exact Or.inr ⟨found.1, found.2, rfl, hq⟩
    · rintro (he | ⟨x, middle, ⟨⟩, hq⟩)
      · cases he
      · exact hq

theorem skip_eq_ok {p : List Token → Parsing (List Token)} {q : Reading β}
    {tokens rest : List Token} {y : β} :
    skip p q tokens = .ok (y, rest) ↔ ∃ middle, p tokens = .ok middle ∧ q middle = .ok (y, rest) := by
  cases h : p tokens with
  | error fault => simp [skip_error h]
  | ok middle => simp [skip_ok h]

theorem skip_eq_error {p : List Token → Parsing (List Token)} {q : Reading β} {tokens : List Token}
    {fault : GrammarFault} :
    skip p q tokens = .error fault ↔
      p tokens = .error fault ∨ ∃ middle, p tokens = .ok middle ∧ q middle = .error fault := by
  cases h : p tokens with
  | error other => simp [skip_error h]
  | ok middle => simp [skip_ok h]

theorem after_some {look : List Token → Option (List Token)} {p q : Reading α}
    {tokens rest : List Token} (h : look tokens = some rest) : after look p q tokens = p rest := by
  simp [after, h]

theorem after_none {look : List Token → Option (List Token)} {p q : Reading α}
    {tokens : List Token} (h : look tokens = none) : after look p q tokens = q tokens := by
  simp [after, h]

end Reading

open Reading

theorem symbol?_eq_some {mark : String} {tokens rest : List Token} :
    symbol? mark tokens = some rest ↔
      ∃ token, tokens = token :: rest ∧ token.isLiteral = false ∧ token.text = mark := by
  cases tokens with
  | nil => simp [symbol?]
  | cons token later => simp [symbol?, and_comm, and_assoc]

theorem symbol_eq_ok {mark : String} {tokens rest : List Token} :
    symbol mark tokens = .ok rest ↔ symbol? mark tokens = some rest := by
  unfold symbol
  cases symbol? mark tokens <;> simp [unexpected]

theorem keywords_eq_ok {words : List String} {tokens rest : List Token} :
    keywords words tokens = .ok rest ↔ keywords? words tokens = some rest := by
  unfold keywords
  cases keywords? words tokens <;> simp [unexpected]

theorem closingAngle_eq_ok {tokens rest : List Token} :
    closingAngle tokens = .ok rest ↔
      (∃ later, symbol? ">>" tokens = some later ∧ rest = ⟨.plain, ">"⟩ :: later) ∨
      symbol? ">>" tokens = none ∧ symbol? ">" tokens = some rest := by
  unfold closingAngle
  cases symbol? ">>" tokens with
  | none => simp [symbol_eq_ok]
  | some later => simp [eq_comm]

def optionalPhrase (words : List String) : Reading Bool :=
  after (keywords? words) (give true) (give false)

def typeWord : Reading Token :=
  single .type fun token => if token.isWord then .ok token else .error .type

def typeBody (depth : Nat) (name : String) : Reading DataType :=
  if name = "ARRAY" then
    skip (symbol "<") <| seq (typeAt depth) fun item => skip closingAngle <| give (.array item)
  else if name = "MAP" then
    skip (symbol "<") <| seq (typeAt depth) fun key => skip (symbol ",") <|
      seq (typeAt depth) fun value => skip closingAngle <| give (.map key value)
  else if name = "STRUCT" then
    after (symbol? "<>") (give (.struct [])) <| skip (symbol "<") <|
      after (symbol? ">") (give (.struct [])) <|
        seq (commaSeparated (named (typeAt depth))) fun fields => skip closingAngle <|
          give (.struct fields)
  else if name = "DECIMAL" then decimalParameters
  else match BaseType.ofKeyword? name with
    | none => give (.reference name)
    | some base =>
      if name = "VARCHAR" then
        after (symbol? "(") (seq integer fun _ => skip (symbol ")") <| give (.base base))
          (give (.base base))
      else give (.base base)

theorem identifier_eq :
    identifier = single .identifier fun token =>
      if token.isWord then .ok (if token.isQuoted then token.text else token.upper)
      else .error .identifier := by
  funext tokens
  cases tokens with
  | nil => rfl
  | cons token rest => by_cases h : token.isWord <;> simp [identifier, single, h]

theorem stringLiteral_eq :
    stringLiteral = single .stringLiteral fun token =>
      if token.kind == .string then .ok token.text else .error .stringLiteral := by
  funext tokens
  cases tokens with
  | nil => rfl
  | cons token rest => by_cases h : token.kind == .string <;> simp [stringLiteral, single, h]

theorem integer_eq_ok {tokens rest : List Token} {n : Nat} :
    integer tokens = .ok (n, rest) ↔ ∃ token, tokens = token :: rest ∧ token.kind = .number ∧
      Text.readNat token.text.toList = .ok n := by
  constructor
  · intro h
    cases tokens with
    | nil => cases h
    | cons token tokens =>
      by_cases hkind : token.kind = .number
      · cases hread : Text.readNat token.text.toList with
        | ok value =>
          simp only [integer, hkind, hread, beq_self_eq_true, if_true, Except.ok.injEq,
            Prod.mk.injEq] at h
          exact ⟨token, by rw [h.2], hkind, by rw [hread, h.1]⟩
        | error error => cases error <;> simp [integer, hkind, hread, unexpected] at h
      · simp [integer, hkind, unexpected] at h
  · rintro ⟨token, rfl, hkind, hread⟩
    simp [integer, hkind, hread]

theorem named_eq {α : Type} (item : Reading α) :
    named item = seq identifier fun name => seq item fun value => give (name, value) := rfl

theorem commaList_zero {α : Type} (item : Reading α) :
    commaList item 0 = seq item fun first => give [first] := rfl

theorem commaList_succ {α : Type} (item : Reading α) (bound : Nat) :
    commaList item (bound + 1) = seq item fun first =>
      after (symbol? ",") (seq (commaList item bound) fun more => give (first :: more))
        (give [first]) := by
  funext tokens
  cases h : item tokens with
  | error fault => rw [commaList, seq_error h, h]; rfl
  | ok found =>
    obtain ⟨first, rest⟩ := found
    rw [commaList, seq_ok h, h]
    cases hc : symbol? "," rest with
    | none =>
      rw [after_none hc]
      simp only [bind, Except.bind, hc]
      rfl
    | some middle =>
      rw [after_some hc]
      simp only [bind, Except.bind, hc]
      rfl

theorem decimalParameters_eq :
    decimalParameters = skip (symbol "(") (seq integer fun precision => skip (symbol ",") <|
      seq integer fun scale => skip (symbol ")") <|
        if precision < 1 ∨ precision < scale then refuse (.decimalInvalid precision scale)
        else give (.decimal precision scale)) := by
  have hlast : ∀ precision scale : Nat, (fun tokens => do
      if precision < 1 ∨ precision < scale then throw (.decimalInvalid precision scale)
      return (.decimal precision scale, tokens)) =
      (if precision < 1 ∨ precision < scale then refuse (.decimalInvalid precision scale)
        else give (.decimal precision scale) : Reading DataType) := by
    intro precision scale
    split <;> rfl
  simp only [← hlast]
  rfl

theorem typeAt_unquoted (depth : Nat) {token : Token} (rest : List Token)
    (hword : token.isWord = true) (hquoted : token.isQuoted = false) :
    typeAt (depth + 1) (token :: rest) = typeBody depth token.upper rest := by
  simp only [typeAt, hword, hquoted, Bool.not_true, Bool.false_eq_true, if_false, typeBody]
  split
  · rfl
  split
  · rfl
  split
  · simp only [after, skip]
    cases symbol? "<>" rest with
    | some rest => rfl
    | none =>
      show (symbol "<" rest >>= _) = symbol "<" rest >>= _
      congr 1
  split
  · rfl
  cases BaseType.ofKeyword? token.upper with
  | none => rfl
  | some base =>
    by_cases hv : token.upper = "VARCHAR"
    · simp only [hv, if_true, after]
      cases symbol? "(" rest <;> rfl
    · simp only [hv, if_false]
      split
      · next hname _ => exact absurd hname hv
      · rfl

theorem typeAt_succ (depth : Nat) :
    typeAt (depth + 1) = seq typeWord fun token =>
      if token.isQuoted then give (.reference token.text) else typeBody depth token.upper := by
  funext tokens
  cases tokens with
  | nil => rfl
  | cons token rest =>
    cases hw : token.isWord with
    | false =>
      have hword : typeWord (token :: rest) = unexpected .type (token :: rest) := by
        simp [typeWord, single, hw]
      rw [seq_error hword, typeAt, hw]
      rfl
    | true =>
      have hword : typeWord (token :: rest) = .ok (token, rest) := by simp [typeWord, single, hw]
      rw [seq_ok hword]
      cases hq : token.isQuoted with
      | true => simp [typeAt, hw, hq]
      | false => exact typeAt_unquoted depth rest hw hq

theorem columnConstraint_eq :
    columnConstraint = after (keywords? ["PRIMARY", "KEY"]) (give .primaryKey) (
      after (keywords? ["KEY"]) (give .key) (after (keywords? ["HEADERS"]) (give .headers) (
        after (keywords? ["HEADER"]) (skip (symbol "(") <| seq stringLiteral fun key =>
          skip (symbol ")") <| give (.header key)) (give .none)))) := by
  funext tokens
  unfold columnConstraint after
  cases keywords? ["PRIMARY", "KEY"] tokens with
  | some rest => rfl
  | none =>
    cases keywords? ["KEY"] tokens with
    | some rest => rfl
    | none =>
      cases keywords? ["HEADERS"] tokens with
      | some rest => rfl
      | none => cases keywords? ["HEADER"] tokens <;> rfl

/-- What a token is worth as a property value after a sign, or without one. -/
def unsigned (negative : Bool) : Reading Literal := single .literal fun token =>
  if token.kind == .number then
    match numberOf? token.text.toList with
    | some value => .ok (if negative then value.neg else value)
    | none => .error .readableNumber
  else if !negative && token.isKeyword "TRUE" then .ok (.bool true)
  else if !negative && token.isKeyword "FALSE" then .ok (.bool false)
  else .error .literal

theorem literal_text {token : Token} (rest : List Token) (h : token.kind = .string) :
    literal (token :: rest) = .ok (.text token.text, rest) := by
  simp [literal, h]

theorem literal_signed {tokens : List Token} (h : ∀ token ∈ tokens.head?, token.kind ≠ .string) :
    literal tokens = after (symbol? "-") (unsigned true) (unsigned false) tokens := by
  have hunsigned : ∀ (negative : Bool) (tokens : List Token), unsigned negative tokens =
      (match tokens with
      | [] => unexpected .literal []
      | token :: rest =>
        if token.kind == .number then
          match numberOf? token.text.toList with
          | some value => .ok (if negative then value.neg else value, rest)
          | none => unexpected .readableNumber tokens
        else if !negative && token.isKeyword "TRUE" then .ok (.bool true, rest)
        else if !negative && token.isKeyword "FALSE" then .ok (.bool false, rest)
        else unexpected .literal tokens) := by
    intro negative tokens
    cases tokens with
    | nil => rfl
    | cons token rest =>
      simp only [unsigned, single]
      by_cases hn : token.kind == .number
      · cases numberOf? token.text.toList <;> simp [hn]
      · by_cases ht : (!negative && token.isKeyword "TRUE") = true
        · simp [hn, ht]
        · by_cases hf : (!negative && token.isKeyword "FALSE") = true <;> simp [hn, ht, hf]
  cases tokens with
  | nil => rfl
  | cons first rest =>
    have hfirst : (first.kind == .string) = false := by simpa using h first rfl
    unfold literal after
    simp only [hfirst, Bool.false_eq_true, if_false]
    cases symbol? "-" (first :: rest) with
    | some rest => exact (hunsigned true rest).symm
    | none => exact (hunsigned false (first :: rest)).symm

theorem column_eq :
    column = seq (named dataType) fun entry => seq columnConstraint fun constraint =>
      give ⟨entry.1, entry.2, constraint⟩ := rfl

theorem columns_eq :
    columns = after (symbol? "(") (seq (commaSeparated column) fun columns => skip (symbol ")") <|
      give columns) (give []) := by
  funext tokens
  unfold columns after
  cases symbol? "(" tokens <;> rfl

def newName (before : List (String × Literal)) (name : String) : Reading String := fun tokens =>
  if before.any fun entry => entry.1 = name then unexpected (.newProperty name) tokens
  else .ok (name, tokens)

theorem newName_eq (before : List (String × Literal)) (name : String) :
    newName before name =
      if name ∈ before.map (·.1) then unexpected (.newProperty name) else give name := by
  have hany : (before.any fun entry => entry.1 = name) = true ↔ name ∈ before.map (·.1) := by
    simp
  funext tokens
  rw [newName]
  by_cases h : name ∈ before.map (·.1)
  · rw [if_pos h, if_pos (hany.mpr h)]
  · rw [if_neg h, if_neg (mt hany.mp h), give_apply]

theorem propertyEntry_eq (before : List (String × Literal)) :
    propertyEntry before = seq identifier fun name => skip (symbol "=") <|
      seq (newName before (Text.upper name)) fun name => seq literal fun value =>
        give (name, value) := by
  have hlast : ∀ name : String, (fun tokens =>
      if before.any fun entry => entry.1 = name then unexpected (.newProperty name) tokens
      else literal tokens >>= fun found => pure ((name, found.1), found.2)) =
      seq (newName before name) fun name => seq literal fun value => give (name, value) := by
    intro name
    funext tokens
    cases hn : before.any (fun entry => entry.1 = name) with
    | true => simp only [seq, newName, hn]; rfl
    | false => simp only [seq, newName, hn]; rfl
  simp only [← hlast]
  rfl

theorem propertyList_zero (before : List (String × Literal)) :
    propertyList before 0 = seq (propertyEntry before) fun entry => skip (symbol ")") <|
      give (before ++ [entry]) := rfl

theorem propertyList_succ (before : List (String × Literal)) (bound : Nat) :
    propertyList before (bound + 1) = seq (propertyEntry before) fun entry =>
      after (symbol? ",") (propertyList (before ++ [entry]) bound)
        (skip (symbol ")") <| give (before ++ [entry])) := by
  funext tokens
  cases h : propertyEntry before tokens with
  | error fault => rw [propertyList, seq_error h, h]; rfl
  | ok found =>
    obtain ⟨entry, rest⟩ := found
    rw [propertyList, seq_ok h, h]
    cases hc : symbol? "," rest with
    | none =>
      rw [after_none hc]
      simp only [bind, Except.bind, hc]
      rfl
    | some middle =>
      rw [after_some hc]
      simp only [bind, Except.bind, hc]

theorem withClause_eq :
    withClause = after (keywords? ["WITH"]) (skip (symbol "(") fun tokens =>
      propertyList [] tokens.length tokens) (give []) := by
  funext tokens
  unfold withClause after
  cases keywords? ["WITH"] tokens <;> rfl

def registrationReading : Reading TypeRegistration :=
  skip (keywords ["REGISTER", "TYPE"]) <| seq (optionalPhrase ["IF", "NOT", "EXISTS"])
    fun ifNotExists => seq identifier fun name => skip (keywords ["AS"]) <|
      seq dataType fun type => give { name, type, ifNotExists }

/-- What a declaration says, up to its end: the flags, the name, the columns and the properties as
they are written. -/
structure Declaration where
  orReplace : Bool
  isSource : Bool
  ifNotExists : Bool
  name : String
  columns : List Column
  literals : List (String × Literal)

def declarationReading (kind : SourceKind) : Reading Declaration :=
  skip (keywords ["CREATE"]) <| seq (optionalPhrase ["OR", "REPLACE"]) fun orReplace =>
    seq (optionalPhrase ["SOURCE"]) fun isSource => skip (keywords [kind.keyword]) <|
      seq (optionalPhrase ["IF", "NOT", "EXISTS"]) fun ifNotExists => seq identifier fun name =>
        seq columns fun columns => seq withClause fun literals =>
          give { orReplace, isSource, ifNotExists, name, columns, literals }

def Declaration.source? (declaration : Declaration) (kind : SourceKind) : Parsing Source := do
  checkColumns kind [] declaration.columns
  let properties ← (Properties.ofLiterals declaration.literals).mapError GrammarFault.property
  return { declaration with kind, properties }

theorem optionalPhrase_apply (words : List String) (tokens : List Token) :
    optionalPhrase words tokens = .ok (optionalKeywords words tokens) := by
  unfold optionalPhrase optionalKeywords after
  cases keywords? words tokens <;> rfl

theorem typeRegistration_eq (tokens : List Token) :
    typeRegistration tokens = registrationReading tokens >>= fun found =>
      endOfStatement found.2 >>= fun _ => .ok found.1 := by
  unfold typeRegistration registrationReading skip
  rw [bind_assoc]
  congr 1
  funext tokens
  rw [seq_ok (optionalPhrase_apply _ tokens)]
  simp only [seq, bind_assoc]
  rfl

theorem source_eq (kind : SourceKind) (tokens : List Token) :
    source kind tokens = declarationReading kind tokens >>= fun found =>
      endOfStatement found.2 >>= fun _ => found.1.source? kind := by
  unfold source declarationReading skip
  rw [bind_assoc]
  congr 1
  funext tokens
  rw [seq_ok (optionalPhrase_apply _ tokens), seq_ok (optionalPhrase_apply _ _)]
  simp only [seq, bind_assoc, optionalPhrase_apply]
  rfl

theorem statementOfKind_register (tokens : List Token) :
    statementOfKind .register tokens =
      (typeRegistration tokens).map fun registration => some (.register registration) := by
  show (typeRegistration tokens >>= fun found => pure (some (Statement.register found))) = _
  cases typeRegistration tokens <;> rfl

theorem statementOfKind_create (kind : SourceKind) (tokens : List Token) :
    statementOfKind (.create kind) tokens =
      (source kind tokens).map fun source => some (.create source) := by
  show (source kind tokens >>= fun source => pure (some (Statement.create source))) = _
  cases source kind tokens <;> rfl

end TopicPlan.Sql
