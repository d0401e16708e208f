import TopicPlan.Proofs.GrammarBounds
import TopicPlan.Proofs.Rendering
import TopicPlan.Proofs.UpperCase

/-! Reading back what says a statement. Each production gives back what was said at the front of some
tokens and leaves the rest; words of the grammar that serve as names are not taken for keywords, as
the token after them is never the one that a phrase would go on with. -/
namespace TopicPlan.Sql
open Reading Text

variable {α β : Type}

@[simp] theorem symbol?_plain (spelling : String) (rest : List Token) :
    symbol? spelling (plain spelling :: rest) = some rest := by
  simp [symbol?, plain, Token.isLiteral]

theorem symbol?_of_ne {spelling : String} {token : Token} (h : token.text ≠ spelling)
    (rest : List Token) : symbol? spelling (token :: rest) = none := by
  simp [symbol?, h]

@[simp] theorem symbol_plain (spelling : String) (rest : List Token) :
    symbol spelling (plain spelling :: rest) = .ok rest := by
  simp [symbol]

@[simp] theorem closingAngle_plain (rest : List Token) :
    closingAngle (plain ">" :: rest) = .ok rest := by
  have hjoined : symbol? ">>" (plain ">" :: rest) = none := symbol?_of_ne (by decide) rest
  rw [closingAngle, hjoined]
  exact symbol_plain ">" rest

def grammarWords : List String :=
  ["REGISTER", "TYPE", "IF", "NOT", "EXISTS", "AS", "CREATE", "OR", "REPLACE", "SOURCE", "STREAM",
    "TABLE", "WITH", "PRIMARY", "KEY", "HEADERS", "HEADER", "TRUE", "FALSE"]

theorem keyword_mem (kind : SourceKind) : kind.keyword ∈ grammarWords := by
  cases kind <;> decide

theorem upper_grammarWords : ∀ word ∈ grammarWords, upper word = word := by decide +kernel

theorem isWord_grammarWords : ∀ word ∈ grammarWords, IsWord word := by
  unfold IsWord
  decide +kernel

theorem isWord_plain {text : String} (h : IsWord text) : (plain text).isWord = true := by
  have hname : isName text.toList = true := h
  simp [Token.isWord, plain, Token.isLiteral, hname]

theorem isKeyword_plain {word : String} (h : word ∈ grammarWords) :
    (plain word).isKeyword word = true := by
  have hword := isWord_plain (isWord_grammarWords word h)
  have hupper : (plain word).upper = word := upper_grammarWords word h
  simp [Token.isKeyword, hword, hupper]
  rfl

theorem isKeyword_of_upper_ne {word : String} {token : Token} (h : token.upper ≠ word) :
    token.isKeyword word = false := by
  simp [Token.isKeyword, h]

theorem isKeyword_plain_of_ne {word other : String} (h : other ∈ grammarWords) (hne : other ≠ word) :
    (plain other).isKeyword word = false := by
  refine isKeyword_of_upper_ne ?_
  have hupper : (plain other).upper = other := upper_grammarWords other h
  rwa [hupper]

theorem isKeyword_mark {text : String} (h : ¬IsWord text) (word : String) :
    (plain text).isKeyword word = false := by
  have hname : isName text.toList = false := by simpa [IsWord] using h
  simp [Token.isKeyword, Token.isWord, plain, Token.isQuoted, hname]

/-- A way to ask tokens for words that tells the words of the grammar apart. -/
structure TellsWords (isWord : String → Token → Bool) : Prop where
  self : ∀ word ∈ grammarWords, isWord word (plain word) = true
  other : ∀ word ∈ grammarWords, ∀ asked, word ≠ asked → isWord asked (plain word) = false

namespace TellsWords

variable {isWord : String → Token → Bool}

theorem found (htells : TellsWords isWord) {words : List String}
    (h : ∀ word ∈ words, word ∈ grammarWords) (rest : List Token) :
    afterWords? isWord words (words.map plain ++ rest) = some rest := by
  induction words with
  | nil => rfl
  | cons word words ih =>
    obtain ⟨hword, hwords⟩ := List.forall_mem_cons.mp h
    rw [List.map_cons, List.cons_append, afterWords?, if_pos (htells.self word hword), ih hwords]

theorem found_single (htells : TellsWords isWord) {word : String} (h : word ∈ grammarWords)
    (rest : List Token) : afterWords? isWord [word] (plain word :: rest) = some rest := by
  have hwords : ∀ other ∈ [word], other ∈ grammarWords := by simpa using h
  exact htells.found hwords rest

theorem absent (htells : TellsWords isWord) {word asked : String} (h : word ∈ grammarWords)
    (hne : word ≠ asked) (words : List String) (rest : List Token) :
    afterWords? isWord (asked :: words) (plain word :: rest) = none := by
  simp [afterWords?, htells.other word h asked hne]

theorem absent_before_kind (htells : TellsWords isWord) (kind : SourceKind) {word : String}
    (h : word ∈ ["OR", "SOURCE"]) (words : List String) (rest : List Token) :
    afterWords? isWord (word :: words) (plain kind.keyword :: rest) = none := by
  refine htells.absent (keyword_mem kind) ?_ words rest
  revert word
  cases kind <;> decide

theorem absent_before_flag (htells : TellsWords isWord) (kind : SourceKind) (isSource : Bool)
    (rest : List Token) : afterWords? isWord ["OR", "REPLACE"]
      (phrase isSource ["SOURCE"] ++ plain kind.keyword :: rest) = none := by
  cases isSource with
  | true => exact htells.absent (by decide) (by decide) _ _
  | false => exact htells.absent_before_kind kind (by decide) _ _

end TellsWords

theorem tellsWords_isKeyword : TellsWords Token.isKeyword where
  self _ h := isKeyword_plain h
  other _ h _ hne := isKeyword_plain_of_ne h hne

theorem keywords?_plain {words : List String} (h : ∀ word ∈ words, word ∈ grammarWords)
    (rest : List Token) : keywords? words (words.map plain ++ rest) = some rest :=
  tellsWords_isKeyword.found h rest

theorem keywords?_single {word : String} (h : word ∈ grammarWords) (rest : List Token) :
    keywords? [word] (plain word :: rest) = some rest := tellsWords_isKeyword.found_single h rest

theorem keywords?_of_other {word other : String} {words : List String} (h : other ∈ grammarWords)
    (hne : other ≠ word) (rest : List Token) :
    keywords? (word :: words) (plain other :: rest) = none :=
  tellsWords_isKeyword.absent h hne words rest

theorem keywords_plain {words : List String} (h : ∀ word ∈ words, word ∈ grammarWords)
    (rest : List Token) : keywords words (words.map plain ++ rest) = .ok rest := by
  rw [keywords, keywords?_plain h]

theorem keywords?_of_first {word : String} {words : List String} {token : Token}
    (h : token.isKeyword word = false) (rest : List Token) :
    keywords? (word :: words) (token :: rest) = none := by
  simp [keywords?, afterWords?, h]

theorem keywords?_of_second {word next : String} {words : List String} {first second : Token}
    (h : second.isKeyword next = false) (rest : List Token) :
    keywords? (word :: next :: words) (first :: second :: rest) = none := by
  unfold keywords?
  rw [afterWords?]
  split
  · exact keywords?_of_first h rest
  · rfl

/-- A phrase is told to be there or not, where what follows cannot be taken for it. -/
theorem optionalPhrase_phrase {words : List String} (h : ∀ word ∈ words, word ∈ grammarWords)
    {rest : List Token} (habsent : keywords? words rest = none) (said : Bool) :
    optionalPhrase words (phrase said words ++ rest) = .ok (said, rest) := by
  cases said with
  | true => exact after_some (keywords?_plain h rest)
  | false => exact after_none habsent

theorem Token.Spells.isWord {token : Token} {name : String} (h : token.Spells name) :
    token.isWord = true := by
  obtain ⟨rfl, hkind | ⟨hkind, hname, -⟩⟩ := h
  · simp [Token.isWord, Token.isLiteral, Token.isQuoted, hkind]
  · have htext : isName token.text.toList = true := hname
    simp [Token.isWord, Token.isLiteral, hkind, htext]

theorem identifier_spelled {token : Token} {name : String} (h : token.Spells name)
    (rest : List Token) : identifier (token :: rest) = .ok (name, rest) := by
  have hword := h.isWord
  obtain ⟨rfl, hkind | ⟨hkind, -, hupper, -⟩⟩ := h
  · simp [identifier, hword, Token.isQuoted, hkind]
  · have htoken : token.upper = token.text := hupper
    simp [identifier, hword, Token.isQuoted, hkind, htoken]

theorem symbol?_spelled {token : Token} {name spelling : String} (h : token.Spells name)
    (hname : IsWord name) (hspelling : ¬IsWord spelling) (rest : List Token) :
    symbol? spelling (token :: rest) = none := by
  refine symbol?_of_ne ?_ rest
  rintro rfl
  rw [h.1] at hspelling
  exact hspelling hname

theorem integer_numbers {token : Token} {n : Nat} (h : token.Numbers n) (rest : List Token) :
    integer (token :: rest) = .ok (n, rest) := by
  obtain ⟨digits, hdigits, rfl, rfl⟩ := h
  refine integer_eq_ok.mpr ⟨_, rfl, rfl, ?_⟩
  rw [String.toList_ofList]
  exact readNat_digitChars hdigits

theorem isWord_typeWords : ∀ word ∈ typeWords, IsWord word := by
  unfold IsWord
  decide +kernel

theorem upper_typeWords : ∀ word ∈ typeWords, upper word = word := by decide +kernel

theorem mem_typeWords (base : BaseType) : base.name ∈ typeWords := by
  cases base <;> decide

theorem typeAt_plain {word : String} (h : word ∈ typeWords) (depth : Nat) (rest : List Token) :
    typeAt (depth + 1) (plain word :: rest) = typeBody depth word rest := by
  have hupper : (plain word).upper = word := upper_typeWords word h
  rw [typeAt_unquoted depth rest (isWord_plain (isWord_typeWords word h)) rfl, hupper]

theorem typeBody_base (depth : Nat) (base : BaseType) :
    typeBody depth base.name = give (.base base) := by
  have hname := BaseType.ofKeyword?_name base
  unfold typeBody
  rw [hname]
  cases base <;> rfl

theorem ofKeyword?_eq_none {name : String} (h : name ∉ typeWords) :
    BaseType.ofKeyword? name = none := by
  have hint : name ≠ "INT" := by
    rintro rfl
    exact h (by decide)
  have hvarchar : name ≠ "VARCHAR" := by
    rintro rfl
    exact h (by decide)
  rw [BaseType.ofKeyword?, if_neg hint, if_neg hvarchar, List.find?_eq_none]
  intro base _ hbase
  rw [decide_eq_true_eq] at hbase
  subst hbase
  exact h (mem_typeWords base)

theorem typeBody_reference (depth : Nat) {name : String} (h : name ∉ typeWords) :
    typeBody depth name = give (.reference name) := by
  have hne : ∀ word ∈ typeWords, name ≠ word := fun word hword heq => h (heq ▸ hword)
  unfold typeBody
  rw [if_neg (hne "ARRAY" (by decide)), if_neg (hne "MAP" (by decide)),
    if_neg (hne "STRUCT" (by decide)), if_neg (hne "DECIMAL" (by decide)), ofKeyword?_eq_none h]

theorem typeAt_reference {token : Token} {name : String} (h : token.Spells name)
    (hfree : token.kind = .plain → name ∉ typeWords) (depth : Nat) (rest : List Token) :
    typeAt (depth + 1) (token :: rest) = .ok (.reference name, rest) := by
  have hword := h.isWord
  obtain ⟨rfl, hkind | ⟨hkind, -, hupper, -⟩⟩ := h
  · have hquoted : token.isQuoted = true := by simp [Token.isQuoted, hkind]
    simp [typeAt, hword, hquoted]
  · have hquoted : token.isQuoted = false := by simp [Token.isQuoted, hkind]
    have htoken : token.upper = token.text := hupper
    rw [typeAt_unquoted depth rest hword hquoted, htoken, typeBody_reference depth (hfree hkind)]
    rfl

theorem commaList_last {item : Reading α} {tokens rest : List Token} {x : α}
    (hitem : item tokens = .ok (x, rest)) (hrest : symbol? "," rest = none) (bound : Nat) :
    commaList item bound tokens = .ok ([x], rest) := by
  cases bound with
  | zero =>
    rw [commaList_zero, seq_ok hitem]
    rfl
  | succ bound =>
    rw [commaList_succ, seq_ok hitem, after_none hrest]
    rfl

theorem commaList_more {item : Reading α} {tokens middle rest : List Token} {x : α} {xs : List α}
    {bound : Nat} (hitem : item tokens = .ok (x, plain "," :: middle))
    (hmore : commaList item bound middle = .ok (xs, rest)) :
    commaList item (bound + 1) tokens = .ok (x :: xs, rest) := by
  rw [commaList_succ, seq_ok hitem, after_some (symbol?_plain "," middle), seq_ok hmore]
  rfl

theorem named_spelled {item : Reading α} {token : Token} {name : String} (h : token.Spells name)
    {tokens rest : List Token} {x : α} (hitem : item tokens = .ok (x, rest)) :
    named item (token :: tokens) = .ok ((name, x), rest) := by
  rw [named_eq, seq_ok (identifier_spelled h tokens), seq_ok hitem]
  rfl

theorem RendersFields.head {fields : Fields} {tokens : List Token} (hvalid : ValidFields fields)
    (h : RendersFields fields tokens) : ∃ (token : Token) (name : String) (more : List Token),
      token.Spells name ∧ IsWord name ∧ tokens = token :: more := by
  cases fields with
  | nil => cases h
  | cons field rest =>
    obtain ⟨token, inner, hname, -, ⟨-, rfl⟩ | ⟨more, -, rfl⟩⟩ := h
    · exact ⟨token, field.1, inner, hname, hvalid.1, rfl⟩
    · exact ⟨token, field.1, _, hname, hvalid.1, rfl⟩

theorem typeBody_array (depth : Nat) : typeBody depth "ARRAY" =
    skip (symbol "<") (seq (typeAt depth) fun item => skip closingAngle <| give (.array item)) :=
  if_pos rfl

theorem typeBody_map (depth : Nat) : typeBody depth "MAP" =
    skip (symbol "<") (seq (typeAt depth) fun key => skip (symbol ",") <|
      seq (typeAt depth) fun value => skip closingAngle <| give (.map key value)) := by
  rw [typeBody, if_neg (by decide), if_pos rfl]

theorem typeBody_struct (depth : Nat) : typeBody depth "STRUCT" =
    after (symbol? "<>") (give (.struct [])) (skip (symbol "<") <|
      after (symbol? ">") (give (.struct [])) <|
        seq (commaSeparated (named (typeAt depth))) fun fields => skip closingAngle <|
          give (.struct fields)) := by
  rw [typeBody, if_neg (by decide), if_neg (by decide), if_pos rfl]

theorem typeBody_decimal (depth : Nat) : typeBody depth "DECIMAL" = decimalParameters := by
  rw [typeBody, if_neg (by decide), if_neg (by decide), if_neg (by decide), if_pos rfl]

theorem decimalParameters_numbers {precision scale : Int} (h : (DataType.decimal precision scale).Valid)
    {first second : Token} (hfirst : first.Numbers precision.toNat)
    (hsecond : second.Numbers scale.toNat) (rest : List Token) :
    decimalParameters (plain "(" :: first :: plain "," :: second :: plain ")" :: rest) =
      .ok (.decimal precision scale, rest) := by
  obtain ⟨hone, hscale, hle, -⟩ := h
  have hprecision : (precision.toNat : Int) = precision := Int.toNat_of_nonneg (by omega)
  have hscaleNat : (scale.toNat : Int) = scale := Int.toNat_of_nonneg hscale
  have hvalid : ¬(precision.toNat < 1 ∨ precision.toNat < scale.toNat) := by omega
  rw [decimalParameters_eq, skip_ok (symbol_plain _ _), seq_ok (integer_numbers hfirst _),
    skip_ok (symbol_plain _ _), seq_ok (integer_numbers hsecond _), skip_ok (symbol_plain _ _),
    if_neg hvalid, give_apply, hprecision, hscaleNat]

mutual

/-- A type is read back at any depth that its tokens could need. -/
theorem typeAt_rendersType : (type : DataType) → type.Valid → {tokens : List Token} →
    RendersType type tokens → {depth : Nat} → tokens.length ≤ depth → (rest : List Token) →
      typeAt depth (tokens ++ rest) = .ok (type, rest)
  | .base base, _, tokens, h, depth, hdepth, rest => by
    obtain rfl : tokens = [plain base.name] := h
    obtain ⟨depth, rfl⟩ := Nat.exists_eq_add_of_lt hdepth
    rw [List.singleton_append, typeAt_plain (mem_typeWords base), typeBody_base]
    rfl
  | .decimal precision scale, hvalid, tokens, h, depth, hdepth, rest => by
    obtain ⟨first, second, hfirst, hsecond, rfl⟩ := h
    obtain ⟨depth, rfl⟩ : ∃ d, depth = d + 1 := ⟨depth - 1, by simp at hdepth; omega⟩
    rw [List.cons_append, typeAt_plain (by decide), typeBody_decimal]
    exact decimalParameters_numbers hvalid hfirst hsecond rest
  | .array item, hvalid, tokens, h, depth, hdepth, rest => by
    obtain ⟨inner, hinner, rfl⟩ := h
    simp only [List.length_cons, List.length_append, List.length_nil] at hdepth
    obtain ⟨depth, rfl⟩ : ∃ d, depth = d + 1 := ⟨depth - 1, by omega⟩
    have hitem : typeAt depth (inner ++ plain ">" :: rest) = .ok (item, plain ">" :: rest) :=
      typeAt_rendersType item hvalid hinner (by omega) _
    simp only [List.cons_append, List.append_assoc, List.nil_append]
    rw [typeAt_plain (by decide), typeBody_array, skip_ok (symbol_plain _ _), seq_ok hitem,
      skip_ok (closingAngle_plain rest)]
    rfl
  | .map key value, hvalid, tokens, h, depth, hdepth, rest => by
    obtain ⟨first, second, hfirst, hsecond, rfl⟩ := h
    simp only [List.length_cons, List.length_append, List.length_nil] at hdepth
    obtain ⟨depth, rfl⟩ : ∃ d, depth = d + 1 := ⟨depth - 1, by omega⟩
    have hkey : typeAt depth (first ++ plain "," :: (second ++ plain ">" :: rest)) =
        .ok (key, plain "," :: (second ++ plain ">" :: rest)) :=
      typeAt_rendersType key hvalid.1 hfirst (by omega) _
    have hvalue : typeAt depth (second ++ plain ">" :: rest) = .ok (value, plain ">" :: rest) :=
      typeAt_rendersType value hvalid.2 hsecond (by omega) _
    simp only [List.cons_append, List.append_assoc, List.nil_append]
    rw [typeAt_plain (by decide), typeBody_map, skip_ok (symbol_plain _ _), seq_ok hkey,
      skip_ok (symbol_plain _ _), seq_ok hvalue, skip_ok (closingAngle_plain rest)]
    rfl
  | .struct fields, hvalid, tokens, h, depth, hdepth, rest => by
    rcases h with ⟨rfl, rfl⟩ | ⟨rfl, rfl⟩ | ⟨inner, hinner, rfl⟩
    · obtain ⟨depth, rfl⟩ : ∃ d, depth = d + 1 := ⟨depth - 1, by simp at hdepth; omega⟩
      rw [List.cons_append, List.singleton_append, typeAt_plain (by decide), typeBody_struct,
        after_some (symbol?_plain _ _)]
      rfl
    · obtain ⟨depth, rfl⟩ : ∃ d, depth = d + 1 := ⟨depth - 1, by simp at hdepth; omega⟩
      have hopen : symbol? "<>" (plain "<" :: plain ">" :: rest) = none :=
        symbol?_of_ne (by decide) _
      rw [List.cons_append, List.cons_append, List.singleton_append, typeAt_plain (by decide),
        typeBody_struct, after_none hopen, skip_ok (symbol_plain _ _),
        after_some (symbol?_plain _ _)]
      rfl
    · simp only [List.length_cons, List.length_append, List.length_nil] at hdepth
      obtain ⟨depth, rfl⟩ : ∃ d, depth = d + 1 := ⟨depth - 1, by omega⟩
      have hfields : commaSeparated (named (typeAt depth)) (inner ++ plain ">" :: rest) =
          .ok (fields, plain ">" :: rest) :=
        commaList_rendersFields fields hvalid hinner (by omega)
          (by rw [List.length_append]; omega) (symbol?_of_ne (by decide) rest)
      obtain ⟨token, name, more, hname, hword, hhead⟩ := hinner.head hvalid
      have hopen : symbol? "<>" (plain "<" :: (inner ++ plain ">" :: rest)) = none :=
        symbol?_of_ne (by decide) _
      have hclose : symbol? ">" (inner ++ plain ">" :: rest) = none := by
        rw [hhead]
        exact symbol?_spelled hname hword (by unfold IsWord; decide) _
      simp only [List.cons_append, List.append_assoc, List.nil_append]
      rw [typeAt_plain (by decide), typeBody_struct, after_none hopen, skip_ok (symbol_plain _ _),
        after_none hclose, seq_ok hfields, skip_ok (closingAngle_plain rest)]
      rfl
  | .reference name, hvalid, tokens, h, depth, hdepth, rest => by
    obtain ⟨token, hname, hfree, rfl⟩ := h
    obtain ⟨depth, rfl⟩ := Nat.exists_eq_add_of_lt hdepth
    rw [List.singleton_append]
    exact typeAt_reference hname hfree _ rest

theorem commaList_rendersFields : (fields : Fields) → ValidFields fields → {tokens : List Token} →
    RendersFields fields tokens → {depth bound : Nat} → tokens.length ≤ depth →
      tokens.length ≤ bound → {rest : List Token} → symbol? "," rest = none →
        commaList (named (typeAt depth)) bound (tokens ++ rest) = .ok (fields, rest)
  | [], _, _, h, _, _, _, _, _, _ => by cases h
  | (name, type) :: others, hvalid, tokens, h, depth, bound, hdepth, hbound, rest, hrest => by
    obtain ⟨token, inner, hname, hinner, ⟨rfl, rfl⟩ | ⟨more, hmore, rfl⟩⟩ := h
    · rw [List.length_cons] at hdepth
      have htype : typeAt depth (inner ++ rest) = .ok (type, rest) :=
        typeAt_rendersType type hvalid.2.1 hinner (by omega) rest
      exact commaList_last (named_spelled hname htype) hrest bound
    · simp only [List.length_cons, List.length_append] at hdepth hbound
      obtain ⟨bound, rfl⟩ : ∃ b, bound = b + 1 := ⟨bound - 1, by omega⟩
      have htype : typeAt depth (inner ++ plain "," :: (more ++ rest)) =
          .ok (type, plain "," :: (more ++ rest)) :=
        typeAt_rendersType type hvalid.2.1 hinner (by omega) _
      have hothers : commaList (named (typeAt depth)) bound (more ++ rest) = .ok (others, rest) :=
        commaList_rendersFields others hvalid.2.2 hmore (by omega) (by omega) hrest
      simp only [List.cons_append, List.append_assoc]
      exact commaList_more (named_spelled hname htype) hothers

end

theorem dataType_rendersType {type : DataType} (hvalid : type.Valid) {tokens : List Token}
    (h : RendersType type tokens) (rest : List Token) :
    dataType (tokens ++ rest) = .ok (type, rest) := by
  refine typeAt_rendersType type hvalid h ?_ rest
  rw [List.length_append]
  omega

theorem stringLiteral_string (text : String) (rest : List Token) :
    stringLiteral (⟨.string, text⟩ :: rest) = .ok (text, rest) := by
  simp [stringLiteral]

theorem columnConstraint_tokens (constraint : Constraint) {mark : String} (hmark : ¬IsWord mark)
    (rest : List Token) : columnConstraint (constraint.tokens ++ plain mark :: rest) =
      .ok (constraint, plain mark :: rest) := by
  rw [columnConstraint_eq]
  cases constraint with
  | none =>
    have hnone (words : List String) (word : String) :
        keywords? (word :: words) (plain mark :: rest) = none :=
      keywords?_of_first (isKeyword_mark hmark word) rest
    rw [Constraint.tokens, List.nil_append, after_none (hnone _ _), after_none (hnone _ _),
      after_none (hnone _ _), after_none (hnone _ _)]
    rfl
  | primaryKey =>
    have hfound : keywords? ["PRIMARY", "KEY"] (Constraint.primaryKey.tokens ++ plain mark :: rest) =
        some (plain mark :: rest) := keywords?_plain (by decide) _
    rw [after_some hfound]
    rfl
  | key =>
    rw [Constraint.tokens, List.singleton_append,
      after_none (keywords?_of_other (by decide) (by decide) _),
      after_some (keywords?_single (by decide) _)]
    rfl
  | headers =>
    rw [Constraint.tokens, List.singleton_append,
      after_none (keywords?_of_other (by decide) (by decide) _),
      after_none (keywords?_of_other (by decide) (by decide) _),
      after_some (keywords?_single (by decide) _)]
    rfl
  | header text =>
    simp only [Constraint.tokens, List.cons_append, List.nil_append]
    rw [after_none (keywords?_of_other (by decide) (by decide) _),
      after_none (keywords?_of_other (by decide) (by decide) _),
      after_none (keywords?_of_other (by decide) (by decide) _),
      after_some (keywords?_single (by decide) _), skip_ok (symbol_plain _ _),
      seq_ok (stringLiteral_string _ _), skip_ok (symbol_plain _ _)]
    rfl

theorem column_rendersColumn {column : Column} (htype : column.type.Valid) {tokens : List Token}
    (h : RendersColumn column tokens) {mark : String} (hmark : ¬IsWord mark) (rest : List Token) :
    Sql.column (tokens ++ plain mark :: rest) = .ok (column, plain mark :: rest) := by
  obtain ⟨name, type, hspells, hrenders, rfl⟩ := h
  have hnamed := named_spelled hspells
    (dataType_rendersType htype hrenders (column.constraint.tokens ++ plain mark :: rest))
  simp only [List.cons_append, List.append_assoc]
  rw [column_eq, seq_ok hnamed, seq_ok (columnConstraint_tokens column.constraint hmark rest)]
  rfl

/-- A list is read back when its items are, each before a comma or the mark that ends the list. -/
theorem commaList_rendersList {item : Reading α} {renders : α → List Token → Prop} {mark : String}
    (hmark : mark ≠ ",") {items : List α} {rest : List Token}
    (hitem : ∀ x ∈ items, ∀ tokens, renders x tokens → ∀ next ∈ [",", mark], ∀ more,
      item (tokens ++ plain next :: more) = .ok (x, plain next :: more))
    {tokens : List Token} (h : RendersList renders items tokens) {bound : Nat}
    (hbound : tokens.length ≤ bound) :
    commaList item bound (tokens ++ plain mark :: rest) = .ok (items, plain mark :: rest) := by
  induction items generalizing tokens bound with
  | nil => cases h
  | cons x xs ih =>
    obtain ⟨first, hfirst, ⟨rfl, rfl⟩ | ⟨more, hmore, rfl⟩⟩ := h
    · have hend : symbol? "," (plain mark :: rest) = none := symbol?_of_ne hmark rest
      exact commaList_last (hitem x (by simp) _ hfirst mark (by simp) rest) hend bound
    · simp only [List.length_append, List.length_cons] at hbound
      obtain ⟨bound, rfl⟩ : ∃ b, bound = b + 1 := ⟨bound - 1, by omega⟩
      have hothers : commaList item bound (more ++ plain mark :: rest) =
          .ok (xs, plain mark :: rest) :=
        ih (fun y hy => hitem y (List.mem_cons_of_mem x hy)) hmore (by omega)
      simp only [List.append_assoc, List.cons_append]
      exact commaList_more (hitem x (by simp) _ hfirst "," (by simp) _) hothers

theorem columns_rendersColumns {columns : List Column}
    (hvalid : ∀ column ∈ columns, column.type.Valid) {tokens : List Token}
    (h : RendersColumns columns tokens) {word : String} (hword : word ≠ "(") (rest : List Token) :
    Sql.columns (tokens ++ plain word :: rest) = .ok (columns, plain word :: rest) := by
  rw [columns_eq]
  rcases h with ⟨rfl, rfl⟩ | ⟨inner, hinner, rfl⟩
  · have hnone : symbol? "(" (plain word :: rest) = none := symbol?_of_ne hword rest
    rw [List.nil_append, after_none hnone]
    rfl
  · have hcomma : ¬IsWord "," := by unfold IsWord; decide
    have hclose : ¬IsWord ")" := by unfold IsWord; decide
    have hlist : commaSeparated Sql.column (inner ++ plain ")" :: (plain word :: rest)) =
        .ok (columns, plain ")" :: (plain word :: rest)) := by
      refine commaList_rendersList (by decide) ?_ hinner (by rw [List.length_append]; omega)
      intro column hcolumn tokens htokens next hnext more
      have hmark : ¬IsWord next := by
        rcases List.mem_cons.mp hnext with rfl | hnext
        · exact hcomma
        · rw [List.mem_singleton.mp hnext]
          exact hclose
      exact column_rendersColumn (hvalid column hcolumn) htokens hmark more
    simp only [List.cons_append, List.append_assoc, List.nil_append]
    rw [after_some (symbol?_plain _ _), seq_ok hlist, skip_ok (symbol_plain _ _)]
    rfl

theorem literal_plain {token : Token} (hkind : token.kind = .plain) (hsign : token.text ≠ "-")
    (rest : List Token) : literal (token :: rest) = unsigned false (token :: rest) := by
  have hhead : ∀ first ∈ (token :: rest).head?, first.kind ≠ .string := by simp [hkind]
  rw [literal_signed hhead, after_none (symbol?_of_ne hsign rest)]

theorem unsigned_numbers {token : Token} {n : Nat} (h : token.Numbers n) (negative : Bool)
    (rest : List Token) : unsigned negative (token :: rest) =
      .ok (.int (if negative then -n else n), rest) := by
  obtain ⟨digits, hdigits, rfl, rfl⟩ := h
  have hnumber := numberOf?_digitChars hdigits
  unfold unsigned single
  simp only [beq_self_eq_true, if_true, String.toList_ofList, hnumber]
  cases negative <;> rfl

theorem literal_numbers {token : Token} {n : Nat} (h : token.Numbers n) (rest : List Token) :
    literal (token :: rest) = .ok (.int n, rest) ∧
    literal (plain "-" :: token :: rest) = .ok (.int (-n), rest) := by
  have hnumber (negative : Bool) := unsigned_numbers h negative rest
  have hkind : token.kind = .number := by
    obtain ⟨digits, -, -, rfl⟩ := h
    rfl
  constructor
  · have hhead : ∀ first ∈ (token :: rest).head?, first.kind ≠ .string := by simp [hkind]
    have hsign : symbol? "-" (token :: rest) = none := by
      simp [symbol?, Token.isLiteral, hkind]
    rw [literal_signed hhead, after_none hsign]
    exact hnumber false
  · have hhead : ∀ first ∈ (plain "-" :: token :: rest).head?, first.kind ≠ .string := by
      simp [plain]
    rw [literal_signed hhead, after_some (symbol?_plain "-" _)]
    exact hnumber true

theorem literal_rendersLiteral {value : Literal} {tokens : List Token}
    (h : RendersLiteral value tokens) (rest : List Token) :
    literal (tokens ++ rest) = .ok (value, rest) := by
  cases value with
  | text text =>
    obtain rfl : tokens = [⟨.string, text⟩] := h
    exact literal_text rest rfl
  | bool value =>
    obtain rfl : tokens = [plain (if value then "TRUE" else "FALSE")] := h
    rw [List.singleton_append, literal_plain rfl (by cases value <;> decide)]
    have htrue : (plain "TRUE").isKeyword "TRUE" = true := isKeyword_plain (by decide)
    have hfalse : (plain "FALSE").isKeyword "FALSE" = true := isKeyword_plain (by decide)
    have hother : (plain "FALSE").isKeyword "TRUE" = false :=
      isKeyword_plain_of_ne (by decide) (by decide)
    have hkind (text : String) : ((plain text).kind == .number) = false := rfl
    cases value
    · simp [unsigned, single, hkind, hother, hfalse]
    · simp [unsigned, single, hkind, htrue]
  | int value =>
    obtain ⟨token, n, htoken, ⟨rfl, rfl⟩ | ⟨rfl, rfl⟩⟩ := h
    · exact (literal_numbers htoken rest).1
    · exact (literal_numbers htoken rest).2
  | real value => cases h
  | null => cases h

theorem propertyEntry_rendersEntry {before : List (String × Literal)} {entry : String × Literal}
    (hnew : upper entry.1 ∉ before.map (·.1)) {tokens : List Token}
    (h : RendersEntry entry tokens) (rest : List Token) :
    propertyEntry before (tokens ++ rest) = .ok ((upper entry.1, entry.2), rest) := by
  obtain ⟨name, value, hspells, hvalue, rfl⟩ := h
  have hnewName : newName before (upper entry.1) (value ++ rest) =
      .ok (upper entry.1, value ++ rest) := by
    rw [newName_eq, if_neg hnew, give_apply]
  rw [propertyEntry_eq]
  simp only [List.cons_append]
  rw [seq_ok (identifier_spelled hspells _), skip_ok (symbol_plain _ _), seq_ok hnewName,
    seq_ok (literal_rendersLiteral hvalue rest)]
  rfl

def upperEntries (entries : List (String × Literal)) : List (String × Literal) :=
  entries.map fun entry => (upper entry.1, entry.2)

/-- Properties are read back under their names in upper case, which have to be different. -/
theorem propertyList_rendersList {entries before : List (String × Literal)}
    (hnames : (before.map (·.1) ++ entries.map fun entry => upper entry.1).Nodup)
    {tokens : List Token} (h : RendersList RendersEntry entries tokens) {bound : Nat}
    (hbound : tokens.length ≤ bound) (rest : List Token) :
    propertyList before bound (tokens ++ plain ")" :: rest) =
      .ok (before ++ upperEntries entries, rest) := by
  induction entries generalizing before tokens bound with
  | nil => cases h
  | cons entry entries ih =>
    obtain ⟨first, hfirst, hcases⟩ := h
    have hnew : upper entry.1 ∉ before.map (·.1) := by
      intro hmem
      exact (List.nodup_append.mp hnames).2.2 _ hmem _ (by simp) rfl
    rcases hcases with ⟨rfl, rfl⟩ | ⟨more, hmore, rfl⟩
    · have hentry := propertyEntry_rendersEntry hnew hfirst (plain ")" :: rest)
      have hend : symbol? "," (plain ")" :: rest) = none := symbol?_of_ne (by decide) rest
      cases bound with
      | zero =>
        rw [propertyList_zero, seq_ok hentry, skip_ok (symbol_plain _ _)]
        rfl
      | succ bound =>
        rw [propertyList_succ, seq_ok hentry, after_none hend, skip_ok (symbol_plain _ _)]
        rfl
    · simp only [List.length_append, List.length_cons] at hbound
      obtain ⟨bound, rfl⟩ : ∃ b, bound = b + 1 := ⟨bound - 1, by omega⟩
      have hentry := propertyEntry_rendersEntry hnew hfirst
        (plain "," :: (more ++ plain ")" :: rest))
      have hothers : propertyList (before ++ [(upper entry.1, entry.2)]) bound
          (more ++ plain ")" :: rest) =
          .ok ((before ++ [(upper entry.1, entry.2)]) ++ upperEntries entries, rest) := by
        refine ih ?_ hmore (by omega)
        simpa using hnames
      simp only [List.append_assoc, List.cons_append] at hothers ⊢
      rw [propertyList_succ, seq_ok hentry, after_some (symbol?_plain _ _), hothers]
      rfl

end TopicPlan.Sql
