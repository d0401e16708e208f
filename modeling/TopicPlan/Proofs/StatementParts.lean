import TopicPlan.Proofs.Readback

/-! The parts of a statement. What says a tree is made of single words and marks, none of which ends
the statement; beyond the leading words, none begins a query in it. -/
namespace TopicPlan.Sql
open Text

/-- A single word or mark within a statement. -/
def Token.IsPart (token : Token) : Prop := token.isSeparator = false ∧ token.split = [token]

/-- A part of a statement that begins no query. -/
def Token.IsInner (token : Token) : Prop := token.IsPart ∧ token.keyword ≠ "AS"

def innerTexts : List String :=
  ["(", ")", "<", ">", "<>", ",", "=", "-", "KEY", "PRIMARY", "HEADERS", "HEADER", "IF", "NOT",
    "EXISTS", "WITH", "TRUE", "FALSE"] ++ typeWords

theorem upper_innerTexts : ∀ text ∈ innerTexts, upper text ≠ "AS" := by decide +kernel

theorem split_plain : ∀ text ∈ innerTexts ++ grammarWords, (plain text).split = [plain text] := by
  decide +kernel

theorem isPart_plain {text : String} (h : text ∈ innerTexts ++ grammarWords) :
    (plain text).IsPart := ⟨rfl, split_plain text h⟩

theorem isInner_plain {text : String} (h : text ∈ innerTexts) : (plain text).IsInner := by
  have hkeyword : (plain text).keyword = upper text := by
    simp [Token.keyword, plain, Token.isLiteral, Token.isQuoted, Token.upper]
  exact ⟨isPart_plain (List.mem_append_left _ h), hkeyword ▸ upper_innerTexts text h⟩

theorem isInner_string (text : String) : Token.IsInner ⟨.string, text⟩ := by
  simp [Token.IsInner, Token.IsPart, Token.isSeparator, Token.split, Token.keyword, Token.isLiteral]

theorem isInner_numbers {token : Token} {n : Nat} (h : token.Numbers n) : token.IsInner := by
  obtain ⟨digits, -, -, rfl⟩ := h
  simp [Token.IsInner, Token.IsPart, Token.isSeparator, Token.split, Token.keyword, Token.isLiteral]

theorem isInner_spelled {token : Token} {name : String} (h : token.Spells name) :
    token.IsInner := by
  obtain ⟨rfl, hkind | ⟨hkind, hword, hupper, hname⟩⟩ := h
  · simp [Token.IsInner, Token.IsPart, Token.isSeparator, Token.split, Token.keyword,
      Token.isQuoted, hkind]
  · have htoken : token.upper = token.text := hupper
    have hsplit : token.split = [token] := Token.split_of_isName hword
    simp [Token.IsInner, Token.IsPart, Token.isSeparator, Token.keyword, Token.isLiteral,
      Token.isQuoted, hkind, hsplit, htoken, hname]

def AllInner (tokens : List Token) : Prop := ∀ token ∈ tokens, token.IsInner

@[simp] theorem allInner_nil : AllInner [] := by simp [AllInner]

@[simp] theorem allInner_cons {token : Token} {tokens : List Token} :
    AllInner (token :: tokens) ↔ token.IsInner ∧ AllInner tokens := List.forall_mem_cons

@[simp] theorem allInner_append {first second : List Token} :
    AllInner (first ++ second) ↔ AllInner first ∧ AllInner second := List.forall_mem_append

mutual

theorem allInner_rendersType : (type : DataType) → {tokens : List Token} →
    RendersType type tokens → AllInner tokens
  | .base base, tokens, h => by
    obtain rfl : tokens = [plain base.name] := h
    have hmem : base.name ∈ innerTexts := List.mem_append_right _ (mem_typeWords base)
    simp [isInner_plain hmem]
  | .decimal precision scale, tokens, h => by
    obtain ⟨first, second, hfirst, hsecond, rfl⟩ := h
    simp (disch := decide) [isInner_numbers hfirst, isInner_numbers hsecond, isInner_plain]
  | .array item, tokens, h => by
    obtain ⟨inner, hinner, rfl⟩ := h
    have hitem := allInner_rendersType item hinner
    simp (disch := decide) [hitem, isInner_plain]
  | .map key value, tokens, h => by
    obtain ⟨first, second, hfirst, hsecond, rfl⟩ := h
    have hkey := allInner_rendersType key hfirst
    have hvalue := allInner_rendersType value hsecond
    simp (disch := decide) [hkey, hvalue, isInner_plain]
  | .struct fields, tokens, h => by
    rcases h with ⟨-, rfl⟩ | ⟨-, rfl⟩ | ⟨inner, hinner, rfl⟩
    · simp (disch := decide) [isInner_plain]
    · simp (disch := decide) [isInner_plain]
    · have hfields := allInner_rendersFields fields hinner
      simp (disch := decide) [hfields, isInner_plain]
  | .reference name, tokens, h => by
    obtain ⟨token, hname, -, rfl⟩ := h
    simp [isInner_spelled hname]

theorem allInner_rendersFields : (fields : Fields) → {tokens : List Token} →
    RendersFields fields tokens → AllInner tokens
  | [], _, h => by cases h
  | (name, type) :: rest, tokens, h => by
    obtain ⟨token, inner, hname, hinner, ⟨-, rfl⟩ | ⟨more, hmore, rfl⟩⟩ := h
    · simp [isInner_spelled hname, allInner_rendersType type hinner]
    · have hrest := allInner_rendersFields rest hmore
      simp (disch := decide) [isInner_spelled hname, allInner_rendersType type hinner, hrest,
        isInner_plain]

end

theorem allInner_rendersList {α : Type} {renders : α → List Token → Prop}
    (hitem : ∀ x tokens, renders x tokens → AllInner tokens) {items : List α} {tokens : List Token}
    (h : RendersList renders items tokens) : AllInner tokens := by
  induction items generalizing tokens with
  | nil => cases h
  | cons x xs ih =>
    obtain ⟨first, hfirst, ⟨-, rfl⟩ | ⟨more, hmore, rfl⟩⟩ := h
    · exact hitem x _ hfirst
    · simp (disch := decide) [hitem x first hfirst, ih hmore, isInner_plain]

theorem allInner_constraint (constraint : Constraint) : AllInner constraint.tokens := by
  cases constraint <;> simp (disch := decide) [Constraint.tokens, isInner_plain, isInner_string]

theorem allInner_rendersColumn (column : Column) (tokens : List Token)
    (h : RendersColumn column tokens) : AllInner tokens := by
  obtain ⟨name, type, hname, htype, rfl⟩ := h
  simp [isInner_spelled hname, allInner_rendersType _ htype, allInner_constraint]

theorem allInner_rendersColumns {columns : List Column} {tokens : List Token}
    (h : RendersColumns columns tokens) : AllInner tokens := by
  rcases h with ⟨-, rfl⟩ | ⟨inner, hinner, rfl⟩
  · exact allInner_nil
  · have hlist := allInner_rendersList allInner_rendersColumn hinner
    simp (disch := decide) [hlist, isInner_plain]

theorem allInner_rendersEntry (entry : String × Literal) (tokens : List Token)
    (h : RendersEntry entry tokens) : AllInner tokens := by
  obtain ⟨name, value, hname, hvalue, rfl⟩ := h
  have hliteral : AllInner value := by
    rcases entry with ⟨_, _ | flag | number | real | text⟩
    · cases hvalue
    · obtain rfl : value = [plain (if flag then "TRUE" else "FALSE")] := hvalue
      cases flag <;> simp (disch := decide) [isInner_plain]
    · obtain ⟨token, n, htoken, ⟨-, rfl⟩ | ⟨-, rfl⟩⟩ := hvalue
      · simp [isInner_numbers htoken]
      · simp (disch := decide) [isInner_numbers htoken, isInner_plain]
    · cases hvalue
    · obtain rfl : value = [⟨.string, text⟩] := hvalue
      simp [isInner_string]
  simp (disch := decide) [isInner_spelled hname, hliteral, isInner_plain]

theorem allInner_phrase {words : List String} (h : ∀ word ∈ words, word ∈ innerTexts)
    (said : Bool) : AllInner (phrase said words) := by
  cases said with
  | false => exact allInner_nil
  | true =>
    intro token htoken
    obtain ⟨word, hword, rfl⟩ := List.mem_map.mp htoken
    exact isInner_plain (h word hword)

theorem allInner_declared (ifNotExists : Bool) {name : Token} {text : String}
    (hname : name.Spells text) {columns : List Column} {literals : List (String × Literal)}
    {first second : List Token} (hcolumns : RendersColumns columns first)
    (hliterals : RendersList RendersEntry literals second) :
    AllInner (phrase ifNotExists ["IF", "NOT", "EXISTS"] ++ name ::
      (first ++ plain "WITH" :: plain "(" :: (second ++ [plain ")"]))) := by
  have hphrase : AllInner (phrase ifNotExists ["IF", "NOT", "EXISTS"]) :=
    allInner_phrase (by decide) ifNotExists
  have hfirst := allInner_rendersColumns hcolumns
  have hsecond := allInner_rendersList allInner_rendersEntry hliterals
  simp (disch := decide) [hphrase, hfirst, hsecond, isInner_spelled hname, isInner_plain]

theorem hasQuery_of_allInner {tokens : List Token} (h : AllInner tokens) (depth : Int) :
    StatementKind.hasQuery depth tokens = false := by
  induction tokens generalizing depth with
  | nil => rfl
  | cons token tokens ih =>
    obtain ⟨⟨-, hkeyword⟩, hrest⟩ := allInner_cons.mp h
    unfold StatementKind.hasQuery
    split
    · exact ih hrest _
    split
    · exact ih hrest _
    · simp [hkeyword, ih hrest]

theorem isPart_phrase {words : List String} (h : ∀ word ∈ words, word ∈ innerTexts ++ grammarWords)
    (said : Bool) : ∀ token ∈ phrase said words, token.IsPart := by
  cases said with
  | false => simp [phrase]
  | true =>
    intro token htoken
    obtain ⟨word, hword, rfl⟩ := List.mem_map.mp htoken
    exact isPart_plain (h word hword)

/-- What says a tree is made of the parts of one statement. -/
theorem isPart_renders {tree : Tree} {tokens : List Token} (h : Renders tree tokens) :
    ∀ token ∈ tokens, token.IsPart := by
  cases tree with
  | register registration =>
    obtain ⟨name, type, hspells, htype, rfl⟩ := h
    have hphrase : ∀ token ∈ phrase registration.ifNotExists ["IF", "NOT", "EXISTS"],
        token.IsPart := isPart_phrase (by decide) registration.ifNotExists
    have htypeParts : ∀ token ∈ type, token.IsPart := fun token htoken =>
      (allInner_rendersType registration.type htype token htoken).1
    simp (disch := decide) only [List.forall_mem_cons, List.forall_mem_append, isPart_plain]
    exact ⟨trivial, trivial, hphrase, (isInner_spelled hspells).1, trivial, htypeParts⟩
  | create kind declaration properties =>
    obtain ⟨name, columns, literals, hspells, hcolumns, hliterals, rfl⟩ := h
    have hreplace : ∀ token ∈ phrase declaration.orReplace ["OR", "REPLACE"], token.IsPart :=
      isPart_phrase (by decide) declaration.orReplace
    have hsource : ∀ token ∈ phrase declaration.isSource ["SOURCE"], token.IsPart :=
      isPart_phrase (by decide) declaration.isSource
    have hkind : (plain kind.keyword).IsPart :=
      isPart_plain (List.mem_append_right innerTexts (keyword_mem kind))
    have hdeclared := allInner_declared declaration.ifNotExists hspells hcolumns hliterals
    refine List.forall_mem_cons.mpr ⟨isPart_plain (by decide), ?_⟩
    refine List.forall_mem_append.mpr ⟨hreplace, List.forall_mem_append.mpr ⟨hsource, ?_⟩⟩
    exact List.forall_mem_cons.mpr ⟨hkind, fun token htoken => (hdeclared token htoken).1⟩

end TopicPlan.Sql
