import TopicPlan.Proofs.Numerals
import TopicPlan.Proofs.Readings
import TopicPlan.Proofs.Splitting

/-! Statements as trees, and the tokens that say them. A name may be quoted, and has to be where it is
not in upper case, is `AS`, or names a type that is built in; numerals may start with zeros. Main
statement: every valid tree can be said. -/
namespace TopicPlan.Sql
open Text

def plain (text : String) : Token := ⟨.plain, text⟩

/-- A name that needs no quotes as far as its characters go. -/
def IsWord (name : String) : Prop := isName name.toList = true

def Token.Spells (token : Token) (name : String) : Prop :=
  token.text = name ∧ (token.kind = .quoted ∨
    token.kind = .plain ∧ IsWord name ∧ Text.upper name = name ∧ name ≠ "AS")

def Token.Numbers (token : Token) (n : Nat) : Prop :=
  ∃ digits, IsNumeral digits ∧ ofDigits digits = n ∧
    token = ⟨.number, String.ofList (digitChars digits)⟩

def typeWords : List String :=
  ["ARRAY", "MAP", "STRUCT", "DECIMAL", "INT", "VARCHAR"] ++ BaseType.all.map BaseType.name

/-- Items with commas between them, at least one of them. -/
def RendersList {α : Type} (renders : α → List Token → Prop) : List α → List Token → Prop
  | [], _ => False
  | item :: rest, tokens => ∃ first, renders item first ∧
      (rest = [] ∧ tokens = first ∨
        ∃ more, RendersList renders rest more ∧ tokens = first ++ plain "," :: more)

mutual

def RendersType : DataType → List Token → Prop
  | .base base, tokens => tokens = [plain base.name]
  | .decimal precision scale, tokens => ∃ first second : Token,
      first.Numbers precision.toNat ∧ second.Numbers scale.toNat ∧
      tokens = [plain "DECIMAL", plain "(", first, plain ",", second, plain ")"]
  | .array item, tokens => ∃ inner, RendersType item inner ∧
      tokens = plain "ARRAY" :: plain "<" :: (inner ++ [plain ">"])
  | .map key value, tokens => ∃ first second, RendersType key first ∧ RendersType value second ∧
      tokens = plain "MAP" :: plain "<" :: (first ++ plain "," :: (second ++ [plain ">"]))
  | .struct fields, tokens =>
      fields = [] ∧ tokens = [plain "STRUCT", plain "<>"] ∨
      fields = [] ∧ tokens = [plain "STRUCT", plain "<", plain ">"] ∨
      ∃ inner, RendersFields fields inner ∧
        tokens = plain "STRUCT" :: plain "<" :: (inner ++ [plain ">"])
  | .reference name, tokens => ∃ token : Token, token.Spells name ∧
      (token.kind = .plain → name ∉ typeWords) ∧ tokens = [token]

def RendersFields : Fields → List Token → Prop
  | [], _ => False
  | (name, type) :: rest, tokens => ∃ (token : Token) (inner : List Token),
      token.Spells name ∧ RendersType type inner ∧
      (rest = [] ∧ tokens = token :: inner ∨
        ∃ more, RendersFields rest more ∧ tokens = token :: (inner ++ plain "," :: more))

end

def Constraint.tokens : Constraint → List Token
  | .none => []
  | .key => [plain "KEY"]
  | .primaryKey => [plain "PRIMARY", plain "KEY"]
  | .headers => [plain "HEADERS"]
  | .header text => [plain "HEADER", plain "(", ⟨.string, text⟩, plain ")"]

def RendersColumn (column : Column) (tokens : List Token) : Prop :=
  ∃ (name : Token) (type : List Token), name.Spells column.name ∧ RendersType column.type type ∧
    tokens = name :: (type ++ column.constraint.tokens)

/-- Columns stand between parentheses, which are left out with them. -/
def RendersColumns (columns : List Column) (tokens : List Token) : Prop :=
  columns = [] ∧ tokens = [] ∨
    ∃ inner, RendersList RendersColumn columns inner ∧ tokens = plain "(" :: (inner ++ [plain ")"])

def RendersLiteral : Literal → List Token → Prop
  | .text value, tokens => tokens = [⟨.string, value⟩]
  | .bool value, tokens => tokens = [plain (if value then "TRUE" else "FALSE")]
  | .int value, tokens => ∃ (token : Token) (n : Nat), token.Numbers n ∧
      (value = n ∧ tokens = [token] ∨ value = -n ∧ tokens = [plain "-", token])
  | .real _, _ | .null, _ => False

def RendersEntry (entry : String × Literal) (tokens : List Token) : Prop :=
  ∃ (name : Token) (value : List Token), name.Spells entry.1 ∧ RendersLiteral entry.2 value ∧
    tokens = name :: plain "=" :: value

def phrase (said : Bool) (words : List String) : List Token := if said then words.map plain else []

/-- A type registration, or a declaration of a kind with the properties that its literals give. -/
inductive Tree where
  | register (registration : TypeRegistration)
  | create (kind : SourceKind) (declaration : Declaration) (properties : Properties)

def Tree.statement : Tree → Statement
  | .register registration => .register registration
  | .create kind declaration properties => .create { declaration with kind, properties }

def Renders : Tree → List Token → Prop
  | .register registration, tokens => ∃ (name : Token) (type : List Token),
      name.Spells registration.name ∧ RendersType registration.type type ∧
      tokens = plain "REGISTER" :: plain "TYPE" ::
        (phrase registration.ifNotExists ["IF", "NOT", "EXISTS"] ++ name :: plain "AS" :: type)
  | .create kind declaration _, tokens =>
      ∃ (name : Token) (columns literals : List Token),
      name.Spells declaration.name ∧ RendersColumns declaration.columns columns ∧
      RendersList RendersEntry declaration.literals literals ∧
      tokens = plain "CREATE" :: (phrase declaration.orReplace ["OR", "REPLACE"] ++
        (phrase declaration.isSource ["SOURCE"] ++ plain kind.keyword ::
          (phrase declaration.ifNotExists ["IF", "NOT", "EXISTS"] ++ name ::
            (columns ++ plain "WITH" :: plain "(" :: (literals ++ [plain ")"])))))

/-- Tokens that say trees in turn. Any number of semicolons may stand before and after each of them,
and at least one stands between two. -/
def RendersScript : List Tree → List Token → Prop
  | [], tokens => ∀ token ∈ tokens, token = semicolon
  | tree :: rest, tokens => ∃ before own after : List Token,
      (∀ token ∈ before, token = semicolon) ∧ Renders tree own ∧ RendersScript rest after ∧
      (∀ token ∈ after.head?, token = semicolon) ∧ tokens = before ++ (own ++ after)

mutual

/-- Names are words, and decimals have a precision of at least one and a scale of at most that. -/
def DataType.Valid : DataType → Prop
  | .base _ => True
  | .decimal precision scale => 1 ≤ precision ∧ 0 ≤ scale ∧ scale ≤ precision ∧
      precision.toNat < tenPow digitLimit
  | .array item => item.Valid
  | .map key value => key.Valid ∧ value.Valid
  | .struct fields => ValidFields fields
  | .reference name => IsWord name

def ValidFields : Fields → Prop
  | [] => True
  | (name, type) :: rest => IsWord name ∧ type.Valid ∧ ValidFields rest

end

/-- Strings, truth values, and integers of no more digits than can be read. -/
def Literal.Valid : Literal → Prop
  | .text _ | .bool _ => True
  | .int value => value.natAbs < tenPow digitLimit
  | .real _ | .null => False

def SourceKind.Allows : SourceKind → Constraint → Prop
  | .stream, .primaryKey | .table, .key => False
  | _, _ => True

theorem checkColumns_cons_eq_ok {kind : SourceKind} {seen : List String} {column : Column}
    {rest : List Column} :
    checkColumns kind seen (column :: rest) = .ok () ↔ column.name ∉ seen ∧
      kind.Allows column.constraint ∧ checkColumns kind (column.name :: seen) rest = .ok () := by
  obtain ⟨name, type, constraint⟩ := column
  rw [checkColumns.eq_def kind seen (_ :: rest)]
  by_cases hseen : name ∈ seen
  · simp [hseen]
  · cases kind <;> cases constraint <;> simp [hseen, SourceKind.Allows]

/-- A declaration whose columns and properties have different names and are valid one by one. -/
structure Declaration.Valid (declaration : Declaration) (kind : SourceKind) : Prop where
  name : IsWord declaration.name
  columns : ∀ column ∈ declaration.columns,
    IsWord column.name ∧ column.type.Valid ∧ kind.Allows column.constraint
  columnNames : (declaration.columns.map (·.name)).Nodup
  literals : ∀ entry ∈ declaration.literals, IsWord entry.1 ∧ entry.2.Valid
  literalNames : (declaration.literals.map fun entry => Text.upper entry.1).Nodup

/-- The properties of a valid tree are those that its literals give. -/
def Tree.Valid : Tree → Prop
  | .register registration => IsWord registration.name ∧ registration.type.Valid
  | .create kind declaration properties => declaration.Valid kind ∧
      Properties.ofLiterals declaration.literals = .ok properties

theorem exists_numbers {n : Nat} (h : n < tenPow digitLimit) : ∃ token : Token, token.Numbers n := by
  obtain ⟨digits, hdigits, hvalue⟩ := exists_numeral h
  exact ⟨_, digits, hdigits, hvalue, rfl⟩

theorem spells_quoted (name : String) : Token.Spells ⟨.quoted, name⟩ name := ⟨rfl, Or.inl rfl⟩

theorem exists_rendersList {α : Type} {renders : α → List Token → Prop} {items : List α}
    (hne : items ≠ []) (h : ∀ item ∈ items, ∃ tokens, renders item tokens) :
    ∃ tokens, RendersList renders items tokens := by
  induction items with
  | nil => exact absurd rfl hne
  | cons item rest ih =>
    obtain ⟨first, hfirst⟩ := h item (by simp)
    cases rest with
    | nil => exact ⟨first, first, hfirst, Or.inl ⟨rfl, rfl⟩⟩
    | cons next rest =>
      obtain ⟨more, hmore⟩ := ih (by simp) fun other hother => h other (List.mem_cons_of_mem _ hother)
      exact ⟨_, first, hfirst, Or.inr ⟨more, hmore, rfl⟩⟩

mutual

theorem exists_rendersType : (type : DataType) → type.Valid → ∃ tokens, RendersType type tokens
  | .base base, _ => ⟨_, rfl⟩
  | .decimal precision scale, h => by
    obtain ⟨hprecision, hscale, hle, hlimit⟩ := h
    have hscaleLimit : scale.toNat < tenPow digitLimit :=
      Nat.lt_of_le_of_lt (Int.toNat_le_toNat hle) hlimit
    obtain ⟨first, hfirst⟩ := exists_numbers hlimit
    obtain ⟨second, hsecond⟩ := exists_numbers hscaleLimit
    exact ⟨_, first, second, hfirst, hsecond, rfl⟩
  | .array item, h => by
    obtain ⟨inner, hinner⟩ := exists_rendersType item h
    exact ⟨_, inner, hinner, rfl⟩
  | .map key value, h => by
    obtain ⟨first, hfirst⟩ := exists_rendersType key h.1
    obtain ⟨second, hsecond⟩ := exists_rendersType value h.2
    exact ⟨_, first, second, hfirst, hsecond, rfl⟩
  | .struct fields, h => by
    by_cases hfields : fields = []
    · exact ⟨_, Or.inl ⟨hfields, rfl⟩⟩
    · obtain ⟨inner, hinner⟩ := exists_rendersFields fields hfields h
      exact ⟨_, Or.inr (Or.inr ⟨inner, hinner, rfl⟩)⟩
  | .reference name, _ => ⟨_, ⟨.quoted, name⟩, spells_quoted name, by simp, rfl⟩

theorem exists_rendersFields : (fields : Fields) → fields ≠ [] → ValidFields fields →
    ∃ tokens, RendersFields fields tokens
  | [], hne, _ => absurd rfl hne
  | (name, type) :: rest, _, h => by
    obtain ⟨inner, hinner⟩ := exists_rendersType type h.2.1
    by_cases hrest : rest = []
    · exact ⟨_, ⟨.quoted, name⟩, inner, spells_quoted name, hinner, Or.inl ⟨hrest, rfl⟩⟩
    · obtain ⟨more, hmore⟩ := exists_rendersFields rest hrest h.2.2
      exact ⟨_, ⟨.quoted, name⟩, inner, spells_quoted name, hinner, Or.inr ⟨more, hmore, rfl⟩⟩

end

theorem exists_rendersLiteral {value : Literal} (h : value.Valid) :
    ∃ tokens, RendersLiteral value tokens := by
  cases value with
  | text value => exact ⟨_, rfl⟩
  | bool value => exact ⟨_, rfl⟩
  | int value =>
    obtain ⟨token, htoken⟩ := exists_numbers h
    rcases Int.natAbs_eq value with hvalue | hvalue
    · exact ⟨_, token, _, htoken, Or.inl ⟨hvalue, rfl⟩⟩
    · exact ⟨_, token, _, htoken, Or.inr ⟨hvalue, rfl⟩⟩
  | real value => cases h
  | null => cases h

theorem isOk_ofLiterals_nil : (Properties.ofLiterals []).isOk = false := by decide +kernel

theorem exists_renders {tree : Tree} (h : tree.Valid) : ∃ tokens, Renders tree tokens := by
  cases tree with
  | register registration =>
    obtain ⟨type, htype⟩ := exists_rendersType registration.type h.2
    exact ⟨_, _, type, spells_quoted registration.name, htype, rfl⟩
  | create kind declaration properties =>
    obtain ⟨hvalid, hproperties⟩ := h
    have hcolumns : ∃ tokens, RendersColumns declaration.columns tokens := by
      by_cases hnil : declaration.columns = []
      · exact ⟨[], Or.inl ⟨hnil, rfl⟩⟩
      · have hlist : ∃ tokens, RendersList RendersColumn declaration.columns tokens := by
          refine exists_rendersList hnil fun column hcolumn => ?_
          obtain ⟨type, htype⟩ := exists_rendersType _ (hvalid.columns column hcolumn).2.1
          exact ⟨_, _, type, spells_quoted column.name, htype, rfl⟩
        obtain ⟨inner, hinner⟩ := hlist
        exact ⟨_, Or.inr ⟨inner, hinner, rfl⟩⟩
    obtain ⟨columns, hcolumns⟩ := hcolumns
    have hne : declaration.literals ≠ [] := by
      intro hnil
      have hnone := isOk_ofLiterals_nil
      rw [← hnil, hproperties] at hnone
      cases hnone
    have hentries : ∃ tokens, RendersList RendersEntry declaration.literals tokens := by
      refine exists_rendersList hne fun entry hentry => ?_
      obtain ⟨value, hvalue⟩ := exists_rendersLiteral (hvalid.literals entry hentry).2
      exact ⟨_, _, value, spells_quoted entry.1, hvalue, rfl⟩
    obtain ⟨literals, hliterals⟩ := hentries
    exact ⟨_, _, columns, literals, spells_quoted declaration.name, hcolumns, hliterals, rfl⟩

theorem RendersScript.cons_semicolon {trees : List Tree} {tokens : List Token}
    (h : RendersScript trees tokens) : RendersScript trees (semicolon :: tokens) := by
  cases trees with
  | nil => exact List.forall_mem_cons.mpr ⟨rfl, h⟩
  | cons tree rest =>
    obtain ⟨before, own, after, hbefore, hown, hafter, hhead, rfl⟩ := h
    exact ⟨semicolon :: before, own, after, List.forall_mem_cons.mpr ⟨rfl, hbefore⟩, hown, hafter,
      hhead, rfl⟩

/-- Valid trees can be said one after the other. -/
theorem exists_rendersScript {trees : List Tree} (h : ∀ tree ∈ trees, tree.Valid) :
    ∃ tokens, RendersScript trees tokens := by
  induction trees with
  | nil => exact ⟨[], by simp [RendersScript]⟩
  | cons tree rest ih =>
    obtain ⟨own, hown⟩ := exists_renders (h tree (by simp))
    obtain ⟨after, hafter⟩ := ih fun other hother => h other (List.mem_cons_of_mem tree hother)
    exact ⟨_, [], own, semicolon :: after, by simp, hown, hafter.cons_semicolon, by simp, rfl⟩

end TopicPlan.Sql
