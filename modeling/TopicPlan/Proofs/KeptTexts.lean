import TopicPlan.Proofs.ClauseValidation
import TopicPlan.Proofs.WellFormedness

/-! Texts that are kept to the letter. What a quoted name or a string says stands in the statement that
is read as it is written, with two exceptions: the names of properties are in upper case, and counts and
truth values are kept as such, whatever strings denote them. -/
namespace TopicPlan.Sql

/-! ### The texts of a statement -/

namespace DataType

mutual

def names : DataType → List String
  | .base _ | .decimal .. => []
  | .array item => item.names
  | .map key value => key.names ++ value.names
  | .struct fields => fieldNames fields
  | .reference name => [name]

def fieldNames : Fields → List String
  | [] => []
  | (name, type) :: rest => name :: (type.names ++ fieldNames rest)

end

end DataType
open DataType

def Column.names (column : Column) : List String := column.name :: column.type.names

def Statement.names : Statement → List String
  | .register registration => registration.name :: registration.type.names
  | .create source => source.name :: source.columns.flatMap Column.names

def Statement.properties : Statement → List (String × Literal)
  | .register _ => []
  | .create source => source.properties.values

/-- The strings in a statement: keys of headers, and what properties are kept as. -/
def Statement.strings : Statement → List String
  | .register _ => []
  | .create source =>
    source.columns.filterMap Column.headerKey? ++ source.properties.values.filterMap (·.2.text?)

/-- A quoted name is one of the statement, or in upper case that of a property. What reads as a mark may
stand for the mark instead. -/
def Statement.KeepsName (tree : Statement) (text : String) : Prop :=
  text ∈ markTexts ∨ text ∈ tree.names ∨ ∃ kept, (Text.upper text, kept) ∈ tree.properties

/-- A string is one of the statement, or a number or truth value is kept that it denotes. -/
def Statement.KeepsString (tree : Statement) (text : String) : Prop :=
  text ∈ tree.strings ∨ ∃ property ∈ [Property.partitions, .replicas, .wrapSingleValue],
    ∃ kept, property.Keeps (.text text) kept ∧ (property.name, kept) ∈ tree.properties

/-! ### What the grammar keeps -/

structure Keeps (named said : String → Prop) (tokens : List Token) : Prop where
  quoted : ∀ token ∈ tokens, token.kind = .quoted → token.text ∈ markTexts ∨ named token.text
  string : ∀ token ∈ tokens, token.kind = .string → said token.text

namespace Keeps

variable {named named' said said' : String → Prop} {tokens others : List Token} {token : Token}

theorem mono (h : Keeps named said tokens) (hnamed : ∀ text, named text → named' text)
    (hsaid : ∀ text, said text → said' text) : Keeps named' said' tokens where
  quoted token htoken hkind := (h.quoted token htoken hkind).imp_right (hnamed _)
  string token htoken hkind := hsaid _ (h.string token htoken hkind)

theorem nil : Keeps named said [] := ⟨by simp, by simp⟩

theorem cons (hquoted : token.kind = .quoted → token.text ∈ markTexts ∨ named token.text)
    (hstring : token.kind = .string → said token.text) (h : Keeps named said tokens) :
    Keeps named said (token :: tokens) :=
  ⟨List.forall_mem_cons.mpr ⟨hquoted, h.quoted⟩, List.forall_mem_cons.mpr ⟨hstring, h.string⟩⟩

theorem append (h : Keeps named said tokens) (hothers : Keeps named said others) :
    Keeps named said (tokens ++ others) :=
  ⟨List.forall_mem_append.mpr ⟨h.quoted, hothers.quoted⟩,
    List.forall_mem_append.mpr ⟨h.string, hothers.string⟩⟩

theorem keyword {word : String} (hword : token.isKeyword word = true)
    (h : Keeps named said tokens) : Keeps named said (token :: tokens) := by
  refine h.cons ?_ ?_
  · intro hkind
    simp [Token.isKeyword, Token.isQuoted, hkind] at hword
  · intro hkind
    simp [Token.isKeyword, Token.isWord, Token.isLiteral, hkind] at hword

theorem mark {mark : String} (hmark : mark ∈ markTexts) (hspells : Spelling.lax.Spells mark token)
    (h : Keeps named said tokens) : Keeps named said (token :: tokens) := by
  obtain ⟨hliteral, rfl⟩ := hspells
  refine h.cons (fun _ => Or.inl hmark) ?_
  intro hkind
  simp [Token.isLiteral, hkind] at hliteral

theorem number (hnumber : token.kind = .number) (h : Keeps named said tokens) :
    Keeps named said (token :: tokens) :=
  h.cons (by simp [hnumber]) (by simp [hnumber])

theorem name {name : String} (hname : token.Names name) (hnamed : token.text = name → named token.text)
    (h : Keeps named said tokens) : Keeps named said (token :: tokens) := by
  cases hname with
  | quoted hquoted => exact h.cons (fun _ => Or.inr (hnamed rfl)) (by simp [hquoted])
  | unquoted hword => exact h.keyword hword

theorem text (hstring : token.kind = .string) (hsaid : said token.text)
    (h : Keeps named said tokens) : Keeps named said (token :: tokens) :=
  h.cons (by simp [hstring]) fun _ => hsaid

theorem words {words : List String} (h : SaysWords words tokens) : Keeps named said tokens := by
  induction h with
  | nil => exact .nil
  | cons hword _ ih => exact ih.keyword hword

theorem phrase {words : List String} {stated : Bool} (h : SaysPhrase words stated tokens) :
    Keeps named said tokens := by
  cases stated with
  | true => exact .words h
  | false =>
    obtain rfl : tokens = [] := h
    exact .nil

theorem list {α : Type} {rule : α → List Token → Prop} {named said : α → String → Prop}
    {xs : List α} (h : SaysList .lax rule xs tokens)
    (hrule : ∀ x tokens, rule x tokens → Keeps (named x) (said x) tokens) :
    Keeps (fun text => ∃ x ∈ xs, named x text) (fun text => ∃ x ∈ xs, said x text) tokens := by
  induction h with
  | last hx =>
    exact (hrule _ _ hx).mono (fun _ h => ⟨_, List.mem_cons_self, h⟩) fun _ h =>
      ⟨_, List.mem_cons_self, h⟩
  | more hx hcomma _ ih =>
    refine ((hrule _ _ hx).mono ?_ ?_).append (.mark (by decide) hcomma (ih.mono ?_ ?_))
    · exact fun _ h => ⟨_, List.mem_cons_self, h⟩
    · exact fun _ h => ⟨_, List.mem_cons_self, h⟩
    · exact fun _ ⟨x, hx, h⟩ => ⟨x, List.mem_cons_of_mem _ hx, h⟩
    · exact fun _ ⟨x, hx, h⟩ => ⟨x, List.mem_cons_of_mem _ hx, h⟩

end Keeps

mutual

theorem keeps_type : {type : DataType} → {tokens : List Token} → SaysType .lax type tokens →
    Keeps (· ∈ type.names) (fun _ => False) tokens
  | _, _, .base hword _ => .keyword hword .nil
  | _, _, .bounded hword hopening hlength hclosing =>
    .keyword hword (.mark (by decide) hopening (.number hlength.1 (.mark (by decide) hclosing .nil)))
  | _, _, .decimal hword hopening hfirst hcomma hsecond hclosing _ _ =>
    .keyword hword (.mark (by decide) hopening (.number hfirst.1 (.mark (by decide) hcomma
      (.number hsecond.1 (.mark (by decide) hclosing .nil)))))
  | _, _, .array hword hopening hitem hclosing =>
    .keyword hword (.mark (by decide) hopening ((keeps_type hitem).append
      (.mark (by decide) hclosing .nil)))
  | _, _, .map hword hopening hkey hcomma hvalue hclosing =>
    have hfirst := (keeps_type hkey).mono (fun _ => List.mem_append_left _) fun _ => id
    have hsecond := (keeps_type hvalue).mono (fun _ => List.mem_append_right _) fun _ => id
    .keyword hword (.mark (by decide) hopening (hfirst.append (.mark (by decide) hcomma
      (hsecond.append (.mark (by decide) hclosing .nil)))))
  | _, _, .joinedStruct hword hboth => .keyword hword (.mark (by decide) hboth .nil)
  | _, _, .emptyStruct hword hopening hclosing =>
    .keyword hword (.mark (by decide) hopening (.mark (by decide) hclosing .nil))
  | _, _, .struct hword hopening hfields hclosing =>
    .keyword hword (.mark (by decide) hopening ((keeps_fields hfields).append
      (.mark (by decide) hclosing .nil)))
  | _, _, .quoted h => .name (.quoted h) (fun _ => List.mem_singleton_self _) .nil
  | _, _, .reference h _ => .keyword h .nil

theorem keeps_fields : {fields : Fields} → {tokens : List Token} → SaysFields .lax fields tokens →
    Keeps (· ∈ fieldNames fields) (fun _ => False) tokens
  | _, _, .last hname htype =>
    .name hname (fun h => h ▸ List.mem_cons_self) ((keeps_type htype).mono
      (fun _ h => List.mem_cons_of_mem _ (List.mem_append_left _ h)) fun _ => id)
  | _, _, .more hname htype hcomma hrest =>
    have hfirst := (keeps_type htype).mono
      (fun _ h => List.mem_cons_of_mem _ (List.mem_append_left _ h)) fun _ => id
    have hothers := (keeps_fields hrest).mono
      (fun _ h => List.mem_cons_of_mem _ (List.mem_append_right _ h)) fun _ => id
    .name hname (fun h => h ▸ List.mem_cons_self)
      (hfirst.append (.mark (by decide) hcomma hothers))

end

theorem keeps_constraint {name : String} {type : DataType} {constraint : Constraint}
    {tokens : List Token} (h : SaysConstraint .lax constraint tokens) {named : String → Prop} :
    Keeps named (fun text => Column.headerKey? ⟨name, type, constraint⟩ = some text) tokens := by
  cases h with
  | none => exact .nil
  | key hkey => exact .keyword hkey .nil
  | primaryKey hfirst hsecond => exact .keyword hfirst (.keyword hsecond .nil)
  | headers hheaders => exact .keyword hheaders .nil
  | header hheader hopening htext hclosing =>
    exact .keyword hheader (.mark (by decide) hopening (.text htext rfl
      (.mark (by decide) hclosing .nil)))

theorem keeps_column {column : Column} {tokens : List Token} (h : SaysColumn .lax column tokens) :
    Keeps (· ∈ column.names) (fun text => column.headerKey? = some text) tokens := by
  cases h with
  | mk hname htype hconstraint =>
    refine .name hname (fun h => h ▸ List.mem_cons_self) (.append ?_ (keeps_constraint hconstraint))
    exact (keeps_type htype).mono (fun _ => List.mem_cons_of_mem _) fun _ => False.elim

theorem keeps_columns {columns : List Column} {tokens : List Token}
    (h : SaysColumns .lax columns tokens) :
    Keeps (· ∈ columns.flatMap Column.names) (· ∈ columns.filterMap Column.headerKey?) tokens := by
  cases h with
  | none => exact .nil
  | some hopening hcolumns hclosing =>
    have hlist := Keeps.list hcolumns fun _ _ h => keeps_column h
    refine .mark (by decide) hopening (.append ?_ (.mark (by decide) hclosing .nil))
    exact hlist.mono (fun _ => List.mem_flatMap.mpr) fun _ => List.mem_filterMap.mpr

theorem keeps_literal {value : Literal} {tokens : List Token} (h : SaysLiteral .lax value tokens) :
    Keeps (fun _ => False) (fun text => value = .text text) tokens := by
  cases h with
  | text htext => exact .text htext rfl .nil
  | number hnumber _ => exact .number hnumber .nil
  | negative hsign hnumber _ => exact .mark (by decide) hsign (.number hnumber .nil)
  | true hword | false hword => exact .keyword hword .nil

theorem keeps_entry {entry : String × Literal} {tokens : List Token}
    (h : SaysEntry .lax entry tokens) :
    Keeps (Text.upper · = entry.1) (fun text => entry.2 = .text text) tokens := by
  cases h with
  | mk hname hequals hvalue =>
    refine .name hname (fun h => congrArg Text.upper h) (.mark (by decide) hequals ?_)
    exact (keeps_literal hvalue).mono (fun _ => False.elim) fun _ => id

theorem keeps_clause {literals : List (String × Literal)} {tokens : List Token}
    (h : SaysClause .lax literals tokens) :
    Keeps (fun text => ∃ entry ∈ literals, Text.upper text = entry.1)
      (fun text => ∃ entry ∈ literals, entry.2 = .text text) tokens := by
  cases h with
  | none => exact .nil
  | some hword hopening hentries hclosing =>
    have hlist := Keeps.list hentries fun _ _ h => keeps_entry h
    exact .keyword hword (.mark (by decide) hopening (hlist.append (.mark (by decide) hclosing .nil)))

theorem keeps_declaration {kind : SourceKind} {declaration : Declaration} {tokens : List Token}
    (h : SaysDeclaration .lax kind declaration tokens) :
    Keeps (fun text => text ∈ declaration.name :: declaration.columns.flatMap Column.names ∨
        ∃ entry ∈ declaration.literals, Text.upper text = entry.1)
      (fun text => text ∈ declaration.columns.filterMap Column.headerKey? ∨
        ∃ entry ∈ declaration.literals, entry.2 = .text text) tokens := by
  cases h with
  | mk hcreate hreplace hsource hkind hexists hname hcolumns hclause =>
    refine .keyword hcreate ((Keeps.phrase hreplace).append ((Keeps.phrase hsource).append
      (.keyword hkind ((Keeps.phrase hexists).append (.name hname ?_ (.append ?_ ?_))))))
    · exact fun h => Or.inl (h ▸ List.mem_cons_self)
    · exact (keeps_columns hcolumns).mono (fun _ h => Or.inl (List.mem_cons_of_mem _ h)) fun _ => Or.inl
    · exact (keeps_clause hclause).mono (fun _ => Or.inr) fun _ => Or.inr

/-! ### Whole statements -/

theorem upper_of_saysClause {spelling : Spelling} {literals : List (String × Literal)}
    {tokens : List Token} (h : SaysClause spelling literals tokens) :
    ∀ entry ∈ literals, Text.upper entry.1 = entry.1 := by
  have hone {entry : String × Literal} {tokens : List Token} (h : SaysEntry spelling entry tokens) :
      Text.upper entry.1 = entry.1 := by
    cases h with
    | mk => exact Text.upper_upper _
  cases h with
  | none => exact List.forall_mem_nil _
  | some _ _ hentries _ =>
    induction hentries with
    | last h => exact List.forall_mem_singleton.mpr (hone h)
    | more h _ _ ih => exact List.forall_mem_cons.mpr ⟨hone h, ih⟩

theorem upper_of_saysDeclaration {spelling : Spelling} {kind : SourceKind} {declaration : Declaration}
    {tokens : List Token} (h : SaysDeclaration spelling kind declaration tokens) :
    ∀ entry ∈ declaration.literals, Text.upper entry.1 = entry.1 := by
  cases h with
  | mk _ _ _ _ _ _ _ hclause => exact upper_of_saysClause hclause

/-- A string that a property is given is kept as it is, unless the property is a count or a truth
value. -/
theorem keepsString_of_keeps {source : Source} {property : Property} {text : String} {kept : Literal}
    (hkeeps : property.Keeps (.text text) kept)
    (hkept : (property.name, kept) ∈ source.properties.values) :
    (Statement.create source).KeepsString text := by
  have hstring (hsame : kept = .text text) : text ∈ (Statement.create source).strings := by
    rw [hsame] at hkept
    exact List.mem_append_right _ (List.mem_filterMap.mpr ⟨_, hkept, rfl⟩)
  cases property with
  | kafkaTopic | format | keyFormat | valueFormat => exact Or.inl (hstring hkeeps.1)
  | partitions => exact Or.inr ⟨.partitions, by simp, kept, hkeeps, hkept⟩
  | replicas => exact Or.inr ⟨.replicas, by simp, kept, hkeeps, hkept⟩
  | wrapSingleValue => exact Or.inr ⟨.wrapSingleValue, by simp, kept, hkeeps, hkept⟩
  | free _ => exact Or.inl (hstring hkeeps)

theorem Says.keeps {kind : StatementKind} {tree : Statement} {tokens : List Token}
    (h : Says .lax kind tree tokens) :
    Keeps (fun text => text ∈ tree.names ∨ ∃ kept, (Text.upper text, kept) ∈ tree.properties)
      tree.KeepsString tokens := by
  cases h with
  | register hregister htype hexists hname has hdefinition =>
    refine .keyword hregister (.keyword htype ((Keeps.phrase hexists).append
      (.name hname ?_ (.keyword has ?_))))
    · exact fun h => Or.inl (h ▸ List.mem_cons_self)
    · exact (keeps_type hdefinition).mono (fun _ h => Or.inl (List.mem_cons_of_mem _ h)) fun _ =>
        False.elim
  | @create kind declaration properties tokens hdeclaration hcolumns hallowed hnames hproperties =>
    have hupper := upper_of_saysDeclaration hdeclaration
    have hdistinct : (declaration.literals.map fun entry => Text.upper entry.1).Nodup := by
      rwa [List.map_congr_left hupper]
    have hkept {entry : String × Literal} (hentry : entry ∈ declaration.literals) :=
      Properties.exists_kept_of_gives hdistinct hproperties ⟨entry.1, hentry, hupper entry hentry⟩
    refine (keeps_declaration hdeclaration).mono (fun text h => h.imp_right ?_) fun text h => ?_
    · rintro ⟨entry, hentry, hname⟩
      obtain ⟨-, kept, -, -, hmem⟩ := hkept hentry
      exact ⟨kept, hname ▸ hmem⟩
    · rcases h with hheader | ⟨entry, hentry, htext⟩
      · exact Or.inl (List.mem_append_left _ hheader)
      · obtain ⟨property, kept, hname, hkeeps, hmem⟩ := hkept hentry
        rw [htext] at hkeeps
        exact keepsString_of_keeps hkeeps (hname ▸ hmem)

theorem Opens.mem {tokens opened : List Token} (h : Opens .lax tokens opened) {token : Token}
    (hmem : token ∈ tokens) : token ∈ opened ∨ token.isLiteral = false ∧ token.text = ">>" := by
  induction h with
  | nil => cases hmem
  | keep first _ ih =>
    rcases List.mem_cons.mp hmem with rfl | hrest
    · exact Or.inl List.mem_cons_self
    · exact (ih hrest).imp_left (List.mem_cons_of_mem _)
  | joined hmark _ ih =>
    rcases List.mem_cons.mp hmem with rfl | hrest
    · exact Or.inr hmark
    · exact (ih hrest).imp_left fun h => List.mem_cons_of_mem _ (List.mem_cons_of_mem _ h)

/-- The quoted names and the strings of a statement are kept. -/
theorem keeps_statement {tokens : List Token} {tree : Statement}
    (h : statement tokens = .ok (some tree)) {token : Token} (hmem : token ∈ tokens) :
    (token.kind = .quoted → tree.KeepsName token.text) ∧
      (token.kind = .string → tree.KeepsString token.text) := by
  obtain ⟨opened, hopens, hsaid⟩ := says_of_allFit (allFit_lax tokens) h
  rcases hopens.mem hmem with hopened | ⟨hliteral, htext⟩
  · exact ⟨hsaid.keeps.quoted token hopened, hsaid.keeps.string token hopened⟩
  · refine ⟨fun _ => Or.inl ?_, fun hkind => ?_⟩
    · rw [htext]
      decide
    · simp [Token.isLiteral, hkind] at hliteral

end TopicPlan.Sql
