import TopicPlan.Proofs.Results
import TopicPlan.Proofs.TakenTokens
import Mathlib.Data.List.Nodup

/-! What is accepted follows the rules of the grammar, production by production. Main statement: the
tokens of every statement that is read say that statement, with none left over, and by unquoted marks
wherever no quoted token reads as a mark. -/
namespace TopicPlan.Sql
open Reading

variable {α β : Type} {spelling : Spelling}

def SaysField (spelling : Spelling) (field : String × DataType) (tokens : List Token) : Prop :=
  ∃ token inner, token.Names field.1 ∧ SaysType spelling field.2 inner ∧ tokens = token :: inner

theorem follows_named {item : Reading DataType} (hitem : Follows spelling item (SaysType spelling)) :
    Follows spelling (named item) (SaysField spelling) := by
  rw [named_eq]
  refine takesOne_identifier.seq fun name token hname => ?_
  refine hitem.seq fun type inner htype => .give ?_
  rw [List.append_nil]
  exact ⟨token, inner, hname, htype, rfl⟩

theorem saysFields_of_saysList {fields : Fields} {tokens : List Token}
    (h : SaysList spelling (SaysField spelling) fields tokens) :
    SaysFields spelling fields tokens := by
  induction h with
  | last hfield =>
    obtain ⟨token, inner, hname, htype, rfl⟩ := hfield
    exact .last hname htype
  | more hfield hcomma _ ih =>
    obtain ⟨token, inner, hname, htype, rfl⟩ := hfield
    exact .more hname htype hcomma ih

section Types

variable {token : Token}

theorem follows_decimalParameters (hword : token.isKeyword "DECIMAL" = true) :
    Follows spelling decimalParameters fun type after => SaysType spelling type (token :: after) := by
  rw [decimalParameters_eq]
  refine Follows.symbol (by decide) fun opening hopening => ?_
  refine takesOne_integer.seq fun precision first hfirst => ?_
  refine Follows.symbol (by decide) fun comma hcomma => ?_
  refine takesOne_integer.seq fun scale second hsecond => ?_
  refine Follows.symbol (by decide) fun closing hclosing => ?_
  split
  · exact .refuse _
  · next hvalid =>
    exact .give (.decimal hword hopening hfirst hcomma hsecond hclosing (by omega) (by omega))

theorem mem_or_isSome_of_typeWords : ∀ word ∈ typeWords,
    word ∈ ["ARRAY", "MAP", "STRUCT", "DECIMAL"] ∨ (BaseType.ofKeyword? word).isSome := by
  decide +kernel

theorem follows_typeBody {depth : Nat}
    (htype : Follows spelling (typeAt depth) (SaysType spelling)) {name : String}
    (hword : token.isKeyword name = true) :
    Follows spelling (typeBody depth name) fun type after => SaysType spelling type (token :: after) := by
  unfold typeBody
  split
  · next harray =>
    subst harray
    refine Follows.symbol (by decide) fun opening hopening => ?_
    refine htype.seq fun item inner hitem => ?_
    refine Follows.closingAngle fun closing hclosing => ?_
    exact .give (.array hword hopening hitem hclosing)
  split
  · next hmap =>
    subst hmap
    refine Follows.symbol (by decide) fun opening hopening => ?_
    refine htype.seq fun key first hkey => ?_
    refine Follows.symbol (by decide) fun comma hcomma => ?_
    refine htype.seq fun value second hvalue => ?_
    refine Follows.closingAngle fun closing hclosing => ?_
    exact .give (.map hword hopening hkey hcomma hvalue hclosing)
  split
  · next hstruct =>
    subst hstruct
    refine Follows.after_symbol (by decide)
      (fun both hboth => .give (.joinedStruct hword hboth)) ?_
    refine Follows.symbol (by decide) fun opening hopening => ?_
    refine Follows.after_symbol (by decide)
      (fun closing hclosing => .give (.emptyStruct hword hopening hclosing)) ?_
    refine (follows_commaSeparated (follows_named htype)).seq fun fields inner hfields => ?_
    refine Follows.closingAngle fun closing hclosing => ?_
    exact .give (.struct hword hopening (saysFields_of_saysList hfields) hclosing)
  split
  · next hdecimal =>
    subst hdecimal
    exact follows_decimalParameters hword
  split
  · next hnone =>
    refine .give (.reference hword fun hmem => ?_)
    have hbuiltIn := mem_or_isSome_of_typeWords name hmem
    simp_all
  · next base hbase =>
    have hplain : SaysType spelling (.base base) [token] := .base hword hbase
    split
    · next hvarchar =>
      subst hvarchar
      refine Follows.after_symbol (by decide) (fun opening hopening => ?_) (.give hplain)
      refine takesOne_integer.seq fun n length hlength => ?_
      refine Follows.symbol (by decide) fun closing hclosing => ?_
      obtain rfl : BaseType.string = base := by simpa [BaseType.ofKeyword?] using hbase
      exact .give (.bounded hword hopening hlength hclosing)
    · exact .give hplain

theorem follows_typeAt (depth : Nat) : Follows spelling (typeAt depth) (SaysType spelling) := by
  induction depth with
  | zero =>
    intro tokens type rest _ h
    cases h
  | succ depth ih =>
    rw [typeAt_succ]
    refine (takesOne_single _ _).seq fun found token hread => ?_
    by_cases hword : token.isWord
    · obtain rfl : token = found := by simpa [hword] using hread
      split
      · next hquoted => exact .give (.quoted (by simpa [Token.isQuoted] using hquoted))
      · next hquoted => exact follows_typeBody ih (by simp [Token.isKeyword, hword, hquoted])
    · simp [hword] at hread

end Types

theorem follows_dataType : Follows spelling dataType (SaysType spelling) :=
  .of_bounded (fun bound => typeAt (bound + 1)) (fun _ => rfl) fun bound => follows_typeAt (bound + 1)

theorem follows_columnConstraint :
    Follows spelling columnConstraint (SaysConstraint spelling) := by
  rw [columnConstraint_eq]
  refine Follows.after (fun _ _ hfits h => keywords?_leaves hfits h) (fun before hbefore => ?_) ?_
  · obtain ⟨first, second, hfirst, hsecond, rfl⟩ := saysWords_pair.mp hbefore
    exact .give (.primaryKey hfirst hsecond)
  refine Follows.after_keyword (fun token hword => .give (.key hword)) ?_
  refine Follows.after_keyword (fun token hword => .give (.headers hword)) ?_
  refine Follows.after_keyword (fun token hword => ?_) (.give .none)
  refine Follows.symbol (by decide) fun opening hopening => ?_
  refine takesOne_stringLiteral.seq fun _ text htext => ?_
  refine Follows.symbol (by decide) fun closing hclosing => ?_
  obtain ⟨hkind, rfl⟩ := htext
  exact .give (.header hword hopening hkind hclosing)

theorem follows_column : Follows spelling column (SaysColumn spelling) := by
  rw [column_eq]
  refine (follows_named follows_dataType).seq fun field _ hfield => ?_
  refine follows_columnConstraint.seq fun constraint second hconstraint => .give ?_
  obtain ⟨token, first, hname, htype, rfl⟩ := hfield
  rw [List.append_nil]
  exact .mk hname htype hconstraint

theorem follows_columns : Follows spelling columns (SaysColumns spelling) := by
  rw [columns_eq]
  refine Follows.after_symbol (by decide) (fun opening hopening => ?_) (.give .none)
  refine (follows_commaSeparated follows_column).seq fun columns inner hcolumns => ?_
  refine Follows.symbol (by decide) fun closing hclosing => ?_
  exact .give (.some hopening hcolumns hclosing)

theorem takesOne_unsigned (negative : Bool) :
    TakesOne spelling (unsigned negative) fun value token =>
      (token.kind = .number ∧ ∃ found, numberOf? token.text.toList = some found ∧
        value = if negative then found.neg else found) ∨
      negative = false ∧ (token.isKeyword "TRUE" = true ∧ value = .bool true ∨
        token.isKeyword "FALSE" = true ∧ value = .bool false) := by
  refine (takesOne_single _ _).mono fun value taken h => ?_
  obtain ⟨token, hread, rfl⟩ := h
  refine ⟨token, ?_, rfl⟩
  split at hread
  · next hkind =>
    split at hread
    · next found hfound =>
      cases hread
      exact Or.inl ⟨by simpa using hkind, found, hfound, rfl⟩
    · cases hread
  split at hread
  · next htrue =>
    cases hread
    simp only [Bool.and_eq_true, Bool.not_eq_true'] at htrue
    exact Or.inr ⟨htrue.1, Or.inl ⟨htrue.2, rfl⟩⟩
  split at hread
  · next hfalse =>
    cases hread
    simp only [Bool.and_eq_true, Bool.not_eq_true'] at hfalse
    exact Or.inr ⟨hfalse.1, Or.inr ⟨hfalse.2, rfl⟩⟩
  · cases hread

theorem follows_signed :
    Follows spelling (after (symbol? "-") (unsigned true) (unsigned false))
      (SaysLiteral spelling) := by
  refine Follows.after_symbol (by decide) (fun sign hsign => ?_) ?_
  · refine (takesOne_unsigned true).mono fun value taken h => ?_
    obtain ⟨token, ⟨hkind, found, hfound, rfl⟩ | ⟨hfalse, -⟩, rfl⟩ := h
    · exact .negative hsign hkind hfound
    · cases hfalse
  · refine (takesOne_unsigned false).mono fun value taken h => ?_
    obtain ⟨token, ⟨hkind, found, hfound, rfl⟩ | ⟨-, ⟨hword, rfl⟩ | ⟨hword, rfl⟩⟩, rfl⟩ := h
    · exact .number hkind hfound
    · exact .true hword
    · exact .false hword

theorem follows_literal : Follows spelling literal (SaysLiteral spelling) := by
  intro tokens value rest hfits h
  cases tokens with
  | nil => cases h
  | cons token tokens =>
    by_cases hkind : token.kind = .string
    · rw [literal_text tokens hkind] at h
      cases h
      exact ⟨[token], .single hfits, .text hkind⟩
    · rw [literal_signed (by simpa using hkind)] at h
      exact follows_signed hfits h

theorem follows_propertyEntry (before : List (String × Literal)) :
    Follows spelling (propertyEntry before) fun entry taken =>
      SaysEntry spelling entry taken ∧ entry.1 ∉ before.map (·.1) := by
  rw [propertyEntry_eq]
  refine takesOne_identifier.seq fun name token hname => ?_
  refine Follows.symbol (by decide) fun equals hequals => ?_
  have hnew : Follows spelling (newName before (Text.upper name)) fun upper taken =>
      upper = Text.upper name ∧ upper ∉ before.map (·.1) ∧ taken = [] := by
    rw [newName_eq]
    split
    · intro tokens upper rest hfits h
      cases h
    · next hfresh => exact .give ⟨rfl, hfresh, rfl⟩
  refine hnew.seq fun upper taken hupper => ?_
  obtain ⟨rfl, hfresh, rfl⟩ := hupper
  refine follows_literal.seq fun value inner hvalue => .give ?_
  rw [List.append_nil]
  exact ⟨.mk hname hequals hvalue, hfresh⟩

def SaysProperties (spelling : Spelling) (before all : List (String × Literal))
    (tokens : List Token) : Prop :=
  ∃ entries inner closing, all = before ++ entries ∧
    SaysList spelling (SaysEntry spelling) entries inner ∧ spelling.Spells ")" closing ∧
    tokens = inner ++ [closing] ∧ ((before.map (·.1)).Nodup → (all.map (·.1)).Nodup)

theorem nodup_concat {before : List (String × Literal)} {entry : String × Literal}
    (hfresh : entry.1 ∉ before.map (·.1)) (h : (before.map (·.1)).Nodup) :
    ((before ++ [entry]).map (·.1)).Nodup := by
  rw [List.map_append, List.map_singleton, ← List.concat_eq_append]
  exact h.concat hfresh

theorem follows_lastProperty {before : List (String × Literal)} {entry : String × Literal}
    {first : List Token} (hentry : SaysEntry spelling entry first)
    (hfresh : entry.1 ∉ before.map (·.1)) :
    Follows spelling (skip (symbol ")") <| give (before ++ [entry])) fun all after =>
      SaysProperties spelling before all (first ++ after) := by
  refine Follows.symbol (by decide) fun closing hclosing => .give ?_
  exact ⟨[entry], first, closing, rfl, .last hentry, hclosing, rfl, nodup_concat hfresh⟩

theorem follows_propertyList (before : List (String × Literal)) (bound : Nat) :
    Follows spelling (propertyList before bound) (SaysProperties spelling before) := by
  induction bound generalizing before with
  | zero =>
    rw [propertyList_zero]
    refine (follows_propertyEntry before).seq fun entry first hentry => ?_
    exact follows_lastProperty hentry.1 hentry.2
  | succ bound ih =>
    rw [propertyList_succ]
    refine (follows_propertyEntry before).seq fun entry first hentry => ?_
    refine Follows.after_symbol (by decide) (fun comma hcomma => ?_)
      (follows_lastProperty hentry.1 hentry.2)
    refine (ih (before ++ [entry])).mono fun all taken hall => ?_
    obtain ⟨entries, inner, closing, rfl, hentries, hclosing, rfl, hnodup⟩ := hall
    refine ⟨entry :: entries, first ++ comma :: inner, closing, by simp,
      .more hentry.1 hcomma hentries, hclosing, by simp, ?_⟩
    intro hbefore
    exact hnodup (nodup_concat hentry.2 hbefore)

theorem follows_withClause :
    Follows spelling withClause fun literals taken =>
      SaysClause spelling literals taken ∧ (literals.map (·.1)).Nodup := by
  rw [withClause_eq]
  refine Follows.after_keyword (fun token hword => ?_) (.give ⟨.none, .nil⟩)
  refine Follows.symbol (by decide) fun opening hopening => ?_
  have hlist : Follows spelling (fun tokens => propertyList [] tokens.length tokens)
      (SaysProperties spelling []) :=
    .of_bounded (propertyList []) (fun _ => rfl) (follows_propertyList [])
  refine hlist.mono fun all taken hall => ?_
  obtain ⟨entries, inner, closing, rfl, hentries, hclosing, rfl, hnodup⟩ := hall
  exact ⟨.some hword hopening hentries hclosing, hnodup .nil⟩

theorem follows_registrationReading :
    Follows spelling registrationReading fun registration taken =>
      Says spelling .register (.register registration) taken := by
  unfold registrationReading
  refine Follows.skip (fun _ _ hfits h => keywords_leaves hfits h) fun before hbefore => ?_
  obtain ⟨register, type, hregister, htype, rfl⟩ := saysWords_pair.mp hbefore
  refine (follows_optionalPhrase _).seq fun ifNotExists existing hexists => ?_
  refine takesOne_identifier.seq fun name token hname => ?_
  refine Follows.keyword fun as has => ?_
  refine follows_dataType.seq fun definition inner hdefinition => .give ?_
  rw [List.append_nil]
  exact .register hregister htype hexists hname has hdefinition

theorem follows_declarationReading (kind : SourceKind) :
    Follows spelling (declarationReading kind) fun declaration taken =>
      SaysDeclaration spelling kind declaration taken ∧
        (declaration.literals.map (·.1)).Nodup := by
  unfold declarationReading
  refine Follows.keyword fun create hcreate => ?_
  refine (follows_optionalPhrase _).seq fun orReplace replacing hreplace => ?_
  refine (follows_optionalPhrase _).seq fun isSource source hsource => ?_
  refine Follows.keyword fun keyword hkind => ?_
  refine (follows_optionalPhrase _).seq fun ifNotExists existing hexists => ?_
  refine takesOne_identifier.seq fun name token hname => ?_
  refine follows_columns.seq fun columns inner hcolumns => ?_
  refine follows_withClause.seq fun literals clause hclause => .give ?_
  rw [List.append_nil]
  exact ⟨.mk hcreate hreplace hsource hkind hexists hname hcolumns hclause.1, hclause.2⟩

/-- Columns that are checked have distinct names, none of which was seen before, and are keyed as
their kind of source asks for. -/
theorem checkColumns_eq_ok {kind : SourceKind} {seen : List String} {columns : List Column}
    (h : checkColumns kind seen columns = .ok ()) :
    (columns.map (·.name)).Nodup ∧ (∀ column ∈ columns, column.name ∉ seen) ∧
      ∀ column ∈ columns, kind.Allows column.constraint := by
  induction columns generalizing seen with
  | nil => simp
  | cons column rest ih =>
    obtain ⟨hnew, hcolumn, hchecked⟩ := checkColumns_cons_eq_ok.mp h
    obtain ⟨hnames, hseen, hallowed⟩ := ih hchecked
    have hrest : ∀ other ∈ rest, other.name ≠ column.name ∧ other.name ∉ seen := by
      intro other hother
      simpa using hseen other hother
    refine ⟨?_, List.forall_mem_cons.mpr ⟨hnew, fun other hother => (hrest other hother).2⟩,
      List.forall_mem_cons.mpr ⟨hcolumn, hallowed⟩⟩
    rw [List.map_cons, List.nodup_cons]
    refine ⟨fun hmem => ?_, hnames⟩
    obtain ⟨other, hother, hname⟩ := List.mem_map.mp hmem
    exact (hrest other hother).1 hname

theorem endOfStatement_eq_ok {tokens : List Token} (h : endOfStatement tokens = .ok ()) :
    tokens = [] := by
  unfold endOfStatement at h
  split at h
  · next hempty => exact List.isEmpty_iff.mp hempty
  · cases h

theorem Follows.whole {p : Reading α} {rule : α → List Token → Prop} (hp : Follows spelling p rule)
    {tokens : List Token} (hfits : AllFit spelling tokens) {x : α} (h : p tokens = .ok (x, [])) :
    ∃ opened, Opens spelling tokens opened ∧ rule x opened := by
  obtain ⟨taken, hleaves, hrule⟩ := hp hfits h
  have hopens := hleaves.opens
  rw [List.append_nil] at hopens
  exact ⟨taken, hopens, hrule⟩

theorem says_typeRegistration {tokens : List Token} (hfits : AllFit spelling tokens)
    {registration : TypeRegistration} (h : typeRegistration tokens = .ok registration) :
    ∃ opened, Opens spelling tokens opened ∧
      Says spelling .register (.register registration) opened := by
  rw [typeRegistration_eq] at h
  obtain ⟨⟨found, rest⟩, hfound, hthen⟩ := bind_eq_ok.mp h
  obtain ⟨⟨⟩, hend, hregistration⟩ := bind_eq_ok.mp hthen
  obtain rfl := endOfStatement_eq_ok hend
  cases hregistration
  exact follows_registrationReading.whole hfits hfound

theorem says_source {kind : SourceKind} {tokens : List Token} (hfits : AllFit spelling tokens)
    {source : Source} (h : Sql.source kind tokens = .ok source) :
    ∃ opened, Opens spelling tokens opened ∧ Says spelling (.create kind) (.create source) opened := by
  rw [source_eq] at h
  obtain ⟨⟨declaration, rest⟩, hdeclaration, hthen⟩ := bind_eq_ok.mp h
  obtain ⟨⟨⟩, hend, hsource⟩ := bind_eq_ok.mp hthen
  obtain rfl := endOfStatement_eq_ok hend
  obtain ⟨opened, hopens, htold, hnames⟩ :=
    (follows_declarationReading kind).whole hfits hdeclaration
  obtain ⟨⟨⟩, hcheck, hmake⟩ := bind_eq_ok.mp hsource
  obtain ⟨properties, hproperties, hmade⟩ := bind_eq_ok.mp hmake
  cases hmade
  obtain ⟨hcolumns, -, hallowed⟩ := checkColumns_eq_ok hcheck
  exact ⟨opened, hopens, .create htold hcolumns hallowed hnames (mapError_eq_ok.mp hproperties)⟩

/-- Whatever a spelling is, if all tokens fit it, what is read is said in it. -/
theorem says_of_allFit {kind : StatementKind} {tokens : List Token} {statement : Statement}
    (hfits : AllFit spelling tokens) (h : statementOfKind kind tokens = .ok (some statement)) :
    ∃ opened, Opens spelling tokens opened ∧ Says spelling kind statement opened := by
  cases kind with
  | register =>
    rw [statementOfKind_register] at h
    obtain ⟨registration, hregistration, hfound⟩ := map_eq_ok.mp h
    cases hfound
    exact says_typeRegistration hfits hregistration
  | create kind =>
    rw [statementOfKind_create] at h
    obtain ⟨source, hsource, hfound⟩ := map_eq_ok.mp h
    cases hfound
    exact says_source hfits hsource
  | other => cases h

theorem allFit_lax (tokens : List Token) : AllFit .lax tokens :=
  fun _ _ _ _ hliteral htext => ⟨hliteral, htext⟩

theorem allFit_punctuation {tokens : List Token}
    (h : ∀ token ∈ tokens, token.isQuoted = true → token.text ∉ markTexts) :
    AllFit .punctuation tokens := by
  rintro token htoken mark hmark hliteral rfl
  have hunquoted : token.isQuoted = false := by
    by_contra hquoted
    exact h token htoken (by simpa using hquoted) hmark
  exact ⟨hliteral, hunquoted, rfl⟩

/-- All tokens of a statement that is read, taken together, say that statement. Any token but a literal
may have served as a mark; where no quoted token reads as a mark, all marks are unquoted. -/
theorem says_of_statementOfKind {kind : StatementKind} {tokens : List Token} {statement : Statement}
    (h : statementOfKind kind tokens = .ok (some statement)) :
    (∃ opened, Opens .lax tokens opened ∧ Says .lax kind statement opened) ∧
    ((∀ token ∈ tokens, token.isQuoted = true → token.text ∉ markTexts) →
      ∃ opened, Opens .punctuation tokens opened ∧ Says .punctuation kind statement opened) := by
  constructor
  · exact says_of_allFit (allFit_lax tokens) h
  · intro hquoted
    exact says_of_allFit (allFit_punctuation hquoted) h

/-- Words in lower case, a bounded string, and joined angles that close two types. -/
theorem says_of_statementOfKind_joined : ∃ tokens statement,
    (lex "create stream s (v map<varchar(5), struct<a int N'>>') with (kafka_topic='t')".toList).map
      reducedTokens = .ok tokens ∧
    statementOfKind (.create .stream) tokens = .ok (some statement) ∧
    ∃ opened, Opens .punctuation tokens opened ∧
      Says .punctuation (.create .stream) statement opened := by
  let tokens := ["create", "stream", "s", "(", "v", "map", "<", "varchar", "("].map plain ++
    ⟨.number, "5"⟩ :: [")", ",", "struct", "<", "a", "int", ">>", ")", "with", "(", "kafka_topic",
      "="].map plain ++ [⟨.string, "t"⟩, plain ")"]
  let statement := Statement.create ⟨.stream, "S",
    [⟨"V", .map (.base .string) (.struct [("A", .base .integer)]), .none⟩],
    ⟨"t", .separate none none, none, none, none, []⟩, false, false, false⟩
  have hread : statementOfKind (.create .stream) tokens = .ok (some statement) := by decide +kernel
  refine ⟨tokens, statement, by decide +kernel, hread, ?_⟩
  exact (says_of_statementOfKind hread).2 (by decide)

theorem Opens.eq_of_no_joined {tokens opened : List Token} (h : Opens spelling tokens opened)
    (hno : ∀ token ∈ tokens, token.text ≠ ">>") : opened = tokens := by
  induction h with
  | nil => rfl
  | keep token _ ih => rw [ih (List.forall_mem_cons.mp hno).2]
  | joined hmark _ _ => exact absurd (spelling.text_eq hmark) (List.forall_mem_cons.mp hno).1

theorem isQuoted_of_saysType_array {item : DataType} {token opening : Token} {rest : List Token}
    (h : SaysType .punctuation (.array item) (token :: opening :: rest)) :
    opening.isQuoted = false := by
  cases h with
  | array _ hopening => exact hopening.2.1

theorem saysType_of_register {name : String} {type : DataType}
    {register typeWord token as : Token} {rest : List Token}
    (h : Says spelling .register (.register ⟨name, type, false⟩)
      (register :: typeWord :: token :: as :: rest)) : SaysType spelling type rest := by
  generalize hall : register :: typeWord :: token :: as :: rest = all at h
  cases h with
  | register _ _ hexists _ _ hdefinition =>
    have hnone : _ = [] := hexists
    subst hnone
    simp only [List.nil_append, List.cons.injEq] at hall
    obtain ⟨-, -, -, -, rfl⟩ := hall
    exact hdefinition

/-- A quoted name is taken for the angle that it spells. -/
theorem quoted_angle_not_punctuation :
    ∃ tokens statement,
      (lex "REGISTER TYPE T AS ARRAY \x60<\x60 INT >".toList).map reducedTokens = .ok tokens ∧
      statementOfKind .register tokens = .ok (some statement) ∧
      ¬∃ opened, Opens .punctuation tokens opened ∧ Says .punctuation .register statement opened := by
  refine ⟨["REGISTER", "TYPE", "T", "AS", "ARRAY"].map plain ++
    [⟨.quoted, "<"⟩, plain "INT", plain ">"],
    .register ⟨"T", .array (.base .integer), false⟩, by decide +kernel, by decide +kernel, ?_⟩
  rintro ⟨opened, hopens, htold⟩
  obtain rfl := hopens.eq_of_no_joined (by decide)
  have htype := saysType_of_register htold
  have hunquoted := isQuoted_of_saysType_array htype
  cases hunquoted

end TopicPlan.Sql
