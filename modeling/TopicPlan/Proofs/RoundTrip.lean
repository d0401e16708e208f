import TopicPlan.Proofs.StatementParts
import TopicPlan.Sql.Script
import Mathlib.Control.Monad.Basic

/-! Parsing undoes rendering. Main statement: every list of valid trees can be said, and whatever says
it, with semicolons around the statements and at least one between two of them, is split, classified
and read back as these trees in order, with the properties that their literals give. -/
namespace TopicPlan.Sql
open Reading Text

theorem tellsWords_keyword : TellsWords fun word token => token.keyword == word where
  self word h := by
    have hkeyword : (plain word).keyword = word := upper_grammarWords word h
    simp [hkeyword]
  other word h asked hne := by
    have hkeyword : (plain word).keyword = word := upper_grammarWords word h
    simp [hkeyword, hne]

theorem afterKeywords?_phrase {words : List String} (h : ∀ word ∈ words, word ∈ grammarWords)
    {rest : List Token} (habsent : StatementKind.afterKeywords? words rest = none) (said : Bool) :
    (StatementKind.afterKeywords? words (phrase said words ++ rest)).getD
      (phrase said words ++ rest) = rest := by
  cases said with
  | true =>
    have hfound : StatementKind.afterKeywords? words (phrase true words ++ rest) = some rest :=
      tellsWords_keyword.found h rest
    rw [hfound]
    rfl
  | false =>
    have hnone : StatementKind.afterKeywords? words (phrase false words ++ rest) = none := habsent
    rw [hnone]
    rfl

theorem ofTokens_register (rest : List Token) :
    StatementKind.ofTokens (plain "REGISTER" :: plain "TYPE" :: rest) = .register := by
  have hfound : StatementKind.afterKeywords? ["REGISTER", "TYPE"]
      (plain "REGISTER" :: plain "TYPE" :: rest) = some rest :=
    tellsWords_keyword.found (by decide) rest
  rw [StatementKind.ofTokens, hfound]
  rfl

/-- The words before a declaration's name tell its kind, whatever the name is. -/
theorem ofTokens_create (kind : SourceKind) (orReplace isSource : Bool) {rest : List Token}
    (h : AllInner rest) :
    StatementKind.ofTokens (plain "CREATE" :: (phrase orReplace ["OR", "REPLACE"] ++
      (phrase isSource ["SOURCE"] ++ plain kind.keyword :: rest))) = .create kind := by
  have hregister (tokens : List Token) :
      StatementKind.afterKeywords? ["REGISTER", "TYPE"] (plain "CREATE" :: tokens) = none :=
    tellsWords_keyword.absent (by decide) (by decide) _ tokens
  have hcreate (tokens : List Token) :
      StatementKind.afterKeywords? ["CREATE"] (plain "CREATE" :: tokens) = some tokens :=
    tellsWords_keyword.found_single (by decide) tokens
  have hsource : StatementKind.afterKeywords? ["SOURCE"] (plain kind.keyword :: rest) = none :=
    tellsWords_keyword.absent_before_kind kind (by decide) [] rest
  have hreplace : StatementKind.afterKeywords? ["OR", "REPLACE"]
      (phrase isSource ["SOURCE"] ++ plain kind.keyword :: rest) = none :=
    tellsWords_keyword.absent_before_flag kind isSource rest
  unfold StatementKind.ofTokens
  rw [hregister, hcreate]
  simp only [Option.isSome_none, Bool.false_eq_true, if_false]
  rw [afterKeywords?_phrase (by decide) hreplace, afterKeywords?_phrase (by decide) hsource]
  cases kind with
  | stream =>
    have hstream : StatementKind.afterKeywords? ["STREAM"] (plain "STREAM" :: rest) = some rest :=
      tellsWords_keyword.found_single (by decide) rest
    simp only [SourceKind.keyword, hstream, hasQuery_of_allInner h, Bool.false_eq_true, if_false]
  | table =>
    have hstream : StatementKind.afterKeywords? ["STREAM"] (plain "TABLE" :: rest) = none :=
      tellsWords_keyword.absent (by decide) (by decide) [] rest
    have htable : StatementKind.afterKeywords? ["TABLE"] (plain "TABLE" :: rest) = some rest :=
      tellsWords_keyword.found_single (by decide) rest
    simp only [SourceKind.keyword, hstream, htable, hasQuery_of_allInner h, Bool.false_eq_true,
      if_false]

theorem registrationReading_renders {registration : TypeRegistration}
    (htype : registration.type.Valid) {name : Token} {type : List Token}
    (hspells : name.Spells registration.name) (hrenders : RendersType registration.type type) :
    registrationReading (plain "REGISTER" :: plain "TYPE" ::
      (phrase registration.ifNotExists ["IF", "NOT", "EXISTS"] ++ name :: plain "AS" :: type)) =
      .ok (registration, []) := by
  have hkeywords (rest : List Token) :
      keywords ["REGISTER", "TYPE"] (plain "REGISTER" :: plain "TYPE" :: rest) = .ok rest :=
    keywords_plain (by decide) rest
  -- A type may be called IF; the word after its name is never NOT.
  have habsent : keywords? ["IF", "NOT", "EXISTS"] (name :: plain "AS" :: type) = none :=
    keywords?_of_second (isKeyword_plain_of_ne (by decide) (by decide)) type
  have has : keywords ["AS"] (plain "AS" :: type) = .ok type := by
    rw [keywords, keywords?_single (by decide)]
  have htypeRead : dataType type = .ok (registration.type, []) := by
    simpa using dataType_rendersType htype hrenders []
  rw [registrationReading, skip_ok (hkeywords _),
    seq_ok (optionalPhrase_phrase (by decide) habsent _), seq_ok (identifier_spelled hspells _),
    skip_ok has, seq_ok htypeRead]
  rfl

theorem withClause_rendersList {literals : List (String × Literal)}
    (hnames : (literals.map fun entry => upper entry.1).Nodup) {tokens : List Token}
    (h : RendersList RendersEntry literals tokens) :
    withClause (plain "WITH" :: plain "(" :: (tokens ++ [plain ")"])) =
      .ok (upperEntries literals, []) := by
  have hlist : propertyList [] (tokens ++ [plain ")"]).length (tokens ++ [plain ")"]) =
      .ok ([] ++ upperEntries literals, []) :=
    propertyList_rendersList (by simpa using hnames) h (by simp) []
  rw [withClause_eq, after_some (keywords?_single (by decide) _), skip_ok (symbol_plain _ _), hlist]
  rfl

theorem declarationReading_renders {kind : SourceKind} {declaration : Declaration}
    (hvalid : declaration.Valid kind) {name : Token} {columns literals : List Token}
    (hspells : name.Spells declaration.name) (hcolumns : RendersColumns declaration.columns columns)
    (hliterals : RendersList RendersEntry declaration.literals literals) :
    declarationReading kind (plain "CREATE" :: (phrase declaration.orReplace ["OR", "REPLACE"] ++
      (phrase declaration.isSource ["SOURCE"] ++ plain kind.keyword ::
        (phrase declaration.ifNotExists ["IF", "NOT", "EXISTS"] ++ name ::
          (columns ++ plain "WITH" :: plain "(" :: (literals ++ [plain ")"])))))) =
      .ok ({ declaration with literals := upperEntries declaration.literals }, []) := by
  have hcreate (rest : List Token) : keywords ["CREATE"] (plain "CREATE" :: rest) = .ok rest := by
    rw [keywords, keywords?_single (by decide)]
  have hkeyword (rest : List Token) :
      keywords [kind.keyword] (plain kind.keyword :: rest) = .ok rest := by
    rw [keywords, keywords?_single (keyword_mem kind)]
  have hsource (rest : List Token) : keywords? ["SOURCE"] (plain kind.keyword :: rest) = none :=
    tellsWords_isKeyword.absent_before_kind kind (by decide) [] rest
  have hreplace (rest : List Token) : keywords? ["OR", "REPLACE"]
      (phrase declaration.isSource ["SOURCE"] ++ plain kind.keyword :: rest) = none :=
    tellsWords_isKeyword.absent_before_flag kind declaration.isSource rest
  -- A source may be called IF; after its name stands a parenthesis or WITH.
  have habsent : keywords? ["IF", "NOT", "EXISTS"]
      (name :: (columns ++ plain "WITH" :: plain "(" :: (literals ++ [plain ")"]))) = none := by
    rcases hcolumns with ⟨-, rfl⟩ | ⟨inner, -, rfl⟩
    · exact keywords?_of_second (isKeyword_plain_of_ne (by decide) (by decide)) _
    · exact keywords?_of_second (isKeyword_mark (by unfold IsWord; decide) _) _
  have hcolumnsRead := columns_rendersColumns
    (fun column hcolumn => (hvalid.columns column hcolumn).2.1) hcolumns
    (by decide : "WITH" ≠ "(") (plain "(" :: (literals ++ [plain ")"]))
  have hclause := withClause_rendersList hvalid.literalNames hliterals
  rw [declarationReading, skip_ok (hcreate _),
    seq_ok (optionalPhrase_phrase (by decide) (hreplace _) _),
    seq_ok (optionalPhrase_phrase (by decide) (hsource _) _),
    skip_ok (hkeyword _), seq_ok (optionalPhrase_phrase (by decide) habsent _),
    seq_ok (identifier_spelled hspells _), seq_ok hcolumnsRead, seq_ok hclause]
  rfl

theorem checkColumns_ok {kind : SourceKind} {columns : List Column}
    (hallowed : ∀ column ∈ columns, kind.Allows column.constraint) {seen : List String}
    (hnames : (seen ++ columns.map (·.name)).Nodup) : checkColumns kind seen columns = .ok () := by
  induction columns generalizing seen with
  | nil => rfl
  | cons column rest ih =>
    have hnew : column.name ∉ seen := by
      intro hmem
      exact (List.nodup_append.mp hnames).2.2 _ hmem _ (by simp) rfl
    have hrest : checkColumns kind (column.name :: seen) rest = .ok () := by
      refine ih (fun other hother => hallowed other (List.mem_cons_of_mem column hother)) ?_
      refine (List.Perm.nodup_iff ?_).mp hnames
      simp only [List.map_cons]
      exact List.perm_middle
    exact checkColumns_cons_eq_ok.mpr ⟨hnew, hallowed column (by simp), hrest⟩

/-- Names that were put into upper case before give the same properties. -/
theorem ofLiterals_upperEntries (literals : List (String × Literal)) :
    Properties.ofLiterals (upperEntries literals) = Properties.ofLiterals literals := by
  have hupper : upperNames (upperEntries literals) = upperNames literals := by
    simp [upperNames, upperEntries, List.map_map, Function.comp_def, upper_upper]
  rw [Properties.ofLiterals, hupper]
  rfl

/-- What says a valid tree is read back as what the tree says. -/
theorem statement_renders {tree : Tree} (hvalid : tree.Valid) {tokens : List Token}
    (h : Renders tree tokens) : Sql.statement tokens = .ok (some tree.statement) := by
  cases tree with
  | register registration =>
    obtain ⟨name, type, hspells, htype, rfl⟩ := h
    have hreading := registrationReading_renders hvalid.2 hspells htype
    have hregistration := typeRegistration_eq (plain "REGISTER" :: plain "TYPE" ::
      (phrase registration.ifNotExists ["IF", "NOT", "EXISTS"] ++ name :: plain "AS" :: type))
    rw [hreading] at hregistration
    rw [Sql.statement, ofTokens_register, statementOfKind_register, hregistration]
    rfl
  | create kind declaration properties =>
    obtain ⟨hdeclaration, hproperties⟩ := hvalid
    obtain ⟨name, columns, literals, hspells, hcolumns, hliterals, rfl⟩ := h
    have hreading := declarationReading_renders hdeclaration hspells hcolumns hliterals
    have hcolumnsCheck : checkColumns kind [] declaration.columns = .ok () :=
      checkColumns_ok (fun column hcolumn => (hdeclaration.columns column hcolumn).2.2)
        (by simpa using hdeclaration.columnNames)
    have hsource : Declaration.source?
        { declaration with literals := upperEntries declaration.literals } kind =
        .ok { declaration with kind, properties } := by
      unfold Declaration.source?
      rw [hcolumnsCheck, ofLiterals_upperEntries, hproperties]
      rfl
    rw [Sql.statement, ofTokens_create kind _ _ (allInner_declared _ hspells hcolumns hliterals),
      statementOfKind_create, source_eq, hreading]
    show Except.map _ (endOfStatement [] >>= fun _ => Declaration.source? _ kind) = _
    rw [hsource]
    rfl

theorem renders_ne_nil {tree : Tree} {tokens : List Token} (h : Renders tree tokens) :
    tokens ≠ [] := by
  cases tree with
  | register registration =>
    obtain ⟨name, type, -, -, rfl⟩ := h
    simp
  | create kind declaration properties =>
    obtain ⟨name, columns, literals, -, -, -, rfl⟩ := h
    simp

theorem map_statement_rendersScript {trees : List Tree} (hvalid : ∀ tree ∈ trees, tree.Valid)
    {tokens : List Token} (h : RendersScript trees tokens) :
    (splitRuns Token.isSeparator tokens).map Sql.statement =
      trees.map fun tree => .ok (some tree.statement) := by
  have hseparators {marks : List Token} (hmarks : ∀ token ∈ marks, token = semicolon) :
      ∀ token ∈ marks, token.isSeparator = true := by
    intro token htoken
    rw [hmarks token htoken]
    rfl
  induction trees generalizing tokens with
  | nil =>
    have hruns : splitRuns Token.isSeparator tokens = [] := by
      have hskipped := splitRuns_append_left (hseparators h) []
      rwa [List.append_nil] at hskipped
    rw [hruns]
    rfl
  | cons tree rest ih =>
    obtain ⟨hfirst, hothers⟩ := List.forall_mem_cons.mp hvalid
    obtain ⟨before, own, after, hbefore, hown, hafter, hhead, rfl⟩ := h
    have hparts : ∀ token ∈ own, token.isSeparator = false := fun token htoken =>
      (isPart_renders hown token htoken).1
    have hend : ∀ token ∈ after.head?, token.isSeparator = true := by
      intro token htoken
      rw [hhead token htoken]
      rfl
    rw [splitRuns_append_left (hseparators hbefore),
      splitRuns_append_right (renders_ne_nil hown) hparts hend, List.map_cons, List.map_cons,
      statement_renders hfirst hown, ih hothers hafter]

/-- Statements are read where each of them is, whatever text they stand in. -/
theorem mapM_parseStatement (text : List Char) {chunks : List (List Lexeme)}
    {statements : List (Option Statement)}
    (h : (chunks.map reducedTokens).map Sql.statement = statements.map .ok) :
    ∃ parsed, chunks.mapM (parseStatement text) = .ok parsed ∧
      parsed.map (·.statement?) = statements := by
  induction chunks generalizing statements with
  | nil =>
    cases statements with
    | nil => exact ⟨[], rfl, rfl⟩
    | cons statement rest => cases h
  | cons chunk chunks ih =>
    cases statements with
    | nil => cases h
    | cons statement rest =>
      simp only [List.map_cons, List.cons.injEq] at h
      obtain ⟨parsed, hparsed, hstatements⟩ := ih h.2
      have hchunk : parseStatement text chunk = .ok ⟨sourceText text chunk, statement⟩ := by
        rw [parseStatement, h.1]
      refine ⟨⟨sourceText text chunk, statement⟩ :: parsed, ?_, ?_⟩
      · rw [List.mapM_cons, hchunk, hparsed]
        rfl
      · rw [List.map_cons, hstatements]

theorem statementsOf_rendersScript {trees : List Tree} (hvalid : ∀ tree ∈ trees, tree.Valid)
    {tokens : List Token} (h : RendersScript trees tokens) {lexemes : List Lexeme}
    (hcarries : Carries lexemes tokens) (text : List Char) :
    ∃ parsed, (statementsOf lexemes).mapM (parseStatement text) = .ok parsed ∧
      parsed.map (·.statement?) = trees.map fun tree => some tree.statement := by
  refine mapM_parseStatement text ?_
  rw [hcarries.map_statementsOf, map_statement_rendersScript hvalid h, List.map_map]
  rfl

theorem isPart_or_eq_semicolon {trees : List Tree} {tokens : List Token}
    (h : RendersScript trees tokens) : ∀ token ∈ tokens, token.IsPart ∨ token = semicolon := by
  induction trees generalizing tokens with
  | nil => exact fun token htoken => Or.inr (h token htoken)
  | cons tree rest ih =>
    obtain ⟨before, own, after, hbefore, hown, hafter, -, rfl⟩ := h
    intro token htoken
    rcases List.mem_append.mp htoken with hmem | hmem
    · exact Or.inr (hbefore token hmem)
    rcases List.mem_append.mp hmem with hmem | hmem
    · exact Or.inl (isPart_renders hown token hmem)
    · exact ih hafter token hmem

theorem exists_carries {trees : List Tree} {tokens : List Token} (h : RendersScript trees tokens) :
    ∃ lexemes, Carries lexemes tokens := by
  have hkinds := isPart_or_eq_semicolon h
  refine ⟨tokens.map fun token => ⟨token, 0, 0⟩, ?_, ?_⟩
  · have hsplit : ∀ token ∈ tokens, token.split = [token] := by
      intro token htoken
      rcases hkinds token htoken with hpart | rfl
      · exact hpart.2
      · decide
    rw [reducedTokens, List.flatMap_map, List.flatMap_def, List.map_congr_left hsplit,
      ← List.flatMap_def, List.flatMap_singleton']
  · intro lexeme hlexeme hseparator
    obtain ⟨token, htoken, rfl⟩ := List.mem_map.mp hlexeme
    rcases hkinds token htoken with hpart | hmark
    · exact absurd hseparator (by simp [hpart.1])
    · exact hmark

/-- Valid trees can be said in turn, by lexemes with semicolons between the statements, and whatever
lexemes say them are read back as what the trees say, in their order. -/
theorem rendering_read_back {trees : List Tree} (hvalid : ∀ tree ∈ trees, tree.Valid) :
    (∃ tokens, RendersScript trees tokens) ∧
    ∀ tokens, RendersScript trees tokens → (∃ lexemes, Carries lexemes tokens) ∧
      ∀ (lexemes : List Lexeme) (text : List Char), Carries lexemes tokens →
        ∃ parsed, (statementsOf lexemes).mapM (parseStatement text) = .ok parsed ∧
          parsed.map (·.statement?) = trees.map fun tree => some tree.statement := by
  constructor
  · exact exists_rendersScript hvalid
  · intro tokens htokens
    refine ⟨exists_carries htokens, ?_⟩
    intro lexemes text hcarries
    exact statementsOf_rendersScript hvalid htokens hcarries text

/-- Words of the grammar as names, a struct in a map, and a decimal. -/
theorem rendering_read_back_keywords :
    let trees : List Tree := [
      .register ⟨"IF", .struct [("KEY", .decimal 4 2), ("b", .array (.reference "STRUCT"))], true⟩,
      .create .table ⟨true, true, false, "WITH",
        [⟨"PRIMARY", .map (.base .string) (.struct []), .primaryKey⟩],
        [("kafka_topic", .text "t"), ("replicas", .int 3)]⟩ ⟨"t", .separate none none, none, some 3,
        none, []⟩]
    (∀ tree ∈ trees, tree.Valid) ∧ ∃ tokens lexemes parsed, RendersScript trees tokens ∧
      Carries lexemes tokens ∧ (statementsOf lexemes).mapM (parseStatement []) = .ok parsed ∧
      parsed.map (·.statement?) = trees.map fun tree => some tree.statement := by
  intro trees
  have hregister : Tree.Valid (.register
      ⟨"IF", .struct [("KEY", .decimal 4 2), ("b", .array (.reference "STRUCT"))], true⟩) := by
    simp only [Tree.Valid, DataType.Valid, ValidFields, IsWord]
    decide +kernel
  have hcreate : Declaration.Valid ⟨true, true, false, "WITH",
      [⟨"PRIMARY", .map (.base .string) (.struct []), .primaryKey⟩],
      [("kafka_topic", .text "t"), ("replicas", .int 3)]⟩ .table := by
    constructor
    case name =>
      unfold IsWord
      decide
    case columns =>
      simp only [List.forall_mem_singleton, IsWord, DataType.Valid, ValidFields, SourceKind.Allows]
      decide
    case columnNames => simp
    case literals =>
      simp only [List.forall_mem_cons, IsWord, Literal.Valid]
      exact ⟨by decide, by decide +kernel, by simp⟩
    case literalNames => decide +kernel
  have hproperties : Properties.ofLiterals [("kafka_topic", .text "t"), ("replicas", .int 3)] =
      .ok ⟨"t", .separate none none, none, some 3, none, []⟩ := by decide +kernel
  have hvalid : ∀ tree ∈ trees, tree.Valid :=
    List.forall_mem_cons.mpr ⟨hregister, List.forall_mem_singleton.mpr ⟨hcreate, hproperties⟩⟩
  obtain ⟨⟨tokens, htokens⟩, hread⟩ := rendering_read_back hvalid
  obtain ⟨⟨lexemes, hcarries⟩, hall⟩ := hread tokens htokens
  obtain ⟨parsed, hparsed, hstatements⟩ := hall lexemes [] hcarries
  exact ⟨hvalid, tokens, lexemes, parsed, htokens, hcarries, hparsed, hstatements⟩

/-- Without a semicolon between them, two statements are not read; nor is one whose properties have
the same name in upper case, though the literals are accepted. -/
theorem not_read_back_joined_or_repeated :
    (∃ first second lexemes,
      (∀ name ∈ ["A", "B"], Tree.Valid (.register ⟨name, .base .integer, false⟩)) ∧
      Renders (.register ⟨"A", .base .integer, false⟩) first ∧
      Renders (.register ⟨"B", .base .integer, false⟩) second ∧
      lex "REGISTER TYPE A AS INTEGER REGISTER TYPE B AS INTEGER".toList = .ok lexemes ∧
      Carries lexemes (first ++ second) ∧
      (parse "REGISTER TYPE A AS INTEGER REGISTER TYPE B AS INTEGER").isOk = false) ∧
    ∃ properties tokens lexemes,
      Properties.ofLiterals [("kafka_topic", .text "s"), ("KAFKA_TOPIC", .text "t")] =
        .ok properties ∧
      Renders (.create .stream ⟨false, false, false, "A", [],
        [("kafka_topic", .text "s"), ("KAFKA_TOPIC", .text "t")]⟩ properties) tokens ∧
      lex "CREATE STREAM A WITH (\x60kafka_topic\x60 = 's', KAFKA_TOPIC = 't')".toList =
        .ok lexemes ∧
      Carries lexemes tokens ∧
      (parse "CREATE STREAM A WITH (\x60kafka_topic\x60 = 's', KAFKA_TOPIC = 't')").isOk =
        false := by
  have hspells (name : String) (hname : name ∈ ["A", "B", "KAFKA_TOPIC"]) :
      (plain name).Spells name := by
    have hwords : ∀ name ∈ ["A", "B", "KAFKA_TOPIC"], isName name.toList = true ∧
        upper name = name ∧ name ≠ "AS" := by decide +kernel
    exact ⟨rfl, Or.inr ⟨rfl, hwords name hname⟩⟩
  constructor
  · have htokens : (lex "REGISTER TYPE A AS INTEGER REGISTER TYPE B AS INTEGER".toList).map
        reducedTokens = .ok (["REGISTER", "TYPE", "A", "AS", "INTEGER"].map plain ++
          ["REGISTER", "TYPE", "B", "AS", "INTEGER"].map plain) := by decide +kernel
    obtain ⟨lexemes, hlex, hwords⟩ := map_eq_ok.mp htokens
    have hvalid : ∀ name ∈ ["A", "B"], Tree.Valid (.register ⟨name, .base .integer, false⟩) := by
      simp only [Tree.Valid, DataType.Valid, IsWord]
      decide
    refine ⟨_, _, lexemes, hvalid, ⟨_, _, hspells "A" (by decide), rfl, rfl⟩,
      ⟨_, _, hspells "B" (by decide), rfl, rfl⟩, hlex,
      carries_of_lex hlex hwords, by decide +kernel⟩
  · have hproperties : Properties.ofLiterals
        [("kafka_topic", .text "s"), ("KAFKA_TOPIC", .text "t")] =
        .ok ⟨"t", .separate none none, none, none, none, []⟩ := by decide +kernel
    have htokens : (lex
        "CREATE STREAM A WITH (\x60kafka_topic\x60 = 's', KAFKA_TOPIC = 't')".toList).map
        reducedTokens = .ok (["CREATE", "STREAM", "A", "WITH", "("].map plain ++
          [⟨.quoted, "kafka_topic"⟩, plain "=", ⟨.string, "s"⟩, plain ",", plain "KAFKA_TOPIC",
            plain "=", ⟨.string, "t"⟩, plain ")"]) := by decide +kernel
    obtain ⟨lexemes, hlex, hwords⟩ := map_eq_ok.mp htokens
    have hfirst : RendersEntry ("kafka_topic", .text "s")
        [⟨.quoted, "kafka_topic"⟩, plain "=", ⟨.string, "s"⟩] :=
      ⟨_, _, spells_quoted "kafka_topic", rfl, rfl⟩
    have hsecond : RendersEntry ("KAFKA_TOPIC", .text "t")
        [plain "KAFKA_TOPIC", plain "=", ⟨.string, "t"⟩] :=
      ⟨_, _, hspells "KAFKA_TOPIC" (by decide), rfl, rfl⟩
    refine ⟨_, _, lexemes, hproperties, ⟨_, [], _, hspells "A" (by decide), Or.inl ⟨rfl, rfl⟩,
      ⟨_, hfirst, Or.inr ⟨_, ⟨_, hsecond, Or.inl ⟨rfl, rfl⟩⟩, rfl⟩⟩, rfl⟩, hlex,
      carries_of_lex hlex hwords, by decide +kernel⟩

end TopicPlan.Sql
