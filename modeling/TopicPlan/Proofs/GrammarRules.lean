import TopicPlan.Proofs.Rendering
import Mathlib.Data.List.Forall2

/-! The grammar as rules: which tokens say which statement. The rules are looser than renderings, as
words may be in any case, types have several names, and numbers several spellings. What stands for a
mark is left to a spelling; two closing angles may be joined in one token, which is opened first. -/
namespace TopicPlan.Sql

def markTexts : List String := ["(", ")", "<", ">", "<>", ">>", ",", "=", "-"]

/-- Which tokens stand for which marks. What is left of two joined angles always stands for one. -/
structure Spelling where
  Spells : String → Token → Prop
  text_eq : ∀ {mark : String} {token : Token}, Spells mark token → token.text = mark
  angle : Spells ">" (plain ">")

namespace Spelling

/-- Any token but a literal stands for the mark that is its text, be it quoted or not. -/
def lax : Spelling where
  Spells mark token := token.isLiteral = false ∧ token.text = mark
  text_eq h := h.2
  angle := ⟨rfl, rfl⟩

/-- Only unquoted tokens stand for marks. -/
def punctuation : Spelling where
  Spells mark token := token.isLiteral = false ∧ token.isQuoted = false ∧ token.text = mark
  text_eq h := h.2.2
  angle := ⟨rfl, rfl, rfl⟩

/-- If a token reads as a mark at all, it stands for it. -/
def Fits (spelling : Spelling) (token : Token) : Prop :=
  ∀ mark ∈ markTexts, token.isLiteral = false → token.text = mark → spelling.Spells mark token

end Spelling

/-- A quoted token names its text, an unquoted one its text in upper case. -/
inductive Token.Names : Token → String → Prop
  | quoted {token : Token} (h : token.kind = .quoted) : Token.Names token token.text
  | unquoted {token : Token} {name : String} (h : token.isKeyword name = true) :
      Token.Names token name

def Token.Counts (token : Token) (n : Nat) : Prop :=
  token.kind = .number ∧ Text.readNat token.text.toList = .ok n

def SaysWords (words : List String) (tokens : List Token) : Prop :=
  List.Forall₂ (fun word token => token.isKeyword word = true) words tokens

def SaysPhrase (words : List String) (said : Bool) (tokens : List Token) : Prop :=
  if said then SaysWords words tokens else tokens = []

/-- Some tokens after two joined angles in them are taken apart, wherever they close twice. -/
inductive Opens (spelling : Spelling) : List Token → List Token → Prop
  | nil : Opens spelling [] []
  | keep (token : Token) {tokens opened : List Token} (h : Opens spelling tokens opened) :
      Opens spelling (token :: tokens) (token :: opened)
  | joined {token : Token} {tokens opened : List Token} (hmark : spelling.Spells ">>" token)
      (h : Opens spelling tokens opened) :
      Opens spelling (token :: tokens) (plain ">" :: plain ">" :: opened)

section Rules

variable (spelling : Spelling)

inductive SaysList {α : Type} (rule : α → List Token → Prop) : List α → List Token → Prop
  | last {x : α} {tokens : List Token} (h : rule x tokens) : SaysList rule [x] tokens
  | more {x : α} {xs : List α} {first rest : List Token} {comma : Token} (h : rule x first)
      (hcomma : spelling.Spells "," comma) (hrest : SaysList rule xs rest) :
      SaysList rule (x :: xs) (first ++ comma :: rest)

mutual

inductive SaysType : DataType → List Token → Prop
  | base {token : Token} {word : String} {base : BaseType} (hword : token.isKeyword word = true)
      (hbase : BaseType.ofKeyword? word = some base) : SaysType (.base base) [token]
  /-- The length of a string says nothing about its type. -/
  | bounded {token opening length closing : Token} {n : Nat}
      (hword : token.isKeyword "VARCHAR" = true) (hopening : spelling.Spells "(" opening)
      (hlength : length.Counts n) (hclosing : spelling.Spells ")" closing) :
      SaysType (.base .string) [token, opening, length, closing]
  | decimal {token opening first comma second closing : Token} {precision scale : Nat}
      (hword : token.isKeyword "DECIMAL" = true) (hopening : spelling.Spells "(" opening)
      (hfirst : first.Counts precision) (hcomma : spelling.Spells "," comma)
      (hsecond : second.Counts scale) (hclosing : spelling.Spells ")" closing)
      (hpositive : 1 ≤ precision) (hle : scale ≤ precision) :
      SaysType (.decimal precision scale) [token, opening, first, comma, second, closing]
  | array {token opening closing : Token} {item : DataType} {inner : List Token}
      (hword : token.isKeyword "ARRAY" = true) (hopening : spelling.Spells "<" opening)
      (hitem : SaysType item inner) (hclosing : spelling.Spells ">" closing) :
      SaysType (.array item) (token :: opening :: (inner ++ [closing]))
  | map {token opening comma closing : Token} {key value : DataType} {first second : List Token}
      (hword : token.isKeyword "MAP" = true) (hopening : spelling.Spells "<" opening)
      (hkey : SaysType key first) (hcomma : spelling.Spells "," comma)
      (hvalue : SaysType value second) (hclosing : spelling.Spells ">" closing) :
      SaysType (.map key value) (token :: opening :: (first ++ comma :: (second ++ [closing])))
  | joinedStruct {token both : Token} (hword : token.isKeyword "STRUCT" = true)
      (hboth : spelling.Spells "<>" both) : SaysType (.struct []) [token, both]
  | emptyStruct {token opening closing : Token} (hword : token.isKeyword "STRUCT" = true)
      (hopening : spelling.Spells "<" opening) (hclosing : spelling.Spells ">" closing) :
      SaysType (.struct []) [token, opening, closing]
  | struct {token opening closing : Token} {fields : Fields} {inner : List Token}
      (hword : token.isKeyword "STRUCT" = true) (hopening : spelling.Spells "<" opening)
      (hfields : SaysFields fields inner) (hclosing : spelling.Spells ">" closing) :
      SaysType (.struct fields) (token :: opening :: (inner ++ [closing]))
  | quoted {token : Token} (h : token.kind = .quoted) : SaysType (.reference token.text) [token]
  | reference {token : Token} {name : String} (h : token.isKeyword name = true)
      (hfree : name ∉ typeWords) : SaysType (.reference name) [token]

inductive SaysFields : Fields → List Token → Prop
  | last {token : Token} {name : String} {type : DataType} {inner : List Token}
      (hname : token.Names name) (htype : SaysType type inner) :
      SaysFields [(name, type)] (token :: inner)
  | more {token comma : Token} {name : String} {type : DataType} {rest : Fields}
      {inner more : List Token} (hname : token.Names name) (htype : SaysType type inner)
      (hcomma : spelling.Spells "," comma) (hrest : SaysFields rest more) :
      SaysFields ((name, type) :: rest) (token :: (inner ++ comma :: more))

end

inductive SaysConstraint : Constraint → List Token → Prop
  | none : SaysConstraint .none []
  | key {token : Token} (h : token.isKeyword "KEY" = true) : SaysConstraint .key [token]
  | primaryKey {first second : Token} (hfirst : first.isKeyword "PRIMARY" = true)
      (hsecond : second.isKeyword "KEY" = true) : SaysConstraint .primaryKey [first, second]
  | headers {token : Token} (h : token.isKeyword "HEADERS" = true) :
      SaysConstraint .headers [token]
  | header {token opening text closing : Token} (h : token.isKeyword "HEADER" = true)
      (hopening : spelling.Spells "(" opening) (htext : text.kind = .string)
      (hclosing : spelling.Spells ")" closing) :
      SaysConstraint (.header text.text) [token, opening, text, closing]

inductive SaysColumn : Column → List Token → Prop
  | mk {token : Token} {name : String} {type : DataType} {constraint : Constraint}
      {first second : List Token} (hname : token.Names name)
      (htype : SaysType spelling type first)
      (hconstraint : SaysConstraint spelling constraint second) :
      SaysColumn ⟨name, type, constraint⟩ (token :: (first ++ second))

inductive SaysColumns : List Column → List Token → Prop
  | none : SaysColumns [] []
  | some {opening closing : Token} {columns : List Column} {inner : List Token}
      (hopening : spelling.Spells "(" opening)
      (hcolumns : SaysList spelling (SaysColumn spelling) columns inner)
      (hclosing : spelling.Spells ")" closing) :
      SaysColumns columns (opening :: (inner ++ [closing]))

inductive SaysLiteral : Literal → List Token → Prop
  | text {token : Token} (h : token.kind = .string) : SaysLiteral (.text token.text) [token]
  | number {token : Token} {value : Literal} (h : token.kind = .number)
      (hvalue : numberOf? token.text.toList = some value) : SaysLiteral value [token]
  | negative {sign token : Token} {value : Literal} (hsign : spelling.Spells "-" sign)
      (h : token.kind = .number) (hvalue : numberOf? token.text.toList = some value) :
      SaysLiteral value.neg [sign, token]
  | true {token : Token} (h : token.isKeyword "TRUE" = true) : SaysLiteral (.bool true) [token]
  | false {token : Token} (h : token.isKeyword "FALSE" = true) :
      SaysLiteral (.bool false) [token]

/-- A property is named in any case, also where its name is quoted. -/
inductive SaysEntry : String × Literal → List Token → Prop
  | mk {token equals : Token} {name : String} {value : Literal} {inner : List Token}
      (hname : token.Names name) (hequals : spelling.Spells "=" equals)
      (hvalue : SaysLiteral spelling value inner) :
      SaysEntry (Text.upper name, value) (token :: equals :: inner)

inductive SaysClause : List (String × Literal) → List Token → Prop
  | none : SaysClause [] []
  | some {token opening closing : Token} {literals : List (String × Literal)} {inner : List Token}
      (hword : token.isKeyword "WITH" = true) (hopening : spelling.Spells "(" opening)
      (hentries : SaysList spelling (SaysEntry spelling) literals inner)
      (hclosing : spelling.Spells ")" closing) :
      SaysClause literals (token :: opening :: (inner ++ [closing]))

inductive SaysDeclaration (kind : SourceKind) : Declaration → List Token → Prop
  | mk {create keyword token : Token} {orReplace isSource ifNotExists : Bool} {name : String}
      {columns : List Column} {literals : List (String × Literal)}
      {replacing source existing inner clause : List Token}
      (hcreate : create.isKeyword "CREATE" = true)
      (hreplace : SaysPhrase ["OR", "REPLACE"] orReplace replacing)
      (hsource : SaysPhrase ["SOURCE"] isSource source)
      (hkind : keyword.isKeyword kind.keyword = true)
      (hexists : SaysPhrase ["IF", "NOT", "EXISTS"] ifNotExists existing)
      (hname : token.Names name) (hcolumns : SaysColumns spelling columns inner)
      (hclause : SaysClause spelling literals clause) :
      SaysDeclaration kind ⟨orReplace, isSource, ifNotExists, name, columns, literals⟩
        (create :: (replacing ++ (source ++ keyword :: (existing ++ token :: (inner ++ clause)))))

/-- A registration, or a declaration of distinct columns that are keyed as the kind of source asks
for, and of distinct properties, which are those that the source has. -/
inductive Says : StatementKind → Statement → List Token → Prop
  | register {register type token as : Token} {ifNotExists : Bool} {name : String}
      {definition : DataType} {existing inner : List Token}
      (hregister : register.isKeyword "REGISTER" = true) (htype : type.isKeyword "TYPE" = true)
      (hexists : SaysPhrase ["IF", "NOT", "EXISTS"] ifNotExists existing)
      (hname : token.Names name) (has : as.isKeyword "AS" = true)
      (hdefinition : SaysType spelling definition inner) :
      Says .register (.register ⟨name, definition, ifNotExists⟩)
        (register :: type :: (existing ++ token :: as :: inner))
  | create {kind : SourceKind} {declaration : Declaration} {properties : Properties}
      {tokens : List Token} (hdeclaration : SaysDeclaration spelling kind declaration tokens)
      (hcolumns : (declaration.columns.map (·.name)).Nodup)
      (hallowed : ∀ column ∈ declaration.columns, kind.Allows column.constraint)
      (hnames : (declaration.literals.map (·.1)).Nodup)
      (hproperties : Properties.ofLiterals declaration.literals = .ok properties) :
      Says (.create kind) (.create { declaration with kind, properties }) tokens

end Rules

end TopicPlan.Sql
