import TopicPlan.Proofs.LetterCase
import TopicPlan.Proofs.UpperCase

/-! Leading words. The kind of a statement is told by the upper case of its first tokens, in any script;
the grammar asks besides that a keyword is an unquoted name, which is ASCII. So a statement whose kind is
told is read on from behind its leading words, unless one of them holds a letter from beyond ASCII, such
as the long s. -/
namespace TopicPlan

namespace Text

/-- What letters beyond ASCII become in upper case is ASCII for a few letters only. -/
theorem upperExpansions_leave : ∀ entry ∈ upperExpansions, ∃ code ∈ entry.2,
    Char.ofNat code ∈ ['F', 'I', 'S'] ∨ ¬(Char.ofNat code).toNat < 128 := by
  decide +kernel

theorem upperRuns_leave : ∀ run ∈ upperRuns, run.target < 128 →
    run.first = run.last ∧ Char.ofNat run.target ∈ ['F', 'I', 'S'] := by
  decide +kernel

theorem exists_mem_upperChar {c : Char} (h : ¬c.toNat < 128) :
    ∃ d ∈ upperChar c, d ∈ ['F', 'I', 'S'] ∨ ¬d.toNat < 128 := by
  cases hlookup : upperExpansions.lookup c.toNat with
  | some codes =>
    obtain ⟨entry, hentry, rfl⟩ := mem_of_lookup hlookup
    obtain ⟨code, hcode, hleaves⟩ := upperExpansions_leave entry hentry
    rw [upperChar_of_expansion h hlookup]
    exact ⟨Char.ofNat code, List.mem_map_of_mem hcode, hleaves⟩
  | none =>
    rw [upperChar_of_run h hlookup]
    refine ⟨_, List.mem_singleton_self _, ?_⟩
    cases hfound : upperRuns.findSome? (·.map? c.toNat) with
    | none =>
      rw [lookupRuns, hfound, Option.getD_none, Char.ofNat_toNat]
      exact Or.inr h
    | some other =>
      obtain ⟨run, hrun, hmap⟩ := List.exists_of_findSome?_eq_some hfound
      obtain ⟨i, hi, hstep, rfl⟩ := CaseRun.map?_eq_some hmap
      rw [lookupRuns, hfound, Option.getD_some]
      by_cases htarget : run.target < 128
      · obtain ⟨hone, hletter⟩ := upperRuns_leave run hrun htarget
        obtain rfl : i = 0 := by omega
        exact Or.inl hletter
      · right
        rw [CaseRun.toNat_of_settled (List.all_eq_true.mp upperRuns_settled run hrun) htarget hi]
        omega

end Text

namespace Sql

namespace Token

def IsAscii (token : Token) : Prop := ∀ c ∈ token.text.toList, c.toNat < 128

instance (token : Token) : Decidable token.IsAscii :=
  decidable_of_iff ((token.text.toList.all fun c => c.toNat < 128) = true) (by simp [IsAscii])

variable {token : Token} {word : String}

theorem upper_of_keyword (h : token.keyword = word) (hne : word ≠ "") :
    token.isLiteral = false ∧ token.isQuoted = false ∧ token.upper = word := by
  unfold keyword at h
  split at h
  · exact absurd h.symm hne
  · next htext =>
    simp only [Bool.or_eq_true, not_or, Bool.not_eq_true] at htext
    exact ⟨htext.1, htext.2, h⟩

/-- Of the tokens that are told by a name in upper case, the grammar takes those in ASCII. -/
theorem isKeyword_iff (hword : isName word.toList = true) :
    token.isKeyword word = true ↔ token.keyword = word ∧ token.IsAscii := by
  constructor
  · intro h
    simp only [isKeyword, isWord, Bool.and_eq_true, Bool.or_eq_true, Bool.not_eq_true', beq_iff_eq] at h
    obtain ⟨⟨⟨hliteral, hname⟩, hquoted⟩, hupper⟩ := h
    have hname : isName token.text.toList = true := by simpa [hquoted] using hname
    exact ⟨by simp [keyword, hliteral, hquoted, hupper], lt_of_isName hname⟩
  · rintro ⟨hkeyword, hascii⟩
    have hne : word ≠ "" := by
      rintro rfl
      cases hword
    obtain ⟨hliteral, hquoted, hupper⟩ := upper_of_keyword hkeyword hne
    have hname : isName token.text.toList = true := by
      rw [← hupper, upper, Text.upper_of_ascii hascii, String.toList_ofList,
        isName_map_toUpper] at hword
      exact hword
    simp [isKeyword, isWord, hliteral, hquoted, hupper, hname]

theorem isKeyword_eq_false (hword : isName word.toList = true)
    (h : ¬(token.keyword = word ∧ token.IsAscii)) : token.isKeyword word = false := by
  rw [← Bool.not_eq_true, isKeyword_iff hword]
  exact h

/-- Leading words without the letters that others become in upper case. -/
def asciiWords : List String := ["TYPE", "CREATE", "OR", "REPLACE", "TABLE"]

theorem asciiWords_letters : ∀ word ∈ asciiWords, word ≠ "" ∧
    (word.toList.all fun d => d ∉ ['F', 'I', 'S'] && d.toNat < 128) = true := by
  decide +kernel

theorem isAscii_of_keyword (h : token.keyword ∈ asciiWords) : token.IsAscii := by
  obtain ⟨hne, hletters⟩ := asciiWords_letters _ h
  intro c hc
  by_contra hlarge
  obtain ⟨d, hd, hleaves⟩ := Text.exists_mem_upperChar hlarge
  have hmem : d ∈ token.keyword.toList := by
    rw [← (upper_of_keyword rfl hne).2.2, upper, Text.upper, String.toList_ofList]
    exact List.mem_flatMap.mpr ⟨c, hc, hd⟩
  obtain ⟨hother, hsmall⟩ : d ∉ ['F', 'I', 'S'] ∧ d.toNat < 128 := by
    simpa only [Bool.and_eq_true, decide_eq_true_eq] using List.all_eq_true.mp hletters d hmem
  rcases hleaves with hletter | hbeyond
  · exact hother hletter
  · exact hbeyond hsmall

end Token

/-! ### Words at the front -/

section Front

variable {word : String} {words : List String} {tokens skipped rest : List Token}

theorem exists_of_afterKeywords? (h : StatementKind.afterKeywords? words tokens = some rest) :
    ∃ skipped, tokens = skipped ++ rest ∧ skipped.map Token.keyword = words := by
  unfold StatementKind.afterKeywords? at h
  induction words generalizing tokens with
  | nil =>
    cases h
    exact ⟨[], rfl, rfl⟩
  | cons word words ih =>
    cases tokens with
    | nil => cases h
    | cons token tokens =>
      unfold afterWords? at h
      split at h
      · next hword =>
        obtain ⟨skipped, rfl, rfl⟩ := ih h
        exact ⟨token :: skipped, rfl, by rw [List.map_cons, beq_iff_eq.mp hword]⟩
      · cases h

theorem exists_of_getD_afterKeywords? (words : List String) (tokens : List Token) :
    ∃ (given : Bool) (skipped : List Token),
      tokens = skipped ++ (StatementKind.afterKeywords? words tokens).getD tokens ∧
        skipped.map Token.keyword = if given then words else [] := by
  cases h : StatementKind.afterKeywords? words tokens with
  | none => exact ⟨false, [], rfl, rfl⟩
  | some rest =>
    obtain ⟨skipped, htokens, hskipped⟩ := exists_of_afterKeywords? h
    exact ⟨true, skipped, htokens, hskipped⟩

theorem exists_of_namedKind? {kind : SourceKind}
    (h : StatementKind.namedKind? tokens = some (kind, rest)) :
    ∃ token, tokens = token :: rest ∧ token.keyword = kind.keyword := by
  have hone {word : String} {after : List Token}
      (h : StatementKind.afterKeywords? [word] tokens = some after) :
      ∃ token, tokens = token :: after ∧ token.keyword = word := by
    obtain ⟨skipped, rfl, hskipped⟩ := exists_of_afterKeywords? h
    obtain ⟨token, rfl, hword⟩ := List.map_eq_singleton_iff.mp hskipped
    exact ⟨token, rfl, hword⟩
  unfold StatementKind.namedKind? at h
  split at h
  · next hstream =>
    cases h
    exact hone hstream
  · next htable =>
    cases h
    exact hone htable
  · cases h

theorem keywords?_append (hnames : ∀ token ∈ skipped, isName token.keyword.toList = true)
    (hascii : ∀ token ∈ skipped, token.IsAscii) (rest : List Token) :
    keywords? (skipped.map Token.keyword) (skipped ++ rest) = some rest := by
  unfold keywords?
  induction skipped with
  | nil => rfl
  | cons token skipped ih =>
    have hkeyword : token.isKeyword token.keyword = true :=
      (Token.isKeyword_iff (hnames token (by simp))).mpr ⟨rfl, hascii token (by simp)⟩
    rw [List.map_cons, List.cons_append, afterWords?, if_pos hkeyword]
    exact ih (fun other h => hnames other (List.mem_cons_of_mem _ h))
      fun other h => hascii other (List.mem_cons_of_mem _ h)

theorem keywords?_eq_none {token : Token} (h : token.isKeyword word = false) :
    keywords? (word :: words) (token :: tokens) = none := by
  rw [keywords?, afterWords?, h]
  rfl

theorem keywords_append (hwords : skipped.map Token.keyword = words)
    (hnames : ∀ word ∈ words, isName word.toList = true) (hascii : ∀ token ∈ skipped, token.IsAscii)
    (rest : List Token) : keywords words (skipped ++ rest) = .ok rest := by
  subst hwords
  rw [keywords, keywords?_append (fun token h => hnames _ (List.mem_map_of_mem h)) hascii]

theorem keywords_eq_error {token : Token} (h : token.isKeyword word = false) :
    keywords (word :: words) (token :: tokens) =
      .error (.unexpected (.keywords (word :: words)) (some token)) := by
  rw [keywords, keywords?_eq_none h]
  rfl

theorem optionalPhrase_append {given : Bool}
    (hwords : skipped.map Token.keyword = if given then word :: words else [])
    (hnames : ∀ other ∈ word :: words, isName other.toList = true)
    (hascii : ∀ token ∈ skipped, token.IsAscii)
    (hnext : ∀ token ∈ tokens.head?, token.isKeyword word = false) :
    optionalPhrase (word :: words) (skipped ++ tokens) = .ok (given, tokens) := by
  rw [optionalPhrase_apply, optionalKeywords]
  cases given with
  | true =>
    replace hwords : skipped.map Token.keyword = word :: words := hwords
    rw [← hwords] at hnames ⊢
    rw [keywords?_append (fun token h => hnames _ (List.mem_map_of_mem h)) hascii]
  | false =>
    obtain rfl : skipped = [] := by simpa using hwords
    cases tokens with
    | nil => rfl
    | cons token tokens => rw [List.nil_append, keywords?_eq_none (hnext token rfl)]

end Front

/-! ### Leading words -/

theorem SourceKind.keyword_other (kind : SourceKind) : kind.keyword ≠ "OR" ∧
    kind.keyword ≠ "SOURCE" ∧ isName kind.keyword.toList = true := by
  cases kind <;> decide

inductive LeadingWords where
  | register
  | create (orReplace isSource : Bool) (kind : SourceKind)
deriving DecidableEq

namespace LeadingWords

def words : LeadingWords → List String
  | register => ["REGISTER", "TYPE"]
  | create orReplace isSource kind =>
    "CREATE" :: ((if orReplace then ["OR", "REPLACE"] else []) ++
      ((if isSource then ["SOURCE"] else []) ++ [kind.keyword]))

def kind : LeadingWords → StatementKind
  | register => .register
  | create _ _ kind => .create kind

/-- The kind was told by the words, and these are the tokens behind them. -/
def Told : LeadingWords → List Token → List Token → Prop
  | register, tokens, rest => StatementKind.afterKeywords? ["REGISTER", "TYPE"] tokens = some rest
  | create _ _ kind, tokens, rest => StatementKind.declared? tokens = some (kind, rest)

/-- The keywords that are asked for where one of the words holds a letter from beyond ASCII. -/
def asked : LeadingWords → List String
  | register => ["REGISTER", "TYPE"]
  | create _ _ kind => [kind.keyword]

def finish : LeadingWords → List Token → Parsing Statement
  | register, rest => (whole registrationRest .ok rest).map .register
  | create orReplace isSource kind, rest =>
    (whole (declarationRest orReplace isSource) (·.source? kind) rest).map .create

def ofStatement : Statement → LeadingWords
  | .register _ => register
  | .create source => create source.orReplace source.isSource source.kind

theorem exists_of_ofTokens {tokens : List Token} (h : StatementKind.ofTokens tokens ≠ .other) :
    ∃ (leading : LeadingWords) (skipped rest : List Token), leading.Told tokens rest ∧
      tokens = skipped ++ rest ∧ skipped.map Token.keyword = leading.words ∧
      StatementKind.ofTokens tokens = leading.kind := by
  rw [StatementKind.ofTokens_eq] at h ⊢
  by_cases hregister : (StatementKind.afterKeywords? ["REGISTER", "TYPE"] tokens).isSome = true
  · obtain ⟨rest, hrest⟩ := Option.isSome_iff_exists.mp hregister
    obtain ⟨skipped, htokens, hskipped⟩ := exists_of_afterKeywords? hrest
    exact ⟨register, skipped, rest, hrest, htokens, hskipped, if_pos hregister⟩
  · rw [if_neg hregister] at h ⊢
    cases hdeclared : StatementKind.declared? tokens with
    | none =>
      rw [hdeclared] at h
      exact absurd rfl h
    | some found =>
      obtain ⟨kind, rest⟩ := found
      rw [hdeclared] at h
      obtain ⟨after, hcreate, hnamed⟩ := Option.bind_eq_some_iff.mp hdeclared
      obtain ⟨created, rfl, hcreated⟩ := exists_of_afterKeywords? hcreate
      obtain ⟨create, rfl, hword⟩ := List.map_eq_singleton_iff.mp hcreated
      obtain ⟨orReplace, replaced, hafter, hreplaced⟩ :=
        exists_of_getD_afterKeywords? ["OR", "REPLACE"] after
      obtain ⟨isSource, sourced, hnext, hsourced⟩ := exists_of_getD_afterKeywords? ["SOURCE"]
        ((StatementKind.afterKeywords? ["OR", "REPLACE"] after).getD after)
      obtain ⟨source, hlast, hkind⟩ := exists_of_namedKind? hnamed
      refine ⟨.create orReplace isSource kind, create :: (replaced ++ (sourced ++ [source])), rest,
        hdeclared, ?_, ?_, if_neg fun hquery => h (if_pos hquery)⟩
      · rw [hlast] at hnext
        rw [hnext] at hafter
        rw [hafter]
        simp
      · simp only [words, List.map_cons, List.map_append, List.map_nil, hword, hreplaced, hsourced,
          hkind]

/-! ### Behind the leading words -/

section Behind
open Reading

variable {leading : LeadingWords} {kind : SourceKind} {orReplace isSource : Bool}
  {skipped tokens : List Token}

theorem exists_of_words_create
    (h : skipped.map Token.keyword = (create orReplace isSource kind).words) :
    ∃ create replaced sourced source, skipped = [create] ++ (replaced ++ (sourced ++ [source])) ∧
      create.keyword = "CREATE" ∧
      replaced.map Token.keyword = (if orReplace then ["OR", "REPLACE"] else []) ∧
      sourced.map Token.keyword = (if isSource then ["SOURCE"] else []) ∧
      source.keyword = kind.keyword := by
  obtain ⟨create, after, rfl, hcreate, hafter⟩ := List.map_eq_cons_iff.mp h
  obtain ⟨replaced, last, rfl, hreplaced, hlast⟩ := List.map_eq_append_iff.mp hafter
  obtain ⟨sourced, named, rfl, hsourced, hnamed⟩ := List.map_eq_append_iff.mp hlast
  obtain ⟨source, rfl, hsource⟩ := List.map_eq_singleton_iff.mp hnamed
  exact ⟨create, replaced, sourced, source, rfl, hcreate, hreplaced, hsourced, hsource⟩

theorem isAscii_of_mem_replaced {replaced : List Token}
    (h : replaced.map Token.keyword = if orReplace then ["OR", "REPLACE"] else []) :
    ∀ token ∈ replaced, token.IsAscii := by
  intro token htoken
  have hword : token.keyword ∈ ["OR", "REPLACE"] := by
    have hmem := List.mem_map_of_mem (f := Token.keyword) htoken
    rw [h] at hmem
    split at hmem
    · exact hmem
    · cases hmem
  have hplain : ["OR", "REPLACE"] ⊆ Token.asciiWords := by simp [Token.asciiWords]
  exact Token.isAscii_of_keyword (hplain hword)

theorem declarationReading_append {create : Token} {replaced : List Token}
    (hcreate : create.keyword = "CREATE")
    (hreplaced : replaced.map Token.keyword = if orReplace then ["OR", "REPLACE"] else [])
    (hnext : ∀ token ∈ tokens.head?, token.keyword ≠ "OR") :
    declarationReading kind ([create] ++ (replaced ++ tokens)) =
      seq (optionalPhrase ["SOURCE"]) (fun isSource => skip (keywords [kind.keyword])
        (declarationRest orReplace isSource)) tokens := by
  have hfirst : keywords ["CREATE"] ([create] ++ (replaced ++ tokens)) = .ok (replaced ++ tokens) := by
    refine keywords_append (by rw [List.map_singleton, hcreate]) (by decide) ?_ _
    intro token htoken
    rw [List.mem_singleton.mp htoken]
    exact Token.isAscii_of_keyword (by simp [hcreate, Token.asciiWords])
  have hphrase := optionalPhrase_append hreplaced (by decide) (isAscii_of_mem_replaced hreplaced)
    fun token h => Token.isKeyword_eq_false (by decide) fun hword => hnext token h hword.1
  rw [declarationReading, skip_ok hfirst, seq_ok hphrase]
  rfl

theorem ne_or_of_head {sourced : List Token} {source : Token}
    (hsourced : sourced.map Token.keyword = if isSource then ["SOURCE"] else [])
    (hsource : source.keyword = kind.keyword) (rest : List Token) :
    ∀ token ∈ (sourced ++ ([source] ++ rest)).head?, token.keyword ≠ "OR" := by
  rintro token htoken hor
  cases isSource with
  | true =>
    obtain ⟨first, rfl, hfirst⟩ := List.map_eq_singleton_iff.mp hsourced
    obtain rfl : first = token := by simpa using htoken
    exact absurd (hfirst.symm.trans hor) (by decide)
  | false =>
    obtain rfl : sourced = [] := by simpa using hsourced
    obtain rfl : source = token := by simpa using htoken
    exact kind.keyword_other.1 (hsource.symm.trans hor)

theorem optionalPhrase_source {sourced : List Token} {source : Token}
    (hsourced : sourced.map Token.keyword = if isSource then ["SOURCE"] else [])
    (hascii : ∀ token ∈ sourced, token.IsAscii) (hsource : source.keyword = kind.keyword)
    (rest : List Token) : optionalPhrase ["SOURCE"] (sourced ++ ([source] ++ rest)) =
      .ok (isSource, [source] ++ rest) := by
  refine optionalPhrase_append hsourced (by decide) hascii ?_
  rintro token ⟨⟩
  exact Token.isKeyword_eq_false (by decide) fun hword =>
    kind.keyword_other.2.1 (hsource.symm.trans hword.1)

theorem declarationReading_of_ascii
    (hwords : skipped.map Token.keyword = (create orReplace isSource kind).words)
    (hascii : ∀ token ∈ skipped, token.IsAscii) (rest : List Token) :
    declarationReading kind (skipped ++ rest) = declarationRest orReplace isSource rest := by
  obtain ⟨create, replaced, sourced, source, rfl, hcreate, hreplaced, hsourced, hsource⟩ :=
    exists_of_words_create hwords
  have hphrase := optionalPhrase_source hsourced (fun token h => hascii token (by simp [h])) hsource
    rest
  have hkind : keywords [kind.keyword] ([source] ++ rest) = .ok rest := by
    refine keywords_append (by rw [List.map_singleton, hsource]) ?_ ?_ rest
    · exact fun word h => List.mem_singleton.mp h ▸ kind.keyword_other.2.2
    · exact fun token h => hascii token (by simp [List.mem_singleton.mp h])
  rw [List.append_assoc, List.append_assoc, List.append_assoc,
    declarationReading_append hcreate hreplaced (ne_or_of_head hsourced hsource rest),
    seq_ok hphrase, skip_ok hkind]

/-- Behind leading words in ASCII the statement is read on. -/
theorem statementOfKind_of_ascii (hwords : skipped.map Token.keyword = leading.words)
    (hascii : ∀ token ∈ skipped, token.IsAscii) (rest : List Token) :
    statementOfKind leading.kind (skipped ++ rest) = (leading.finish rest).map some := by
  cases leading with
  | register =>
    have hlead := keywords_append hwords (by decide) hascii rest
    have hread : registrationReading (skipped ++ rest) = registrationRest rest := skip_ok hlead
    rw [kind, statementOfKind_register, typeRegistration_whole, whole_congr hread, finish]
    cases whole registrationRest .ok rest <;> rfl
  | create orReplace isSource kind =>
    have hread := declarationReading_of_ascii hwords hascii rest
    rw [LeadingWords.kind, statementOfKind_create, source_whole, whole_congr hread, finish]
    cases whole (declarationRest orReplace isSource) (·.source? kind) rest <;> rfl

theorem find?_append_of_ascii {first : List Token} (h : ∀ token ∈ first, token.IsAscii)
    (more : List Token) : (first ++ more).find? (fun token => ¬token.IsAscii) =
      more.find? (fun token => ¬token.IsAscii) := by
  have hnone : first.find? (fun token => ¬token.IsAscii) = none :=
    List.find?_eq_none.mpr fun token htoken => by simpa using h token htoken
  rw [List.find?_append, hnone, Option.none_or]

theorem not_ascii_of_find? {token : Token}
    (h : skipped.find? (fun token => ¬token.IsAscii) = some token) : ¬token.IsAscii := by
  simpa using List.find?_some h

theorem registrationReading_of_not_ascii {token : Token}
    (hwords : skipped.map Token.keyword = ["REGISTER", "TYPE"])
    (hfirst : skipped.find? (fun token => ¬token.IsAscii) = some token) (rest : List Token) :
    registrationReading (skipped ++ rest) =
        .error (.unexpected (.keywords ["REGISTER", "TYPE"]) (some token)) ∧
      token.keyword = "REGISTER" := by
  have hbeyond := not_ascii_of_find? hfirst
  obtain ⟨first, after, rfl, hregister, hafter⟩ := List.map_eq_cons_iff.mp hwords
  obtain ⟨second, rfl, htype⟩ := List.map_eq_singleton_iff.mp hafter
  have hsecond : second.IsAscii := Token.isAscii_of_keyword (by simp [htype, Token.asciiWords])
  obtain rfl : first = token := by
    rcases List.mem_pair.mp (List.mem_of_find?_eq_some hfirst) with hsame | rfl
    · exact hsame.symm
    · exact absurd hsecond hbeyond
  have hnot : first.isKeyword "REGISTER" = false :=
    Token.isKeyword_eq_false (by decide) fun h => hbeyond h.2
  exact ⟨skip_error (keywords_eq_error hnot), hregister⟩

/-- In a declaration the first such word is passed over by what may be left out, and is then not found
where `STREAM` or `TABLE` is asked for. -/
theorem declarationReading_of_not_ascii {token : Token}
    (hwords : skipped.map Token.keyword = (create orReplace isSource kind).words)
    (hfirst : skipped.find? (fun token => ¬token.IsAscii) = some token) (rest : List Token) :
    declarationReading kind (skipped ++ rest) =
        .error (.unexpected (.keywords [kind.keyword]) (some token)) ∧
      token.keyword ∈ ["SOURCE", "STREAM"] := by
  have hbeyond := not_ascii_of_find? hfirst
  have hmissing (rest : List Token) : keywords [kind.keyword] (token :: rest) =
      .error (.unexpected (.keywords [kind.keyword]) (some token)) :=
    keywords_eq_error (Token.isKeyword_eq_false kind.keyword_other.2.2 fun h => hbeyond h.2)
  obtain ⟨create, replaced, sourced, source, rfl, hcreate, hreplaced, hsourced, hsource⟩ :=
    exists_of_words_create hwords
  have hcreated : ∀ token ∈ [create], token.IsAscii := fun token h =>
    List.mem_singleton.mp h ▸ Token.isAscii_of_keyword (by simp [hcreate, Token.asciiWords])
  rw [find?_append_of_ascii hcreated, find?_append_of_ascii (isAscii_of_mem_replaced hreplaced)]
    at hfirst
  rw [List.append_assoc, List.append_assoc, List.append_assoc,
    declarationReading_append hcreate hreplaced (ne_or_of_head hsourced hsource rest)]
  by_cases hascii : ∀ token ∈ sourced, token.IsAscii
  · rw [find?_append_of_ascii hascii] at hfirst
    obtain rfl : token = source := List.mem_singleton.mp (List.mem_of_find?_eq_some hfirst)
    rw [seq_ok (optionalPhrase_source hsourced hascii hsource rest)]
    refine ⟨skip_error (hmissing rest), ?_⟩
    cases kind with
    | stream => exact List.mem_pair.mpr (Or.inr hsource)
    | table =>
      have hplain : token.keyword ∈ Token.asciiWords := by
        simp [hsource, SourceKind.keyword, Token.asciiWords]
      exact absurd (Token.isAscii_of_keyword hplain) hbeyond
  · cases isSource with
    | false =>
      obtain rfl : sourced = [] := by simpa using hsourced
      exact absurd nofun hascii
    | true =>
      obtain ⟨first, rfl, hword⟩ := List.map_eq_singleton_iff.mp hsourced
      have hnot : ¬first.IsAscii := by simpa using hascii
      obtain rfl : first = token := by simpa [hnot] using hfirst
      have hphrase : optionalPhrase ["SOURCE"] ([first] ++ ([source] ++ rest)) =
          .ok (false, first :: ([source] ++ rest)) := by
        rw [optionalPhrase_apply, optionalKeywords, List.singleton_append, keywords?_eq_none]
        exact Token.isKeyword_eq_false (by decide) fun h => hbeyond h.2
      rw [seq_ok hphrase]
      exact ⟨skip_error (hmissing _), List.mem_pair.mpr (Or.inl hword)⟩

theorem statementOfKind_of_not_ascii {token : Token}
    (hwords : skipped.map Token.keyword = leading.words)
    (hfirst : skipped.find? (fun token => ¬token.IsAscii) = some token) (rest : List Token) :
    statementOfKind leading.kind (skipped ++ rest) =
        .error (.unexpected (.keywords leading.asked) (some token)) ∧
      token.keyword ∈ ["REGISTER", "SOURCE", "STREAM"] := by
  cases leading with
  | register =>
    obtain ⟨hread, hword⟩ := registrationReading_of_not_ascii hwords hfirst rest
    refine ⟨?_, hword ▸ List.mem_cons_self⟩
    rw [kind, statementOfKind_register, typeRegistration_whole]
    exact congrArg (Except.map _) (whole_of_error hread)
  | create orReplace isSource kind =>
    obtain ⟨hread, hword⟩ := declarationReading_of_not_ascii hwords hfirst rest
    refine ⟨?_, List.mem_cons_of_mem _ hword⟩
    rw [LeadingWords.kind, statementOfKind_create, source_whole]
    exact congrArg (Except.map _) (whole_of_error hread)

theorem ofStatement_of_finish {rest : List Token} {tree : Statement}
    (h : leading.finish rest = .ok tree) : ofStatement tree = leading := by
  cases leading with
  | register =>
    obtain ⟨registration, -, rfl⟩ := map_eq_ok.mp h
    rfl
  | create orReplace isSource kind =>
    obtain ⟨source, hwhole, rfl⟩ := map_eq_ok.mp h
    obtain ⟨⟨declaration, after⟩, hread, hrest⟩ := bind_eq_ok.mp hwhole
    obtain ⟨-, -, hsource⟩ := bind_eq_ok.mp hrest
    obtain ⟨-, -, hmade⟩ := bind_eq_ok.mp hsource
    obtain ⟨properties, -, hmade⟩ := bind_eq_ok.mp hmade
    obtain ⟨ifNotExists, _, -, hread⟩ := seq_eq_ok.mp hread
    obtain ⟨name, _, -, hread⟩ := seq_eq_ok.mp hread
    obtain ⟨columns, _, -, hread⟩ := seq_eq_ok.mp hread
    obtain ⟨literals, _, -, hread⟩ := seq_eq_ok.mp hread
    cases hread
    cases hmade
    rfl

/-- Behind the words only the word `AS` of a registration is asked for. -/
theorem asked_of_finish {rest : List Token} {words : List String} {found : Option Token}
    (h : leading.finish rest = .error (.unexpected (.keywords words) found)) :
    leading = register ∧ words = ["AS"] := by
  cases leading with
  | register =>
    have hproduction : Production (· = ["AS"]) registrationRest := production_registrationRest rfl
    exact ⟨rfl, hproduction.asksOnly.whole (by simp) (map_eq_error.mp h)⟩
  | create orReplace isSource kind =>
    have hproduction : Production (fun _ => False) (declarationRest orReplace isSource) :=
      production_declarationRest orReplace isSource
    exact (hproduction.asksOnly.whole (fun _ _ => source?_declared) (map_eq_error.mp h)).elim

end Behind

end LeadingWords

/-- The leading words that tell the kind of a statement are those that its reading begins with. Where
they are in ASCII the statement is what is read of the tokens behind them, and says which words they
were; no keyword is missed but the `AS` of a registration. Where one of them holds a letter from beyond
ASCII, as only `REGISTER`, `SOURCE` and `STREAM` can, that word is found in place of the keyword. -/
theorem leading_words_skipped {tokens : List Token} (h : StatementKind.ofTokens tokens ≠ .other) :
    ∃ (leading : LeadingWords) (skipped rest : List Token), leading.Told tokens rest ∧
      tokens = skipped ++ rest ∧ skipped.map Token.keyword = leading.words ∧
      StatementKind.ofTokens tokens = leading.kind ∧
      ((∀ token ∈ skipped, token.IsAscii) →
        statement tokens = (leading.finish rest).map some ∧
        (∀ tree, statement tokens = .ok (some tree) → LeadingWords.ofStatement tree = leading) ∧
        ∀ words found, statement tokens = .error (.unexpected (.keywords words) found) →
          leading = .register ∧ words = ["AS"]) ∧
      ∀ token, skipped.find? (fun token => ¬token.IsAscii) = some token →
        statement tokens = .error (.unexpected (.keywords leading.asked) (some token)) ∧
        token.keyword ∈ ["REGISTER", "SOURCE", "STREAM"] := by
  obtain ⟨leading, skipped, rest, htold, rfl, hwords, hkind⟩ := LeadingWords.exists_of_ofTokens h
  refine ⟨leading, skipped, rest, htold, rfl, hwords, hkind, fun hascii => ?_, fun token hfirst => ?_⟩
  · have hread : statement (skipped ++ rest) = (leading.finish rest).map some := by
      rw [statement, hkind]
      exact LeadingWords.statementOfKind_of_ascii hwords hascii rest
    refine ⟨hread, fun tree htree => ?_, fun words found herror => ?_⟩
    · rw [hread] at htree
      obtain ⟨_, hfinish, ⟨⟩⟩ := map_eq_ok.mp htree
      exact LeadingWords.ofStatement_of_finish hfinish
    · rw [hread] at herror
      exact LeadingWords.asked_of_finish (map_eq_error.mp herror)
  · rw [statement, hkind]
    exact LeadingWords.statementOfKind_of_not_ascii hwords hfirst rest

def replacedTable : List Token :=
  [⟨.plain, "create"⟩, ⟨.plain, "Or"⟩, ⟨.plain, "replace"⟩, ⟨.plain, "SOURCE"⟩, ⟨.plain, "table"⟩,
    ⟨.plain, "t"⟩, ⟨.plain, "WITH"⟩, ⟨.plain, "("⟩, ⟨.plain, "kafka_topic"⟩, ⟨.plain, "="⟩,
    ⟨.string, "t"⟩, ⟨.plain, ")"⟩]

theorem leading_words_skipped_table :
    StatementKind.ofTokens replacedTable ≠ .other ∧
    statement replacedTable =
      ((LeadingWords.create true true .table).finish (replacedTable.drop 5)).map some ∧
    ∃ source, statement replacedTable = .ok (some (.create source)) ∧
      source.orReplace = true ∧ source.isSource = true ∧ source.kind = .table := by
  have hkind : StatementKind.ofTokens replacedTable ≠ .other := by decide +kernel
  have htree : statement replacedTable = .ok (some (.create
      ⟨.table, "T", [], ⟨"t", .separate none none, none, none, none, []⟩, true, false, true⟩)) := by
    decide +kernel
  obtain ⟨leading, skipped, rest, -, htokens, hwords, -, hascii, -⟩ := leading_words_skipped hkind
  have hall : ∀ token ∈ replacedTable, token.IsAscii := by decide +kernel
  obtain ⟨hread, htell, -⟩ := hascii fun token h => hall token (htokens ▸ List.mem_append_left _ h)
  obtain rfl : .create true true .table = leading := htell _ htree
  have hlength : skipped.length = 5 := by simpa [LeadingWords.words] using congrArg List.length hwords
  have hrest : replacedTable.drop 5 = rest := by rw [htokens, ← hlength, List.drop_left]
  exact ⟨hkind, hrest ▸ hread, _, htree, rfl, rfl, rfl⟩

/-- A long s is an S in upper case, but no letter of an unquoted name. -/
def longSDeclaration : List Token :=
  [⟨.plain, "CREATE"⟩, ⟨.plain, "ſTREAM"⟩, ⟨.plain, "S"⟩, ⟨.plain, "("⟩, ⟨.plain, "A"⟩,
    ⟨.plain, "INT"⟩, ⟨.plain, ")"⟩, ⟨.plain, "WITH"⟩, ⟨.plain, "("⟩, ⟨.plain, "kafka_topic"⟩,
    ⟨.plain, "="⟩, ⟨.string, "t"⟩, ⟨.plain, ")"⟩]

theorem long_s_in_leading_word :
    (lex "CREATE ſTREAM S (A INT) WITH (kafka_topic='t')".toList).map reducedTokens =
      .ok longSDeclaration ∧
    StatementKind.ofTokens longSDeclaration = .create .stream ∧
    statement longSDeclaration =
      .error (.unexpected (.keywords ["STREAM"]) (some ⟨.plain, "ſTREAM"⟩)) := by
  decide +kernel

end Sql
end TopicPlan
