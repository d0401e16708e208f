import TopicPlan.Proofs.FaultLogic
import TopicPlan.Proofs.Numerals
import TopicPlan.Yaml.Lexer

/-! Faults in the tokens of a YAML text. The text is malformed, or one of three things stands in it:
an escape of a code beyond the last character, one of a code that is larger still, or a version with
a numeral beyond the digit limit. The lexer goes forward only, so what it finds stands in the text
that it was given. -/
namespace TopicPlan.Yaml

variable {α β : Type} {s rest : List Char}

def hexCode (digits : List Char) : Nat :=
  (digits.filterMap Text.hexValue?).foldl (fun n d => 16 * n + d) 0

/-- An escape of a code of at least `least` stands in a text. -/
def HasEscape (least : Nat) (s : List Char) : Prop :=
  ∃ mark digits, '\\' :: mark :: digits <:+: s ∧ codeWidth? mark = some digits.length ∧
    least ≤ hexCode digits

/-- What a fault tells of the text in which it was found. -/
def Fault.StandsIn (s : List Char) : Fault → Prop
  | .malformed => True
  | .codeOutOfRange => HasEscape 0x110000 s
  | .codeTooLarge => HasEscape codeBound s
  | .numeralTooLong count => Text.HasOverlong count s
  | _ => False

theorem HasEscape.of_suffix {least : Nat} (h : rest <:+ s) (hrest : HasEscape least rest) :
    HasEscape least s := by
  obtain ⟨mark, digits, hdigits, hcode⟩ := hrest
  exact ⟨mark, digits, hdigits.trans h.isInfix, hcode⟩

theorem HasEscape.mono {least most : Nat} (hle : least ≤ most) (h : HasEscape most s) :
    HasEscape least s := by
  obtain ⟨mark, digits, hdigits, hwidth, hcode⟩ := h
  exact ⟨mark, digits, hdigits, hwidth, Nat.le_trans hle hcode⟩

theorem Fault.StandsIn.of_suffix {fault : Fault} (h : rest <:+ s) (hrest : fault.StandsIn rest) :
    fault.StandsIn s := by
  cases fault with
  | malformed => trivial
  | codeOutOfRange | codeTooLarge => exact HasEscape.of_suffix h hrest
  | numeralTooLong count => exact Text.HasOverlong.of_suffix h hrest
  | _ => exact hrest

/-- What is read from the front of a text leaves the end of it, and faults stand in it. -/
abbrev Reads (s : List Char) (left : α → List Char) (x : Except Fault α) : Prop :=
  Ends (Fault.StandsIn s) (fun a => left a <:+ s) x

theorem Reads.after {left : α → List Char} {x : Except Fault α} (h : rest <:+ s)
    (hx : Reads rest left x) : Reads s left x := by
  cases x with
  | ok a => exact hx.trans h
  | error fault => exact hx.of_suffix h

/-! Cursors only go forward. -/

namespace Cursor

theorem step_rest (cursor : Cursor) : cursor.step.rest = cursor.rest.tail := by
  unfold step
  split
  · next h => rw [h]; rfl
  · next c rest h =>
    split
    · rw [h]; rfl
    · rw [h]; rfl

theorem skip_rest (n : Nat) (cursor : Cursor) : (cursor.skip n).rest = cursor.rest.drop n := by
  induction n generalizing cursor with
  | zero => rfl
  | succ n ih => rw [skip, ih, step_rest, List.drop_tail]

theorem step_suffix (cursor : Cursor) : cursor.step.rest <:+ cursor.rest :=
  step_rest cursor ▸ List.tail_suffix _

theorem skip_suffix (n : Nat) (cursor : Cursor) : (cursor.skip n).rest <:+ cursor.rest :=
  skip_rest n cursor ▸ List.drop_suffix n _

theorem skipWhile_suffix (p : Char → Bool) (cursor : Cursor) :
    (cursor.skipWhile p).rest <:+ cursor.rest :=
  skip_suffix _ cursor

theorem skipComment_suffix (cursor : Cursor) : cursor.skipComment.rest <:+ cursor.rest := by
  unfold skipComment
  dsimp only
  split
  · exact (skipWhile_suffix _ _).trans (skipWhile_suffix _ _)
  · exact skipWhile_suffix _ _

end Cursor

open Cursor

/-! Plain scalars. -/

theorem plainBreaks_suffix (bound : Nat) (cursor : Cursor) (breaks : List Char) :
    (plainBreaks bound cursor breaks).2.rest <:+ cursor.rest := by
  induction bound generalizing cursor breaks with
  | zero => exact List.suffix_rfl
  | succ bound ih =>
    have hblanks := skipWhile_suffix (· == ' ') cursor
    unfold plainBreaks
    dsimp only
    split
    · split
      · split
        · exact (step_suffix _).trans hblanks
        · exact (ih _ _).trans ((step_suffix _).trans hblanks)
      · exact hblanks
    · exact hblanks

theorem plainSpacing_suffix (cursor : Cursor) :
    (plainSpacing cursor).cursor.rest <:+ cursor.rest := by
  have hblanks := skipWhile_suffix (· == ' ') cursor
  unfold plainSpacing
  dsimp only
  split
  · next c rest _ =>
    have hbreaks := plainBreaks_suffix rest.length (cursor.skipWhile (· == ' ')).step []
    split
    · exact hblanks
    · split
      · exact (step_suffix _).trans hblanks
      · split
        · next h => exact (h ▸ hbreaks).trans ((step_suffix _).trans hblanks)
        · next h => exact (h ▸ hbreaks).trans ((step_suffix _).trans hblanks)
  · exact hblanks

theorem plainScalar_suffix (inFlow : Bool) (indent : Int) (bound : Nat) (cursor : Cursor) :
    (plainScalar inFlow indent bound cursor).2.1.rest <:+ cursor.rest := by
  induction bound generalizing cursor with
  | zero => exact List.suffix_rfl
  | succ bound ih =>
    unfold plainScalar
    dsimp only
    split
    · exact (plainSpacing_suffix _).trans (skip_suffix _ _)
    · exact (ih _).trans ((plainSpacing_suffix _).trans (skip_suffix _ _))

/-! Quoted scalars. -/

theorem quotedBreaks_reads (bound : Nat) (cursor : Cursor) :
    Reads cursor.rest (fun found => found.2.rest) (quotedBreaks bound cursor) := by
  induction bound generalizing cursor with
  | zero => trivial
  | succ bound ih =>
    unfold quotedBreaks
    split
    · trivial
    · have hblanks := skipWhile_suffix (fun c => c == ' ' || c == '\t') cursor
      dsimp only
      split
      · split
        · refine Reads.after ((step_suffix _).trans hblanks) ((ih _).bind fun found h => ?_)
          exact h
        · exact hblanks
      · exact hblanks

theorem quotedSpacing_reads (cursor : Cursor) :
    Reads cursor.rest (fun found => found.2.rest) (quotedSpacing cursor) := by
  have hblanks := skipWhile_suffix (fun c => c == ' ' || c == '\t') cursor
  unfold quotedSpacing
  dsimp only
  split
  · trivial
  · split
    · refine Reads.after ((step_suffix _).trans hblanks) ((quotedBreaks_reads _ _).bind fun _ h => ?_)
      exact h
    · exact hblanks

/-- A code that is refused stands in the text behind its mark. -/
theorem codeText_reads {mark : Char} {width : Nat} {code : List Char}
    (hwidth : codeWidth? mark = some width) :
    Reads ('\\' :: mark :: code) (fun _ => []) (codeText width code) := by
  have hescape (least : Nat) (hlen : ((code.take width).filterMap Text.hexValue?).length = width)
      (hleast : least ≤ hexCode (code.take width)) : HasEscape least ('\\' :: mark :: code) := by
    refine ⟨mark, code.take width, ⟨[], code.drop width, ?_⟩, ?_, hleast⟩
    · simp
    · have hfound := List.length_filterMap_le Text.hexValue? (code.take width)
      have htaken := List.length_take_le width code
      rw [hwidth, Option.some.injEq]
      omega
  unfold codeText
  dsimp only
  split
  · trivial
  · next hlen =>
    have hlen := Decidable.not_not.mp hlen
    split
    · next hleast => exact hescape codeBound hlen hleast
    · split
      · next hleast => exact hescape 0x110000 hlen hleast
      · exact List.nil_suffix

theorem quotedScalar_reads (quote : Char) (bound : Nat) (cursor : Cursor) :
    Reads cursor.rest (fun found => found.2.rest) (quotedScalar quote bound cursor) := by
  induction bound generalizing cursor with
  | zero => trivial
  | succ bound ih =>
    have hmore (next : Cursor) (hnext : next.rest <:+ cursor.rest) (read : List Char) :
        Reads cursor.rest (fun found => found.2.rest)
          (quotedScalar quote bound next >>= fun found => pure (read ++ found.1, found.2)) :=
      Reads.after hnext ((ih next).bind fun _ h => h)
    unfold quotedScalar
    split
    · trivial
    · next c rest hrest =>
      split
      · refine (quotedSpacing_reads cursor).bind fun spacing hspacing => ?_
        exact hmore spacing.2 hspacing spacing.1
      · split
        · split
          · exact hmore _ (skip_suffix 2 cursor) ['\'']
          · exact step_suffix _
        · split
          · next hescape =>
            split
            · trivial
            · next mark code =>
              have hquoted : cursor.rest = '\\' :: mark :: code := by
                rw [Bool.and_eq_true, beq_iff_eq, beq_iff_eq] at hescape
                rw [hrest, hescape.2]
              split
              · exact hmore _ (skip_suffix 2 cursor) [_]
              · next width _ hwidth =>
                refine Ends.bind (hquoted ▸ codeText_reads hwidth) fun text _ => ?_
                exact hmore _ (skip_suffix _ cursor) text
              · split
                · refine Reads.after (skip_suffix 2 cursor) ?_
                  refine (quotedBreaks_reads _ _).bind fun breaks hbreaks => ?_
                  exact Reads.after hbreaks ((ih _).bind fun _ h => h)
                · trivial
          · exact hmore _ (step_suffix cursor) [_]

/-! Block scalars. -/

theorem headerMarks_suffix (cursor : Cursor) : (headerMarks cursor).2.2.rest <:+ cursor.rest := by
  unfold headerMarks
  dsimp only
  split
  · split
    · exact skip_suffix 2 cursor
    · exact step_suffix cursor
  · split
    · exact skip_suffix 2 cursor
    · exact step_suffix cursor
  · exact List.suffix_rfl

theorem headerEnd_reads (cursor : Cursor) :
    Reads cursor.rest (fun after => after.rest) (headerEnd cursor) := by
  unfold headerEnd
  split
  · trivial
  · split
    · trivial
    · dsimp only
      split
      · exact (step_suffix _).trans (skipComment_suffix _)
      · trivial

theorem blockHeader_reads (cursor : Cursor) :
    Reads cursor.rest (fun found => found.2.2.rest) (blockHeader cursor) := by
  unfold blockHeader
  dsimp only
  split
  · trivial
  · exact Reads.after (headerMarks_suffix cursor) ((headerEnd_reads _).bind fun _ h => h)

theorem blockIndentation_suffix (bound : Nat) (cursor : Cursor) (deepest : Nat) :
    (blockIndentation bound cursor deepest).2.2.rest <:+ cursor.rest := by
  induction bound generalizing cursor deepest with
  | zero => exact List.suffix_rfl
  | succ bound ih =>
    unfold blockIndentation
    split
    · split
      · exact (ih _ _).trans (step_suffix cursor)
      · split
        · exact (ih _ _).trans (step_suffix cursor)
        · exact List.suffix_rfl
    · exact List.suffix_rfl

theorem blockBreaks_suffix (indent bound : Nat) (cursor : Cursor) :
    (blockBreaks indent bound cursor).2.rest <:+ cursor.rest := by
  induction bound generalizing cursor with
  | zero => exact List.suffix_rfl
  | succ bound ih =>
    have hcolumn : (skipToColumn indent cursor).rest <:+ cursor.rest := skip_suffix _ cursor
    unfold blockBreaks
    dsimp only
    split
    · split
      · exact (ih _).trans ((step_suffix _).trans hcolumn)
      · exact hcolumn
    · exact hcolumn

theorem blockLines_suffix (folded : Bool) (indent bound : Nat) (state : BlockText) :
    (blockLines folded indent bound state).cursor.rest <:+ state.cursor.rest := by
  induction bound generalizing state with
  | zero => exact List.suffix_rfl
  | succ bound ih =>
    unfold blockLines
    extract_lets cursor startsDeeper line atBreak lastBreak
    split
    · exact List.suffix_rfl
    · have hnext : (blockBreaks indent (atBreak.rest.length + 1) atBreak.step).2.rest <:+
          state.cursor.rest :=
        (blockBreaks_suffix _ _ _).trans ((step_suffix _).trans (skip_suffix _ _))
      dsimp only
      split
      · exact hnext
      · split
        · exact (ih _).trans hnext
        · exact (ih _).trans hnext

theorem blockScalar_reads (folded : Bool) (parent : Int) (cursor : Cursor) :
    Reads cursor.rest (fun found => found.2.rest) (blockScalar folded parent cursor) := by
  refine (blockHeader_reads cursor).bind fun header hheader => ?_
  obtain ⟨chomping, indent?, after⟩ := header
  refine Reads.after hheader ?_
  cases indent? with
  | some n =>
    exact (blockLines_suffix _ _ _ _).trans (blockBreaks_suffix _ (after.rest.length + 1) after)
  | none =>
    exact (blockLines_suffix _ _ _ _).trans (blockIndentation_suffix (after.rest.length + 1) after 0)

/-! Steps of the lexer. -/

namespace Lexing

theorem deepen_cursor (column : Nat) (s : Lexing) : (s.deepen column).2.cursor = s.cursor := by
  unfold deepen
  split <;> rfl

theorem unwind_cursor (column : Option Nat) (indents : List Nat) (s : Lexing) :
    (unwind column indents s).cursor = s.cursor := by
  induction indents generalizing s with
  | nil => rfl
  | cons indent outer ih =>
    unfold unwind
    split
    · exact ih _
    · rfl

theorem unwindTo_cursor (column : Option Nat) (s : Lexing) : (s.unwindTo column).cursor = s.cursor := by
  unfold unwindTo
  split
  · rfl
  · exact unwind_cursor column _ s

/-- A step of the lexer goes forward in the text, and its faults stand in what is left of it. -/
abbrev Steps (s : Lexing) (step : Result) : Prop :=
  Reads s.cursor.rest (fun s => s.cursor.rest) step

theorem Steps.bind {s : Lexing} {step : Result} {f : Lexing → Result} (h : Steps s step)
    (hf : ∀ s, Steps s (f s)) : Steps s (step >>= f) :=
  Ends.bind h fun s' hs' => Reads.after hs' (hf s')

theorem Steps.at {s s' : Lexing} {step : Result} (hplace : s'.cursor = s.cursor)
    (h : Steps s' step) : Steps s step := by
  rw [Steps, ← hplace]
  exact h

theorem Steps.stay {s s' : Lexing} (hplace : s'.cursor = s.cursor) : Steps s (.ok s') :=
  .at hplace List.suffix_rfl

theorem dropCandidate_steps (s : Lexing) : Steps s s.dropCandidate := by
  unfold dropCandidate
  split
  · split
    · trivial
    · exact .stay rfl
  · exact .stay rfl

theorem dropStale_steps (s : Lexing) : Steps s s.dropStale := by
  unfold dropStale
  split
  · trivial
  · exact .stay rfl

theorem saveCandidate_steps (s : Lexing) : Steps s s.saveCandidate := by
  unfold saveCandidate
  dsimp only
  split
  · exact .stay rfl
  · exact (dropCandidate_steps s).bind fun _ => .stay rfl

theorem openBlock_steps (token : Token) (s : Lexing) : Steps s (s.openBlock token) := by
  unfold openBlock
  split
  · exact .stay rfl
  · split
    · trivial
    · refine .stay ?_
      split
      · exact deepen_cursor _ s
      · exact deepen_cursor _ s

theorem Steps.skip (n : Nat) {s s' : Lexing} (hplace : s'.cursor = s.cursor.skip n) :
    Steps s (.ok s') := by
  show s'.cursor.rest <:+ s.cursor.rest
  rw [hplace]
  exact skip_suffix n s.cursor

theorem toNextToken_suffix (bound : Nat) (s : Lexing) :
    (s.toNextToken bound).cursor.rest <:+ s.cursor.rest := by
  induction bound generalizing s with
  | zero => exact List.suffix_rfl
  | succ bound ih =>
    have hcomment := skipComment_suffix s.cursor
    unfold toNextToken
    dsimp only
    split
    · split
      · exact (ih _).trans ((step_suffix _).trans hcomment)
      · exact hcomment
    · exact hcomment

theorem separator_steps (token : Token) (s : Lexing) : Steps s (s.separator token) :=
  .at (unwindTo_cursor none s) ((dropCandidate_steps _).bind fun _ => .skip 3 rfl)

/-! Directives. -/

theorem directiveNumber_reads (cursor : Cursor) :
    Reads cursor.rest (fun found => found.2.rest) (directiveNumber cursor) := by
  unfold directiveNumber
  dsimp only
  split
  · exact skip_suffix _ cursor
  · trivial
  · next count hread =>
    obtain ⟨hdigits, hlen, hlong⟩ := Text.readNat_tooLong_iff.mp hread
    exact ⟨hlong, _, (List.takeWhile_prefix _).isInfix, hlen, hdigits⟩

theorem versionNumber_reads (cursor : Cursor) :
    Reads cursor.rest (fun found => found.2.rest) (versionNumber cursor) := by
  refine (directiveNumber_reads cursor).bind fun major hmajor => Reads.after hmajor ?_
  obtain ⟨major, after⟩ := major
  dsimp only
  split
  · trivial
  · refine Reads.after (step_suffix after) ?_
    refine (directiveNumber_reads _).bind fun minor hminor => Reads.after hminor ?_
    obtain ⟨minor, last⟩ := minor
    dsimp only
    split
    · trivial
    · exact List.suffix_rfl

/-- Escapes that spell no bytes are malformed, whatever text they stand in. -/
theorem escapedBytes_reads (bound : Nat) (escapes : List Char) :
    Reads s (fun _ => []) (escapedBytes bound escapes) := by
  induction bound generalizing escapes with
  | zero => exact List.nil_suffix
  | succ bound ih =>
    unfold escapedBytes
    split
    · split
      · exact (ih _).bind fun _ _ => List.nil_suffix
      · trivial
    · trivial
    · exact List.nil_suffix

theorem tagName_reads (bound : Nat) (cursor : Cursor) :
    Reads cursor.rest (fun found => found.2.rest) (tagName bound cursor) := by
  induction bound generalizing cursor with
  | zero => exact List.suffix_rfl
  | succ bound ih =>
    unfold tagName
    split
    · exact List.suffix_rfl
    · split
      · refine Ends.bind (escapedBytes_reads _ _) fun bytes _ => ?_
        split
        · trivial
        · exact Reads.after (skip_suffix _ cursor) ((ih _).bind fun _ h => h)
      · split
        · exact Reads.after (step_suffix cursor) ((ih _).bind fun _ h => h)
        · exact List.suffix_rfl

theorem fullTagName_reads (cursor : Cursor) :
    Reads cursor.rest (fun found => found.2.rest) (fullTagName cursor) := by
  unfold fullTagName
  split
  · exact tagName_reads _ cursor
  · trivial

theorem tagHandle_reads (cursor : Cursor) :
    Reads cursor.rest (fun found => found.2.rest) (tagHandle cursor) := by
  unfold tagHandle
  split
  · exact step_suffix cursor
  · dsimp only
    split
    · exact (step_suffix _).trans ((skip_suffix _ _).trans (step_suffix cursor))
    · trivial
  · trivial

theorem handleMeaning_reads (cursor : Cursor) :
    Reads cursor.rest (fun found => found.2.2.rest) (handleMeaning cursor) := by
  refine Reads.after (skipWhile_suffix (· == ' ') cursor) ?_
  refine (tagHandle_reads _).bind fun handle hhandle => Reads.after hhandle ?_
  obtain ⟨handle, after⟩ := handle
  dsimp only
  split
  · trivial
  · refine Reads.after (skipWhile_suffix (· == ' ') after) ?_
    refine (fullTagName_reads _).bind fun start hstart => Reads.after hstart ?_
    obtain ⟨start, last⟩ := start
    dsimp only
    split
    · trivial
    · exact List.suffix_rfl

theorem restOfLine_reads (cursor : Cursor) :
    Reads cursor.rest (fun after => after.rest) (restOfLine cursor) := by
  unfold restOfLine
  dsimp only
  split
  · exact (step_suffix _).trans (skipComment_suffix cursor)
  · trivial

theorem directive_steps (s : Lexing) : Steps s s.directive := by
  refine .at (unwindTo_cursor none s) ((dropCandidate_steps _).bind fun s => ?_)
  refine Reads.after (skip_suffix 1 s.cursor) ?_
  dsimp only
  split
  · trivial
  · have hname := skip_suffix (takeWhile isNameChar (s.cursor.skip 1)).length (s.cursor.skip 1)
    split
    · refine Reads.after ((skipWhile_suffix (· == ' ') _).trans hname) ?_
      refine (versionNumber_reads _).bind fun version hversion => Reads.after hversion ?_
      exact (restOfLine_reads _).bind fun _ h => h
    · split
      · refine Reads.after hname ((handleMeaning_reads _).bind fun meaning hmeaning => ?_)
        exact Reads.after hmeaning ((restOfLine_reads _).bind fun _ h => h)
      · refine Reads.after ((skipWhile_suffix (fun c => !isBreak c) _).trans hname) ?_
        exact (restOfLine_reads _).bind fun _ h => h

/-! Collections. -/

theorem flowStart_steps (token : Token) (s : Lexing) : Steps s (s.flowStart token) :=
  (saveCandidate_steps s).bind fun _ => .skip 1 rfl

theorem flowEnd_steps (token : Token) (s : Lexing) : Steps s (s.flowEnd token) := by
  unfold flowEnd
  dsimp only
  split
  · trivial
  · exact (dropCandidate_steps s).bind fun _ => .skip 1 rfl

theorem marked_steps (allowed : Bool) (token : Token) (s : Lexing) :
    Steps s ((s.allowKey allowed).dropCandidate >>= fun s => .ok (s.mark token)) :=
  .at rfl ((dropCandidate_steps (s.allowKey allowed)).bind fun _ => .skip 1 rfl)

theorem flowEntry_steps (s : Lexing) : Steps s s.flowEntry := marked_steps true .flowEntry s

theorem blockEntry_steps (s : Lexing) : Steps s s.blockEntry :=
  (openBlock_steps _ s).bind fun s => marked_steps true .blockEntry s

theorem explicitKey_steps (s : Lexing) : Steps s s.explicitKey :=
  (openBlock_steps _ s).bind fun s => marked_steps (!s.inFlow) .key s

theorem colon_steps (s : Lexing) : Steps s s.colon := by
  unfold colon
  split
  · next candidate outer _ =>
    dsimp only
    split
    · exact .skip 1 rfl
    · exact .skip 1 (congrArg (Cursor.skip 1) (deepen_cursor candidate.column _))
  · exact (openBlock_steps _ s).bind fun s => marked_steps (!s.inFlow) .value s

/-! Names and scalars. -/

theorem named_steps (token : String → Token) (s : Lexing) : Steps s (s.named token) := by
  refine (saveCandidate_steps s).bind fun s => ?_
  dsimp only
  split
  · trivial
  · exact (skip_suffix _ _).trans (step_suffix s.cursor)

theorem writtenTag_reads (start : Cursor) :
    Reads start.rest (fun found => found.2.2.rest) (writtenTag start) := by
  unfold writtenTag
  have hmark := step_suffix start
  dsimp only
  split
  · refine Ends.bind (Reads.after ((step_suffix _).trans hmark) (fullTagName_reads _))
      fun name hname => ?_
    split
    · trivial
    · exact (step_suffix _).trans hname
  · split
    · exact hmark
    · split
      · refine (tagHandle_reads start).bind fun handle hhandle => ?_
        exact Ends.bind (Reads.after hhandle (fullTagName_reads _)) fun name hname => hname
      · have hbare : Reads start.rest (fun found => found.2.rest) (pure (['!'], start.step)) := hmark
        refine hbare.bind fun handle hhandle => ?_
        exact Ends.bind (Reads.after hhandle (fullTagName_reads _)) fun name hname => hname

theorem tag_steps (s : Lexing) : Steps s s.tag := by
  refine (saveCandidate_steps s).bind fun s => (writtenTag_reads s.cursor).bind fun found hfound => ?_
  dsimp only
  split
  · trivial
  · exact hfound

theorem block_steps (folded : Bool) (s : Lexing) : Steps s (s.block folded) := by
  refine .at rfl ((dropCandidate_steps (s.allowKey true)).bind fun s => ?_)
  exact Reads.after (step_suffix s.cursor) ((blockScalar_reads _ _ _).bind fun _ h => h)

theorem quoted_steps (quote : Char) (s : Lexing) : Steps s (s.quoted quote) := by
  refine (saveCandidate_steps s).bind fun s => ?_
  exact Reads.after (step_suffix s.cursor) ((quotedScalar_reads _ _ _).bind fun _ h => h)

theorem plain_steps (s : Lexing) : Steps s s.plain :=
  (saveCandidate_steps s).bind fun s =>
    plainScalar_suffix s.inFlow (s.indent + 1) (s.cursor.rest.length + 1) s.cursor

theorem Steps.ite {s : Lexing} {p : Prop} [Decidable p] {x y : Result} (hx : Steps s x)
    (hy : Steps s y) : Steps s (if p then x else y) := by
  split
  · exact hx
  · exact hy

theorem token_steps (c : Char) (rest : List Char) (s : Lexing) : Steps s (s.token c rest) := by
  unfold token
  refine .ite (directive_steps s) <| .ite (separator_steps _ s) <| .ite (flowStart_steps _ s) <|
    .ite (flowStart_steps _ s) <| .ite (flowEnd_steps _ s) <| .ite (flowEnd_steps _ s) <|
    .ite (flowEntry_steps s) <| .ite (blockEntry_steps s) <| .ite (explicitKey_steps s) <|
    .ite (colon_steps s) <| .ite (named_steps _ s) <| .ite (named_steps _ s) <| .ite (tag_steps s) <|
    .ite (block_steps _ s) <| .ite (block_steps _ s) <| .ite (quoted_steps c s) <|
    .ite (plain_steps s) ?_
  trivial

theorem fetch_steps (s : Lexing) : Reads s.cursor.rest (fun found => found.2.cursor.rest) s.fetch := by
  have hnext : Steps s (s.toNextToken (s.cursor.rest.length + 1)).dropStale :=
    Reads.after (toNextToken_suffix _ s) (dropStale_steps _)
  refine Ends.bind hnext fun s hs => Reads.after hs ?_
  split
  · have hlast : Steps s (s.unwindTo none).dropCandidate :=
      .at (unwindTo_cursor none s) (dropCandidate_steps _)
    exact Ends.bind hlast fun _ h => h
  · next c rest _ =>
    have htoken : Steps s ((s.unwindTo (some s.cursor.column)).token c rest) :=
      .at (unwindTo_cursor _ s) (token_steps c rest _)
    exact Ends.bind htoken fun _ h => h

/-- The fault at the end of the tokens stands in the text that was left. -/
theorem run_fault (bound : Nat) (s : Lexing) {fault : Fault} (h : (s.run bound).fault = some fault) :
    fault.StandsIn s.cursor.rest := by
  induction bound generalizing s with
  | zero => cases h; trivial
  | succ bound ih =>
    have hstep := fetch_steps s
    unfold run at h
    split at h
    · next other hfault =>
      cases h
      rw [hfault] at hstep
      exact hstep
    · next next hnext =>
      rw [hnext] at hstep
      exact Fault.StandsIn.of_suffix hstep (ih next h)
    · cases h

end Lexing

theorem tokens_fault {text : List Char} {fault : Fault} (h : (tokens text).fault = some fault) :
    fault.StandsIn text := by
  unfold tokens at h
  split at h
  · cases h; trivial
  · dsimp only at h
    split at h
    · next rest _ => exact Fault.StandsIn.of_suffix (List.suffix_cons _ rest) (Lexing.run_fault _ _ h)
    · exact Lexing.run_fault _ _ h

end TopicPlan.Yaml
