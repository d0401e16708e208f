import TopicPlan.Proofs.Results
import TopicPlan.Suite.Expansion

/-! Files in JSON. Where a text is of printable ASCII, neither its encoding nor its line ends come
between a file and its document, so the tests of the file are those of the document. -/
namespace TopicPlan

/-- Whether a character is encoded by one byte and ends no line. -/
def isPlain (c : Char) : Bool := 0x20 ≤ c.toNat && c.toNat < 0x80

theorem isPlain_iff {c : Char} : isPlain c = true ↔ 0x20 ≤ c.toNat ∧ c.toNat < 0x80 := by
  simp [isPlain]

namespace Text

theorem decodeFrom_plain {cs : List Char} (h : ∀ c ∈ cs, isPlain c = true) (position : Nat) :
    decodeFrom position (cs.map fun c => UInt8.ofNat c.toNat) = .ok cs := by
  induction cs generalizing position with
  | nil => rw [List.map_nil, decodeFrom]
  | cons c cs ih =>
    obtain ⟨hc, hcs⟩ := List.forall_mem_cons.mp h
    have hbyte : (UInt8.ofNat c.toNat).toNat = c.toNat := by
      have hbound := (isPlain_iff.mp hc).2
      rw [UInt8.toNat_ofNat']
      omega
    have hfirst : firstChar (UInt8.ofNat c.toNat) (cs.map fun c => UInt8.ofNat c.toNat) =
        .ok (c, 1) := by
      rw [firstChar, hbyte, if_pos (isPlain_iff.mp hc).2, Char.ofNat_toNat]
    rw [List.map_cons, decodeFrom, hfirst]
    simp only [Nat.sub_self, List.drop_zero, ih hcs, Except.map]

theorem unifyLines_plain {cs : List Char} (h : ∀ c ∈ cs, isPlain c = true) : unifyLines cs = cs := by
  induction cs with
  | nil => rfl
  | cons c cs ih =>
    obtain ⟨hc, hcs⟩ := List.forall_mem_cons.mp h
    have hreturn : c ≠ '\r' := by
      rintro rfl
      exact absurd hc (by decide)
    rw [unifyLines, ih hcs]
    · rintro rest ⟨⟩
      exact absurd rfl hreturn
    · exact hreturn

end Text

namespace Json

theorem no_mark_of_plain {cs : List Char} (hplain : ∀ c ∈ cs, isPlain c = true) :
    (cs.head?.any (·.toNat == 0xFEFF)) = false := by
  cases cs with
  | nil => rfl
  | cons c cs =>
    have hc := (isPlain_iff.mp (List.forall_mem_cons.mp hplain).1).2
    simp only [List.head?_cons, Option.any_some, beq_eq_false_iff_ne]
    omega

theorem read_ofList {cs : List Char} {document : Json} (hplain : ∀ c ∈ cs, isPlain c = true)
    (h : valueAt depthLimit (2 * cs.length + 2) (skipSpace cs) = .ok (document, [])) :
    Json.read (String.ofList cs) = .ok document := by
  unfold Json.read
  simp only [String.toList_ofList, no_mark_of_plain hplain, h]
  rfl

theorem read_of_tooLong {cs : List Char} {count : Nat} (hplain : ∀ c ∈ cs, isPlain c = true)
    (h : valueAt depthLimit (2 * cs.length + 2) (skipSpace cs) = .error (.numeralTooLong count)) :
    Json.read (String.ofList cs) = .error (.numeralTooLong count) := by
  unfold Json.read
  simp only [String.toList_ofList, no_mark_of_plain hplain, h]
  rfl

end Json

namespace Suite
open Data

def Definition.planned (path : String) (definition : Definition) :
    Except PlanError (List PlannedTest) := do
  let tests ← definition.tests.mapM fun test => (test.planAll path).result
  return tests.flatten

theorem File.plan_result (file : File) :
    file.plan.result = file.read.mapError (.file file.path) >>= Definition.planned file.path := by
  rw [plan]
  simp only [Noted.result_bind, Noted.result_ofExcept, Noted.result_pure, Noted.result_mapM]
  rfl

def plainFile (path text : String) : File :=
  ⟨path, some (text.toList.map fun c => UInt8.ofNat c.toNat)⟩

def testsIn? (path : String) (cs : List Char) : Option (List PlannedTest) :=
  match Json.valueAt Json.depthLimit (2 * cs.length + 2) (Json.skipSpace cs) with
  | .ok (document, []) => (File.define (.ofJson document)).toOption.bind fun definition =>
    (definition.planned path).toOption
  | _ => none

/-- The tests of a file in JSON are those of the document of its text. -/
theorem plan_plainFile {path : String} {cs : List Char} {tests : List PlannedTest}
    (hkind : Text.lower (ending (fileName path)) = ".json") (hplain : ∀ c ∈ cs, isPlain c = true)
    (h : testsIn? path cs = some tests) :
    (plainFile path (String.ofList cs)).plan.result = .ok tests := by
  unfold testsIn? at h
  split at h
  · next document hvalue =>
    obtain ⟨definition, hdefine, hplanned⟩ := Option.bind_eq_some_iff.mp h
    rw [toOption_eq_some] at hdefine hplanned
    have hbytes : (plainFile path (String.ofList cs)).bytes =
        some (cs.map fun c => UInt8.ofNat c.toNat) := by rw [plainFile, String.toList_ofList]
    have hdecode : Text.decodeUtf8 (cs.map fun c => UInt8.ofNat c.toNat) = .ok cs :=
      Text.decodeFrom_plain hplain 0
    have hparse : (plainFile path (String.ofList cs)).parse cs = .ok (.ofJson document) := by
      rw [File.parse, File.kind, plainFile, hkind, if_neg (by decide), if_pos rfl,
        Json.read_ofList hplain hvalue]
    have hread : (plainFile path (String.ofList cs)).read = .ok definition := by
      rw [File.read, hbytes]
      simp only [hdecode, Text.unifyLines_plain hplain, hparse]
      exact hdefine
    rw [File.plan_result, hread]
    exact hplanned
  · cases h

/-- What is said of the tests of a file in JSON whose text is written in three parts. -/
theorem plan_plainFile_parts {α : Type} {path : String} {first second third : List Char}
    {f : List PlannedTest → α} {a : α} (hkind : Text.lower (ending (fileName path)) = ".json")
    (hplain : (first ++ second ++ third).all isPlain = true)
    (h : (testsIn? path (first ++ second ++ third)).map f = some a) :
    ∃ tests, (plainFile path (String.ofList first ++ String.ofList second ++
      String.ofList third)).plan.result = .ok tests ∧ f tests = a := by
  obtain ⟨tests, htests, hf⟩ := Option.map_eq_some_iff.mp h
  rw [← String.ofList_append, ← String.ofList_append]
  exact ⟨tests, plan_plainFile hkind (List.all_eq_true.mp hplain) htests, hf⟩

end Suite
end TopicPlan
