import TopicPlan.Proofs.Encoding
import TopicPlan.Proofs.GraphFaults
import TopicPlan.Proofs.JsonFiles
import TopicPlan.Proofs.JsonLimits
import TopicPlan.Proofs.NodeFaults
import TopicPlan.Suite.File

/-! Test files that cannot be read. Most of them are told from the others by an error that test
files are expected to have. The rest are those whose bytes are no text, whose document goes beyond a
limit of its notation, whose scalars are none of their types, and whose tests stand under keys that
are no texts. -/
namespace TopicPlan.Suite
open Data

namespace File

abbrev IsYaml (file : File) : Prop := file.kind = ".yml" ∨ file.kind = ".yaml"

/-- The file holds the encoding of a text, whose lines end in one character each. -/
def Holds (file : File) (text : List Char) : Prop :=
  ∃ content, file.bytes = some (Text.utf8Bytes content) ∧ Text.unifyLines content = text

/-- The file's text in YAML, where no character stands for half of another. -/
def held (text : List Char) : List Char := text.flatMap Text.hold

def FailsUnexpectedly (file : File) : Prop :=
  ∃ error, file.read = .error error ∧ error.isExpected = false

instance (file : File) : Decidable file.FailsUnexpectedly :=
  match h : file.read with
  | .ok _ => isFalse fun ⟨_, herror, _⟩ => by
    rw [h] at herror
    cases herror
  | .error error => decidable_of_iff (error.isExpected = false)
    ⟨fun hunexpected => ⟨error, h, hunexpected⟩, fun ⟨_, herror, hunexpected⟩ => by
      rw [h] at herror
      cases herror
      exact hunexpected⟩

/-- A stage of reading that a file does not pass, and that nobody expects to fail. -/
inductive Surprise (file : File) : Prop where
  | encoding {bytes : List UInt8} (hbytes : file.bytes = some bytes)
      (h : ∀ content, bytes ≠ Text.utf8Bytes content)
  | json {text : List Char} {error : Json.ReadError} (htext : file.Holds text)
      (hkind : file.kind = ".json") (h : Json.read (String.ofList text) = .error error)
      (hlimit : (FileError.json error).isExpected = false)
  | yaml {text : List Char} {fault : Yaml.Fault} (htext : file.Holds text) (hkind : file.IsYaml)
      (h : Yaml.read (held text) = .error fault) (hfault : fault ≠ .malformed)
  | key {text : List Char} {entries : List (Scalar × Value)} {entry : Scalar × Value}
      (htext : file.Holds text) (hkind : file.IsYaml) (h : Yaml.read (held text) = .ok (.map entries))
      (hentry : entry ∈ entries) (hkey : ∀ name, entry.1 ≠ .text name)

/-- What is to blame in a file's text if its reading fails and nobody expects it. -/
inductive Cause (file : File) (text : List Char) : Prop where
  /-- A numeral in JSON has too many digits. -/
  | numeral {count : Nat} (hkind : file.kind = ".json") (h : Text.HasOverlong count text)
  /-- More collections begin in JSON than may be inside each other. -/
  | depth (hkind : file.kind = ".json") (h : Json.depthLimit < text.countP Json.isOpening)
  /-- An escape in YAML has a code that no character has. -/
  | escape (hkind : file.IsYaml) (h : Yaml.HasEscape 0x110000 (held text))
  /-- The version of YAML has too many digits. -/
  | version {count : Nat} (hkind : file.IsYaml) (h : Text.HasOverlong count (held text))
  /-- A node in YAML has not the form of its type. -/
  | node {graph : Yaml.Graph} {fault : Yaml.Fault} (hkind : file.IsYaml)
      (hgraph : Yaml.Graph.ofText (held text) = .ok (some graph)) (h : graph.Faulty fault)
      (hfault : fault ≠ .malformed)
  /-- A key of the whole file in YAML is no text. -/
  | key {entries : List (Scalar × Value)} {entry : Scalar × Value} (hkind : file.IsYaml)
      (h : Yaml.read (held text) = .ok (.map entries)) (hentry : entry ∈ entries)
      (hkey : ∀ name, entry.1 ≠ .text name)

/-! Stages. -/

theorem Holds.unique {file : File} {text other : List Char} (h : file.Holds text)
    (hother : file.Holds other) : text = other := by
  obtain ⟨content, hbytes, rfl⟩ := h
  obtain ⟨content', hbytes', rfl⟩ := hother
  have hdecoded := Text.decodeUtf8_eq_ok_iff.mpr (Option.some.inj (hbytes.symm.trans hbytes'))
  rw [Text.decodeUtf8_eq_ok_iff.mpr rfl] at hdecoded
  rw [Except.ok.inj hdecoded]

theorem read_of_holds {file : File} {text : List Char} (h : file.Holds text) :
    file.read = file.parse text >>= define := by
  obtain ⟨content, hbytes, rfl⟩ := h
  rw [read, hbytes]
  simp only [Text.decodeUtf8_eq_ok_iff.mpr rfl]

theorem read_of_no_text {file : File} {bytes : List UInt8} (hbytes : file.bytes = some bytes)
    (h : ∀ content, bytes ≠ Text.utf8Bytes content) :
    ∃ error, file.read = .error (.undecodable error) := by
  rw [read, hbytes]
  cases hdecoded : Text.decodeUtf8 bytes with
  | ok content => exact absurd (Text.decodeUtf8_eq_ok_iff.mp hdecoded) (h content)
  | error error => exact ⟨error, by simp only [hdecoded]⟩

theorem isText_eq_false_iff {entry : Scalar × Value} :
    isText entry = false ↔ ∀ name, entry.1 ≠ .text name := by
  obtain ⟨key, value⟩ := entry
  cases key with
  | text name => simp [isText]
  | _ => simp [isText]

/-- A key that is no text is found before anything else is checked. -/
theorem define_of_key {entries : List (Scalar × Value)} {entry : Scalar × Value}
    (hentry : entry ∈ entries) (hkey : ∀ name, entry.1 ≠ .text name) :
    define (.map entries) = .error .keyNotText := by
  have hall : entries.all isText = false :=
    List.all_eq_false.mpr ⟨entry, hentry, by simp [isText_eq_false_iff.mpr hkey]⟩
  rw [define, hall]
  rfl

/-- Nothing else is unexpected when tests are defined. -/
theorem key_of_define {value : Value} {error : FileError} (h : define value = .error error)
    (hunexpected : error.isExpected = false) :
    ∃ entries entry, value = .map entries ∧ entry ∈ entries ∧ isText entry = false := by
  cases value with
  | map entries =>
    rw [define] at h
    split at h
    · next hall =>
      rw [Bool.not_eq_true', List.all_eq_false] at hall
      obtain ⟨entry, hentry, hkey⟩ := hall
      exact ⟨entries, entry, rfl, hentry, Bool.eq_false_iff.mpr hkey⟩
    · split at h
      · cases h
      · cases h
        cases hunexpected
  | _ =>
    cases h
    cases hunexpected

theorem isText_ofJsonMembers (members : List (String × Json)) :
    ∀ entry ∈ Value.ofJsonMembers members, isText entry = true := by
  induction members with
  | nil => simp [Value.ofJsonMembers]
  | cons member members ih =>
    rw [Value.ofJsonMembers]
    exact List.forall_mem_cons.mpr ⟨rfl, ih⟩

theorem isText_ofJson {document : Json} {entries : List (Scalar × Value)}
    (h : Value.ofJson document = .map entries) : ∀ entry ∈ entries, isText entry = true := by
  cases document with
  | object members =>
    obtain rfl : Value.ofJsonMembers members = entries := by
      rw [Value.ofJson] at h
      exact Value.map.inj h
    exact isText_ofJsonMembers members
  | _ =>
    rw [Value.ofJson] at h
    cases h

theorem kind_ne_of_isYaml {file : File} (h : file.IsYaml) : file.kind ≠ ".json" := by
  rcases h with h | h <;> rw [h] <;> decide

theorem parse_yaml {file : File} (hkind : file.IsYaml) (text : List Char) :
    file.parse text =
      match Yaml.read (held text) with
      | .ok value => .ok (if value.isVoid then .map [] else value)
      | .error fault => .error (.yaml fault) := by
  unfold parse
  exact if_pos hkind

theorem parse_json {file : File} (hkind : file.kind = ".json") (text : List Char) :
    file.parse text =
      match Json.read (String.ofList text) with
      | .ok document => .ok (Value.ofJson document)
      | .error error => .error (.json error) := by
  unfold parse
  exact (if_neg fun h => kind_ne_of_isYaml h hkind).trans (if_pos hkind)

theorem parse_other {file : File} (hyaml : ¬file.IsYaml) (hjson : file.kind ≠ ".json")
    (text : List Char) : file.parse text = .error (.unsupported file.kind) := by
  rw [parse, if_neg hyaml, if_neg hjson]

theorem Surprise.fails {file : File} (h : file.Surprise) : file.FailsUnexpectedly := by
  cases h with
  | encoding hbytes h =>
    obtain ⟨error, hread⟩ := read_of_no_text hbytes h
    exact ⟨_, hread, rfl⟩
  | json htext hkind h hlimit =>
    refine ⟨_, ?_, hlimit⟩
    rw [read_of_holds htext, parse_json hkind, h]
    rfl
  | yaml htext hkind h hfault =>
    rename_i text fault
    refine ⟨.yaml fault, ?_, ?_⟩
    · rw [read_of_holds htext, parse_yaml hkind, h]
      rfl
    · cases fault with
      | malformed => exact absurd rfl hfault
      | _ => rfl
  | key htext hkind h hentry hkey =>
    rename_i text entries entry
    refine ⟨.keyNotText, ?_, rfl⟩
    have hvoid : (Value.map entries).isVoid = false := by
      cases entries with
      | nil => cases hentry
      | cons => rfl
    rw [read_of_holds htext, parse_yaml hkind, h]
    simp only [hvoid]
    exact define_of_key hentry hkey

theorem surprise_of_yaml {file : File} {text : List Char} {error : FileError}
    (htext : file.Holds text) (hkind : file.IsYaml)
    (h : file.parse text >>= define = .error error) (hunexpected : error.isExpected = false) :
    file.Surprise := by
  rw [parse_yaml hkind] at h
  cases hread : Yaml.read (held text) with
  | error fault =>
    rw [hread] at h
    cases h
    refine .yaml htext hkind hread ?_
    rintro rfl
    cases hunexpected
  | ok value =>
    rw [hread] at h
    obtain ⟨entries, entry, hvalue, hentry, hkey⟩ := key_of_define h hunexpected
    cases hvoid : value.isVoid with
    | true =>
      rw [hvoid, if_pos rfl] at hvalue
      obtain rfl := Value.map.inj hvalue
      cases hentry
    | false =>
      rw [hvoid, if_neg Bool.false_ne_true] at hvalue
      exact .key htext hkind (hvalue ▸ hread) hentry (isText_eq_false_iff.mp hkey)

theorem surprise_of_json {file : File} {text : List Char} {error : FileError}
    (htext : file.Holds text) (hkind : file.kind = ".json")
    (h : file.parse text >>= define = .error error) (hunexpected : error.isExpected = false) :
    file.Surprise := by
  rw [parse_json hkind] at h
  cases hread : Json.read (String.ofList text) with
  | error error =>
    rw [hread] at h
    cases h
    exact .json htext hkind hread hunexpected
  | ok document =>
    rw [hread] at h
    obtain ⟨entries, entry, hvalue, hentry, hkey⟩ := key_of_define h hunexpected
    exact absurd (isText_ofJson hvalue entry hentry) (by simp [hkey])

theorem surprise_of_fails {file : File} {error : FileError} (h : file.read = .error error)
    (hunexpected : error.isExpected = false) : file.Surprise := by
  cases hbytes : file.bytes with
  | none =>
    rw [read, hbytes] at h
    cases h
    cases hunexpected
  | some bytes =>
    cases hdecoded : Text.decodeUtf8 bytes with
    | error error =>
      refine .encoding hbytes fun content hcontent => ?_
      rw [Text.decodeUtf8_eq_ok_iff.mpr hcontent] at hdecoded
      cases hdecoded
    | ok content =>
      have htext : file.Holds (Text.unifyLines content) :=
        ⟨content, Text.decodeUtf8_eq_ok_iff.mp hdecoded ▸ hbytes, rfl⟩
      rw [read_of_holds htext] at h
      by_cases hyaml : file.IsYaml
      · exact surprise_of_yaml htext hyaml h hunexpected
      · by_cases hjson : file.kind = ".json"
        · exact surprise_of_json htext hjson h hunexpected
        · rw [parse_other hyaml hjson] at h
          cases h
          cases hunexpected

/-! Causes. -/

/-- A YAML text that is not only malformed has an escape, a version, or a node to blame. -/
theorem cause_of_yaml {file : File} {text : List Char} {fault : Yaml.Fault} (hkind : file.IsYaml)
    (h : Yaml.read (held text) = .error fault) (hfault : fault ≠ .malformed) : file.Cause text := by
  unfold Yaml.read at h
  rcases bind_eq_error.mp h with hgraph | ⟨graph?, hgraph, hobjects⟩
  · have hstands := Yaml.Graph.standsIn_of_ofText hgraph
    cases fault with
    | malformed => exact absurd rfl hfault
    | codeOutOfRange => exact .escape hkind hstands
    | codeTooLarge => exact .escape hkind (hstands.mono (by decide))
    | numeralTooLong count => exact .version hkind hstands
    | _ => exact hstands.elim
  · cases graph? with
    | none => cases hobjects
    | some graph =>
      rcases bind_eq_error.mp hobjects with hobjects | ⟨objects, -, hvalue⟩
      · exact .node hkind hgraph (Yaml.Object.faulty_of_ofGraph hobjects) hfault
      · cases hvalue

theorem cause_of_json {file : File} {text : List Char} {error : Json.ReadError}
    (hkind : file.kind = ".json") (h : Json.read (String.ofList text) = .error error)
    (hlimit : (FileError.json error).isExpected = false) : file.Cause text := by
  have haccounts := Json.read_error_accounts h
  rw [String.toList_ofList] at haccounts
  cases error with
  | malformed => cases hlimit
  | numeralTooLong count => exact .numeral hkind haccounts
  | tooDeep collection => exact .depth hkind haccounts

def ofText (path : String) (text : List Char) : File := ⟨path, some (Text.utf8Bytes text)⟩

theorem ofText_holds (path : String) {text : List Char} (h : text.all isPlain = true) :
    (ofText path text).Holds text :=
  ⟨text, rfl, Text.unifyLines_plain (List.all_eq_true.mp h)⟩

/-- A numeral in JSON may have too many digits. -/
theorem overlong_surprise : (ofText "f.json" (List.replicate 4301 '1')).Surprise := by
  have hplain : ∀ c ∈ List.replicate 4301 '1', isPlain c = true := by
    intro c hc
    rw [List.eq_of_mem_replicate hc]
    rfl
  have hvalue : (match Json.valueAt Json.depthLimit 8604
        (Json.skipSpace (List.replicate 4301 '1')) with
      | .error (.numeralTooLong _) => true
      | _ => false) = true := by decide +kernel
  split at hvalue
  · next count h =>
    have hread : Json.read (String.ofList (List.replicate 4301 '1')) =
        .error (.numeralTooLong count) := by
      refine Json.read_of_tooLong hplain ?_
      rw [List.length_replicate]
      exact h
    exact .json (ofText_holds _ (List.all_eq_true.mpr hplain)) (by decide +kernel) hread rfl
  · cases hvalue

end File

end TopicPlan.Suite
