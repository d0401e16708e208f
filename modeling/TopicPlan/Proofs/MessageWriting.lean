import TopicPlan.Proofs.Results
import TopicPlan.Schema.Protobuf
import Mathlib.Data.String.Basic

/-! Steps of the writer of Protobuf messages. Each is told by the state that it starts from: what it
writes, in which state it leaves the writer, and where it fails. -/
namespace TopicPlan.Schema.ProtobufWriter
open Sql (BaseType DataType Fields)

variable {indent number : Nat} {nested : List String} {w : ProtobufWriter}

theorem message_eq (body : Writing (List String × List String)) :
    message indent body w = body w.opening >>= fun found =>
      pure (firstLine indent (w.opened + 1) :: found.1.1 ++
        (if found.1.2.isEmpty then [] else "" :: found.1.2) ++ [s!"{padding indent}\x7d"], found.2) :=
  rfl

theorem fieldType_base (b : BaseType) :
    fieldType indent nested (.base b) w =
      .ok ((baseName b, nested), w.importing (baseName b)) :=
  rfl

theorem fieldType_decimal (precision scale : Int) :
    fieldType indent nested (.decimal precision scale) w =
      .ok ((decimalName, nested), w.importing decimalName) :=
  rfl

theorem fieldType_array (item : DataType) :
    fieldType indent nested (.array item) w =
      if isCollection item then .error (.nestedCollection (.array item))
      else fieldType indent nested item w >>= fun found =>
        pure ((s!"repeated {found.1.1}", found.1.2), found.2) := by
  rw [fieldType]
  cases isCollection item <;> rfl

theorem fieldType_map (key value : DataType) :
    fieldType indent nested (.map key value) w =
      fieldType indent nested key w >>= fun found =>
        if !mapKeys.contains found.1.1 then .error (.mapKeyUnsupported key)
        else if isCollection value then .error (.nestedCollection (.map key value))
        else fieldType indent found.1.2 value found.2 >>= fun more =>
          pure ((s!"map<{found.1.1}, {more.1.1}>", more.1.2), more.2) := by
  rw [fieldType]
  refine congrArg (fieldType indent nested key w >>= ·) (funext fun found => ?_)
  obtain ⟨⟨text, nested⟩, after⟩ := found
  cases hkey : mapKeys.contains text <;> cases isCollection value <;> simp only [hkey] <;> rfl

theorem fieldType_struct (fields : Fields) :
    fieldType indent nested (.struct fields) w =
      message indent (fieldLines indent 1 [] fields) w >>= fun found =>
        pure ((messageName found.1, nested ++ found.1), found.2) :=
  rfl

theorem fieldType_reference (name : String) :
    fieldType indent nested (.reference name) w = .error (.unresolved .protobuf (.reference name)) :=
  rfl

theorem fieldLines_cons (name : String) (type : DataType) (rest : Fields) :
    fieldLines indent number nested ((name, type) :: rest) w =
      fieldType (indent + 1) nested type w >>= fun found =>
        fieldLines indent (number + 1) found.1.2 rest found.2 >>= fun more =>
          pure ((s!"{padding indent}  {found.1.1} {name} = {number};" :: more.1.1, more.1.2), more.2) :=
  rfl

/-! Names of messages. -/

theorem toList_padding (indent : Nat) :
    (padding indent).toList = List.replicate (2 * indent) ' ' := by
  induction indent with
  | zero => rfl
  | succ indent ih =>
    have hstep : padding (indent + 1) = "  " ++ padding indent := by
      simp [padding, List.replicate_succ]
    rw [hstep, String.toList_append, ih, Nat.mul_succ, Nat.add_comm, List.replicate_add]
    rfl

theorem toList_firstLine (indent number : Nat) :
    (firstLine indent number).toList = (padding indent).toList ++
      ("message".toList ++ ' ' :: ((s!"ConnectDefault{number}").toList ++ ' ' :: ['\x7b'])) := by
  simp [firstLine, ToString.toString]

theorem isBlank_of_isDigit {c : Char} (h : c.isDigit = true) : Text.isBlank c = false := by
  have hrange : 48 ≤ c.toNat ∧ c.toNat ≤ 57 := Char.isDigit_iff_toNat.mp h
  simp only [Text.isBlank, Bool.or_eq_false_iff, Bool.and_eq_false_iff, decide_eq_false_iff_not,
    beq_eq_false_iff_ne]
  omega

theorem not_isBlank_of_all {word : List Char} (h : word.all (fun c => !Text.isBlank c) = true) :
    ∀ c ∈ word, Text.isBlank c = false := by
  intro c hc
  simpa using List.all_eq_true.mp h c hc

theorem not_isBlank_of_mem_name (number : Nat) :
    ∀ c ∈ (s!"ConnectDefault{number}").toList, Text.isBlank c = false := by
  intro c hc
  have hparts : (s!"ConnectDefault{number}").toList =
      "ConnectDefault".toList ++ Nat.toDigits 10 number := by
    simp [ToString.toString]
  rw [hparts, List.mem_append] at hc
  rcases hc with hc | hc
  · exact not_isBlank_of_all (by decide) c hc
  · exact isBlank_of_isDigit (Nat.isDigit_of_mem_toDigits (by decide) (by decide) hc)

/-- A message's name can be read off its first line. -/
theorem messageName_cons (indent number : Nat) (rest : List String) :
    messageName (firstLine indent number :: rest) = s!"ConnectDefault{number}" := by
  have hpadding : ∀ c ∈ (padding indent).toList, Text.isBlank c = true := by
    rw [toList_padding]
    intro c hc
    rw [List.eq_of_mem_replicate hc]
    rfl
  have hname : (s!"ConnectDefault{number}").toList ≠ [] := by
    simp [ToString.toString]
  rw [messageName, List.headD_cons, Text.words_strip, toList_firstLine,
    Text.words_blanks_append hpadding, Text.words_append_cons (by decide) (not_isBlank_of_all (by decide)) rfl,
    Text.words_append_cons hname (not_isBlank_of_mem_name number) rfl]
  exact String.ofList_toList

/-! Keys of maps. -/

/-- The types that keys of maps may have are told from others by their first characters. -/
theorem not_mapKey {text : String} {c : Char} (htext : text.toList.head? = some c)
    (hc : c ∉ ['s', 'i', 'b']) : text ∉ mapKeys := by
  have hkeys : (mapKeys.all fun key => key.toList.head?.all ['s', 'i', 'b'].contains) = true := by
    decide
  intro hkey
  have hfirst := List.all_eq_true.mp hkeys text hkey
  rw [htext] at hfirst
  exact hc (List.contains_iff_mem.mp hfirst)

variable {found : (String × List String) × ProtobufWriter}

theorem not_mapKey_array {item : DataType}
    (h : fieldType indent nested (.array item) w = .ok found) : found.1.1 ∉ mapKeys := by
  rw [fieldType_array] at h
  split at h
  · cases h
  · obtain ⟨more, -, rfl⟩ := bind_pure_eq_ok.mp h
    exact not_mapKey (by simp [ToString.toString]) (by decide : 'r' ∉ _)

theorem not_mapKey_map {key value : DataType}
    (h : fieldType indent nested (.map key value) w = .ok found) : found.1.1 ∉ mapKeys := by
  rw [fieldType_map] at h
  obtain ⟨keyFound, -, hvalue⟩ := bind_eq_ok.mp h
  split at hvalue
  · cases hvalue
  · split at hvalue
    · cases hvalue
    · obtain ⟨valueFound, -, rfl⟩ := bind_pure_eq_ok.mp hvalue
      exact not_mapKey (by simp [ToString.toString]) (by decide : 'm' ∉ _)

theorem not_mapKey_struct {fields : Fields}
    (h : fieldType indent nested (.struct fields) w = .ok found) : found.1.1 ∉ mapKeys := by
  rw [fieldType_struct, message_eq] at h
  obtain ⟨message, hmessage, rfl⟩ := bind_pure_eq_ok.mp h
  obtain ⟨body, -, rfl⟩ := bind_pure_eq_ok.mp hmessage
  refine not_mapKey ?_ (by decide : 'C' ∉ _)
  rw [List.cons_append, List.cons_append, messageName_cons]
  simp [ToString.toString]

end TopicPlan.Schema.ProtobufWriter
