import TopicPlan.Proofs.Encodability
import Mathlib.Data.List.Sort

/-! Protobuf files in two phases. The messages come first: a struct has the number that counting the
structs which open before it gives, and its message is defined in the message whose field holds it. The
text comes after that, from the messages alone. The names of types and files are spelled out here once
more, for the text is not to depend on the writer's tables. Main statement: the writer, which numbers
messages, collects imports and writes lines as it goes, gives this text. -/
namespace TopicPlan
namespace Schema
open Sql (BaseType DataType Fields)
open Sql.DataType

/-- The type of a field. Messages are named by their numbers. -/
inductive ProtobufType where
  | scalar (name : String)
  | message (number : Nat)
  | repeated (item : ProtobufType)
  | map (key value : ProtobufType)

/-- A message with its fields in order, and the messages defined in it. -/
inductive ProtobufMessage where
  | mk (number : Nat) (fields : List (String × ProtobufType)) (inner : List ProtobufMessage)

section Structs

def struct? : DataType → Option Fields
  | .struct fields => some fields
  | .base _ | .decimal .. | .array _ | .map .. | .reference _ => none

/-- The structs in a type, at every depth, in the order in which they open. -/
def structs (type : DataType) : List Fields := type.parts.filterMap struct?

def fieldStructs (fields : Fields) : List Fields := (fieldParts fields).filterMap struct?

@[simp] theorem structs_base (b : BaseType) : structs (.base b) = [] := rfl

@[simp] theorem structs_decimal (precision scale : Int) : structs (.decimal precision scale) = [] := rfl

@[simp] theorem structs_reference (name : String) : structs (.reference name) = [] := rfl

@[simp] theorem structs_array (item : DataType) : structs (.array item) = structs item := rfl

@[simp] theorem structs_map (key value : DataType) :
    structs (.map key value) = structs key ++ structs value :=
  List.filterMap_append

@[simp] theorem structs_struct (fields : Fields) :
    structs (.struct fields) = fields :: fieldStructs fields := rfl

@[simp] theorem fieldStructs_nil : fieldStructs [] = [] := rfl

@[simp] theorem fieldStructs_cons (name : String) (type : DataType) (rest : Fields) :
    fieldStructs ((name, type) :: rest) = structs type ++ fieldStructs rest := by
  simp [structs, fieldStructs, fieldParts]

end Structs

section Messages

/-! The first phase. `first` is the number of the first struct that opens. -/

def scalarName : BaseType → String
  | .boolean => "bool"
  | .integer => "int32"
  | .bigint => "int64"
  | .double => "double"
  | .string => "string"
  | .bytes => "bytes"
  | .date => "google.type.Date"
  | .time => "google.type.TimeOfDay"
  | .timestamp => "google.protobuf.Timestamp"

/-- The type of a field. A struct stands there by its number. -/
def typeFrom (first : Nat) : DataType → ProtobufType
  | .base b => .scalar (scalarName b)
  | .decimal .. => .scalar "confluent.type.Decimal"
  | .array item => .repeated (typeFrom first item)
  | .map key value => .map (typeFrom first key) (typeFrom (first + (structs key).length) value)
  | .struct _ => .message first
  | .reference name => .scalar name

def fieldTypesFrom (first : Nat) : Fields → List (String × ProtobufType)
  | [] => []
  | (name, type) :: rest =>
    (name, typeFrom first type) :: fieldTypesFrom (first + (structs type).length) rest

mutual

/-- The messages of the structs that stand in a type directly, not inside another struct. -/
def messagesFrom (first : Nat) : DataType → List ProtobufMessage
  | .base _ | .decimal .. | .reference _ => []
  | .array item => messagesFrom first item
  | .map key value => messagesFrom first key ++ messagesFrom (first + (structs key).length) value
  | .struct fields =>
    [.mk first (fieldTypesFrom (first + 1) fields) (fieldMessagesFrom (first + 1) fields)]

def fieldMessagesFrom (first : Nat) : Fields → List ProtobufMessage
  | [] => []
  | (_, type) :: rest =>
    messagesFrom first type ++ fieldMessagesFrom (first + (structs type).length) rest

end

/-- The message of a record's columns, which has the number one. -/
def recordMessage (columns : Fields) : ProtobufMessage :=
  .mk 1 (fieldTypesFrom 2 columns) (fieldMessagesFrom 2 columns)

end Messages

def ProtobufType.text : ProtobufType → String
  | .scalar name => name
  | .message number => s!"ConnectDefault{number}"
  | .repeated item => "repeated " ++ item.text
  | .map key value => "map<" ++ key.text ++ ", " ++ value.text ++ ">"

def ProtobufType.named : ProtobufType → List Nat
  | .scalar _ => []
  | .message number => [number]
  | .repeated item => item.named
  | .map key value => key.named ++ value.named

namespace ProtobufMessage

def number : ProtobufMessage → Nat
  | .mk number _ _ => number

def fields : ProtobufMessage → List (String × ProtobufType)
  | .mk _ fields _ => fields

def inner : ProtobufMessage → List ProtobufMessage
  | .mk _ _ defined => defined

mutual

/-- A message and all messages in it, at every depth, in the order in which they open. -/
def messages : ProtobufMessage → List ProtobufMessage
  | .mk number fields inner => .mk number fields inner :: allMessages inner

def allMessages : List ProtobufMessage → List ProtobufMessage
  | [] => []
  | message :: rest => message.messages ++ allMessages rest

end

theorem allMessages_append (first second : List ProtobufMessage) :
    allMessages (first ++ second) = allMessages first ++ allMessages second := by
  induction first with
  | nil => rfl
  | cons message rest ih => simp [allMessages, ih]

/-- The types of the fields of a message name the messages that are defined directly in it, each of them
once and in their order. -/
def NamesInner (message : ProtobufMessage) : Prop :=
  message.fields.flatMap (·.2.named) = message.inner.map number

end ProtobufMessage
open ProtobufMessage

section Order

mutual

/-- The numbers of messages go up from the first one, in the order in which the messages open. -/
theorem numbers_messagesFrom (first : Nat) : (type : DataType) →
    (allMessages (messagesFrom first type)).map number = List.range' first (structs type).length
  | .base _ | .decimal .. | .reference _ => rfl
  | .array item => numbers_messagesFrom first item
  | .map key value => by
    have hkey := numbers_messagesFrom first key
    have hvalue := numbers_messagesFrom (first + (structs key).length) value
    rw [messagesFrom, allMessages_append, List.map_append, hkey, hvalue, structs_map,
      List.length_append, List.range'_append_1]
  | .struct fields => by
    have hfields := numbers_fieldMessagesFrom (first + 1) fields
    rw [messagesFrom, structs_struct, List.length_cons, List.range'_succ, ← hfields]
    simp [allMessages, messages, number]

theorem numbers_fieldMessagesFrom (first : Nat) : (fields : Fields) →
    (allMessages (fieldMessagesFrom first fields)).map number =
      List.range' first (fieldStructs fields).length
  | [] => rfl
  | (name, type) :: rest => by
    have htype := numbers_messagesFrom first type
    have hrest := numbers_fieldMessagesFrom (first + (structs type).length) rest
    rw [fieldMessagesFrom, allMessages_append, List.map_append, htype, hrest, fieldStructs_cons,
      List.length_append, List.range'_append_1]

end

theorem names_fieldTypesFrom (first : Nat) (fields : Fields) :
    (fieldTypesFrom first fields).map (·.1) = fields.map (·.1) := by
  induction fields generalizing first with
  | nil => rfl
  | cons field rest ih => simp [fieldTypesFrom, ih]

mutual

theorem names_messagesFrom (first : Nat) : (type : DataType) →
    (allMessages (messagesFrom first type)).map (fun message => message.fields.map (·.1)) =
      (structs type).map (fun fields => fields.map (·.1))
  | .base _ | .decimal .. | .reference _ => rfl
  | .array item => names_messagesFrom first item
  | .map key value => by
    have hkey := names_messagesFrom first key
    have hvalue := names_messagesFrom (first + (structs key).length) value
    rw [messagesFrom, allMessages_append, List.map_append, hkey, hvalue, structs_map, List.map_append]
  | .struct fields => by
    have hfields := names_fieldMessagesFrom (first + 1) fields
    rw [messagesFrom, structs_struct, List.map_cons, ← hfields]
    simp [allMessages, messages, ProtobufMessage.fields, names_fieldTypesFrom]

theorem names_fieldMessagesFrom (first : Nat) : (fields : Fields) →
    (allMessages (fieldMessagesFrom first fields)).map (fun message => message.fields.map (·.1)) =
      (fieldStructs fields).map (fun fields => fields.map (·.1))
  | [] => rfl
  | (name, type) :: rest => by
    have htype := names_messagesFrom first type
    have hrest := names_fieldMessagesFrom (first + (structs type).length) rest
    rw [fieldMessagesFrom, allMessages_append, List.map_append, htype, hrest, fieldStructs_cons,
      List.map_append]

end

/-- What a type names is what is defined for it. -/
theorem named_typeFrom (first : Nat) : (type : DataType) →
    (typeFrom first type).named = (messagesFrom first type).map number
  | .base _ | .decimal .. | .reference _ | .struct _ => rfl
  | .array item => named_typeFrom first item
  | .map key value => by
    have hkey := named_typeFrom first key
    have hvalue := named_typeFrom (first + (structs key).length) value
    rw [messagesFrom, List.map_append, ← hkey, ← hvalue, typeFrom, ProtobufType.named]

theorem named_fieldTypesFrom (first : Nat) (fields : Fields) :
    (fieldTypesFrom first fields).flatMap (·.2.named) =
      (fieldMessagesFrom first fields).map number := by
  induction fields generalizing first with
  | nil => rfl
  | cons field rest ih =>
    rw [fieldTypesFrom, List.flatMap_cons, ih, fieldMessagesFrom, List.map_append, named_typeFrom]

mutual

theorem namesInner_messagesFrom (first : Nat) : (type : DataType) →
    ∀ message ∈ allMessages (messagesFrom first type), message.NamesInner
  | .base _ | .decimal .. | .reference _ => List.forall_mem_nil _
  | .array item => namesInner_messagesFrom first item
  | .map key value => by
    rw [messagesFrom, allMessages_append, List.forall_mem_append]
    exact ⟨namesInner_messagesFrom first key, namesInner_messagesFrom _ value⟩
  | .struct fields => by
    have hinner := namesInner_fieldMessagesFrom (first + 1) fields
    have hself := named_fieldTypesFrom (first + 1) fields
    rw [messagesFrom, allMessages, allMessages, List.append_nil, messages, List.forall_mem_cons]
    exact ⟨hself, hinner⟩

theorem namesInner_fieldMessagesFrom (first : Nat) : (fields : Fields) →
    ∀ message ∈ allMessages (fieldMessagesFrom first fields), message.NamesInner
  | [] => List.forall_mem_nil _
  | (name, type) :: rest => by
    rw [fieldMessagesFrom, allMessages_append, List.forall_mem_append]
    exact ⟨namesInner_messagesFrom first type, namesInner_fieldMessagesFrom _ rest⟩

end

theorem namesInner_recordMessage (columns : Fields) :
    ∀ message ∈ (recordMessage columns).messages, message.NamesInner := by
  rw [recordMessage, messages, List.forall_mem_cons]
  exact ⟨named_fieldTypesFrom 2 columns, namesInner_fieldMessagesFrom 2 columns⟩

end Order

section Layout

/-! The second phase: the text, from the messages alone. -/

def margin (depth : Nat) : String := String.ofList (List.replicate (2 * depth) ' ')

mutual

/-- The lines of a message: its fields, numbered from one, and where a field holds a message an empty
line and the messages that are defined in it. -/
def laidOut (depth : Nat) : ProtobufMessage → List String
  | .mk number fields defined =>
    [margin depth ++ s!"message ConnectDefault{number} \x7b"] ++
      fields.mapIdx (fun i field =>
        margin (depth + 1) ++ s!"{field.2.text} {field.1} = {i + 1};") ++
      (if fields.any (fun field => !field.2.named.isEmpty) then
        "" :: allLaidOut (depth + 1) defined else []) ++
      [margin depth ++ "\x7d"]

def allLaidOut (depth : Nat) : List ProtobufMessage → List String
  | [] => []
  | message :: rest => laidOut depth message ++ allLaidOut depth rest

end

/-- A field holds a message exactly when one is defined in the message of the field. -/
theorem any_named_iff {message : ProtobufMessage} (h : message.NamesInner) :
    message.fields.any (fun field => !field.2.named.isEmpty) = !message.inner.isEmpty := by
  have hempty : message.inner = [] ↔ ∀ field ∈ message.fields, field.2.named = [] := by
    rw [← List.map_eq_nil_iff (f := number), ← h, List.flatMap_eq_nil_iff]
  cases hinner : message.inner with
  | nil => simpa using hempty.mp hinner
  | cons first rest =>
    have hne : ¬∀ field ∈ message.fields, field.2.named = [] := by
      rw [← hempty, hinner]
      simp
    simpa using hne

end Layout

section Files

/-- The file that a type needs for itself, whatever is in it. -/
def neededFile? : DataType → Option String
  | .base .date => some "google/type/date.proto"
  | .base .time => some "google/type/timeofday.proto"
  | .base .timestamp => some "google/protobuf/timestamp.proto"
  | .decimal .. => some "confluent/type/decimal.proto"
  | .base _ | .array _ | .map .. | .struct _ | .reference _ => none

/-- The files that columns need at any depth, each once and in order. -/
structure Imports (columns : Fields) (files : List String) : Prop where
  sorted : files.Pairwise (· < ·)
  needed : ∀ file, file ∈ files ↔ ∃ part ∈ fieldParts columns, neededFile? part = some file

end Files

def fileText (files : List String) (message : ProtobufMessage) : String :=
  "\n".intercalate (["syntax = \"proto3\";", ""] ++
    (if files.isEmpty then [] else files.map (fun file => s!"import \"{file}\";") ++ [""]) ++
    laidOut 0 message) ++ "\n"

section Writing
open ProtobufWriter

/-! The writer, for which both phases are one. -/

/-- The writer when the structs among some parts are open, and their files are remembered. -/
def ProtobufWriter.after (w : ProtobufWriter) (parts : List DataType) : ProtobufWriter where
  opened := w.opened + (parts.filterMap struct?).length
  files := (parts.filterMap neededFile?).foldl (fun files file => files.insert file) w.files

variable {w : ProtobufWriter}

theorem after_append (first second : List DataType) :
    (w.after first).after second = w.after (first ++ second) := by
  simp [ProtobufWriter.after, Nat.add_assoc]

theorem opened_after (type : DataType) :
    (w.after type.parts).opened + 1 = w.opened + 1 + (structs type).length :=
  Nat.add_right_comm _ _ _

theorem after_struct (fields : Fields) :
    w.after (DataType.struct fields).parts = w.opening.after (fieldParts fields) := by
  have hcount : w.opened + ((fieldParts fields).filterMap struct?).length.succ =
      w.opened + 1 + ((fieldParts fields).filterMap struct?).length := by
    omega
  simp only [ProtobufWriter.after, ProtobufWriter.opening, ← hcount]
  rfl

theorem importing_base (b : BaseType) : w.importing (baseName b) = w.after [.base b] := by
  cases b <;> rfl

theorem baseName_eq (b : BaseType) : baseName b = scalarName b := by
  cases b <;> rfl

theorem padding_eq (indent : Nat) : padding indent = margin indent := by
  rw [← String.toList_inj, toList_padding, margin, String.toList_ofList]

theorem margin_succ (depth : Nat) : margin (depth + 1) = margin depth ++ "  " := by
  rw [← String.toList_inj]
  simp [margin, Nat.mul_succ, List.replicate_add]

theorem allLaidOut_append (depth : Nat) (first second : List ProtobufMessage) :
    allLaidOut depth (first ++ second) = allLaidOut depth first ++ allLaidOut depth second := by
  induction first with
  | nil => rfl
  | cons message rest ih => simp [allLaidOut, ih]

theorem isEmpty_allLaidOut (depth : Nat) (inner : List ProtobufMessage) :
    (allLaidOut depth inner).isEmpty = inner.isEmpty := by
  cases inner with
  | nil => rfl
  | cons message rest =>
    obtain ⟨number, fields, defined⟩ := message
    simp [allLaidOut, laidOut]

theorem firstLine_eq (depth number : Nat) :
    firstLine depth number = margin depth ++ s!"message ConnectDefault{number} \x7b" := by
  rw [firstLine, padding_eq]
  simp [String.append_assoc, ToString.toString]

theorem messageName_laidOut (depth number : Nat) (fields : List (String × ProtobufType))
    (inner : List ProtobufMessage) :
    messageName (laidOut depth (.mk number fields inner)) = s!"ConnectDefault{number}" := by
  rw [laidOut, ← firstLine_eq]
  exact messageName_cons depth number _

/-- The lines that the writer puts around those of fields are those of the layout. -/
theorem laidOut_eq (depth number : Nat) {fields : List (String × ProtobufType)}
    {inner : List ProtobufMessage} (h : (ProtobufMessage.mk number fields inner).NamesInner) :
    firstLine depth number ::
        fields.mapIdx (fun i field =>
          margin (depth + 1) ++ s!"{field.2.text} {field.1} = {i + 1};") ++
      (if (allLaidOut (depth + 1) inner).isEmpty then []
        else "" :: allLaidOut (depth + 1) inner) ++ [s!"{padding depth}\x7d"] =
      laidOut depth (.mk number fields inner) := by
  have hany : fields.any (fun field => !field.2.named.isEmpty) = !inner.isEmpty := any_named_iff h
  have hlast : s!"{padding depth}\x7d" = margin depth ++ "\x7d" := by
    rw [padding_eq]
    rfl
  rw [laidOut, hany, isEmpty_allLaidOut, firstLine_eq, hlast]
  cases inner.isEmpty <;> rfl

/-- A message of fields for which the writer has written what the two phases give. -/
theorem message_eq_ok {indent : Nat} {fields : Fields}
    (h : fieldLines indent 1 [] fields w.opening =
      .ok (((fieldTypesFrom (w.opened + 2) fields).mapIdx fun i field =>
          margin (indent + 1) ++ s!"{field.2.text} {field.1} = {i + 1};",
        [] ++ allLaidOut (indent + 1) (fieldMessagesFrom (w.opened + 2) fields)),
        w.opening.after (fieldParts fields))) :
    message indent (fieldLines indent 1 [] fields) w =
      .ok (laidOut indent (.mk (w.opened + 1) (fieldTypesFrom (w.opened + 2) fields)
        (fieldMessagesFrom (w.opened + 2) fields)), w.opening.after (fieldParts fields)) := by
  have hlines := laidOut_eq indent (w.opened + 1)
    (named_fieldTypesFrom (w.opened + 2) fields : ProtobufMessage.NamesInner (.mk _ _ _))
  rw [message_eq, h, ← hlines]
  rfl

theorem fieldLine_eq (indent number : Nat) (text name : String) :
    s!"{padding indent}  {text} {name} = {number};" =
      margin (indent + 1) ++ s!"{text} {name} = {number};" := by
  rw [padding_eq, margin_succ]
  simp [String.append_assoc, ToString.toString]

mutual

/-- The writer gives the text of a field's type, and the layout of the messages that it defines; it
counts the structs in the type, and remembers the files that its parts need. -/
theorem fieldType_eq_ok (indent : Nat) (nested : List String) (w : ProtobufWriter) :
    (type : DataType) → Encodable .protobuf type →
      fieldType indent nested type w =
        .ok (((typeFrom (w.opened + 1) type).text,
          nested ++ allLaidOut indent (messagesFrom (w.opened + 1) type)), w.after type.parts)
  | .base b, _ => by
    rw [fieldType_base, importing_base, baseName_eq]
    simp [typeFrom, ProtobufType.text, messagesFrom, allLaidOut, parts]
  | .decimal precision scale, _ => by
    rw [fieldType_decimal]
    simp [typeFrom, ProtobufType.text, messagesFrom, allLaidOut]
    exact ⟨rfl, rfl⟩
  | .array item, h => by
    obtain ⟨hadmitted, hitem⟩ := encodable_array.mp h
    have hplain : isCollection item = false := hadmitted
    rw [fieldType_array, hplain, fieldType_eq_ok indent nested w item hitem]
    rfl
  | .map key value, h => by
    obtain ⟨⟨hkeys, hplain⟩, hkey, hvalue⟩ := encodable_map.mp h
    have hfound := fieldType_eq_ok indent nested w key hkey
    have hmapKey := (mem_mapKeys_iff hfound).mpr hkeys
    have hvalues := fieldType_eq_ok indent
      (nested ++ allLaidOut indent (messagesFrom (w.opened + 1) key)) (w.after key.parts) value hvalue
    rw [opened_after, List.append_assoc, ← allLaidOut_append, after_append] at hvalues
    have hallowed : mapKeys.contains (typeFrom (w.opened + 1) key).text = true :=
      List.contains_iff_mem.mpr hmapKey
    rw [fieldType_map, hfound]
    simp only [bind, Except.bind, hallowed, hplain, hvalues]
    rfl
  | .struct fields, h => by
    have hfields := fieldLines_eq_ok indent 1 [] w.opening fields (encodable_struct.mp h)
    rw [fieldType_struct, message_eq_ok hfields, after_struct, typeFrom, messagesFrom, allLaidOut,
      allLaidOut, List.append_nil, ProtobufType.text, ← messageName_laidOut]
    rfl
  | .reference name, h => absurd h (not_encodable_reference name)

theorem fieldLines_eq_ok (indent number : Nat) (nested : List String) (w : ProtobufWriter) :
    (fields : Fields) → FieldsEncodable .protobuf fields →
      fieldLines indent number nested fields w =
        .ok (((fieldTypesFrom (w.opened + 1) fields).mapIdx fun i field =>
            margin (indent + 1) ++ s!"{field.2.text} {field.1} = {i + number};",
          nested ++ allLaidOut (indent + 1) (fieldMessagesFrom (w.opened + 1) fields)),
          w.after (fieldParts fields))
  | [], _ => by
    rw [fieldMessagesFrom, allLaidOut, List.append_nil]
    rfl
  | (name, type) :: rest, h => by
    obtain ⟨htype, hrest⟩ := fieldsEncodable_cons.mp h
    have hothers := fieldLines_eq_ok indent (number + 1)
      (nested ++ allLaidOut (indent + 1) (messagesFrom (w.opened + 1) type)) (w.after type.parts)
      rest hrest
    rw [opened_after, List.append_assoc, ← allLaidOut_append, after_append] at hothers
    have hshift : ∀ i, i + (number + 1) = i + 1 + number := by omega
    rw [fieldLines_cons, fieldType_eq_ok (indent + 1) nested w type htype]
    simp only [bind, Except.bind, hothers, fieldLine_eq, hshift]
    rw [fieldTypesFrom, List.mapIdx_cons, Nat.zero_add]
    rfl

end

def importedFiles (columns : Fields) : List String :=
  ((ProtobufWriter.opening ⟨0, []⟩).after (fieldParts columns)).files.mergeSort (· ≤ ·)

theorem mem_remembered {files needed : List String} {file : String} :
    file ∈ needed.foldl (fun files file => files.insert file) files ↔ file ∈ files ∨ file ∈ needed := by
  induction needed generalizing files with
  | nil => simp
  | cons first needed ih => simp [ih, List.mem_insert_iff, or_assoc, or_comm, or_left_comm]

theorem nodup_remembered {files : List String} (h : files.Nodup) (needed : List String) :
    (needed.foldl (fun files file => files.insert file) files).Nodup := by
  induction needed generalizing files with
  | nil => exact h
  | cons first needed ih => exact ih h.insert

theorem pairwise_lt_mergeSort {files : List String} (h : files.Nodup) :
    (files.mergeSort (· ≤ ·)).Pairwise (· < ·) := by
  have hsorted : (files.mergeSort (· ≤ ·)).Pairwise fun a b => decide (a ≤ b) = true := by
    refine List.pairwise_mergeSort (fun a b c hab hbc => ?_) (fun a b => ?_) files
    · simp only [decide_eq_true_eq] at hab hbc ⊢
      exact le_trans hab hbc
    · simp only [Bool.or_eq_true, decide_eq_true_eq]
      exact le_total a b
  have hnodup : (files.mergeSort (· ≤ ·)).Nodup := (List.mergeSort_perm _ _).nodup_iff.mpr h
  exact (hsorted.and hnodup).imp fun hle => lt_of_le_of_ne (of_decide_eq_true hle.1) hle.2

theorem imports_importedFiles (columns : Fields) : Imports columns (importedFiles columns) where
  sorted := pairwise_lt_mergeSort (nodup_remembered List.nodup_nil _)
  needed := by
    intro file
    rw [importedFiles, List.mem_mergeSort, ProtobufWriter.after, mem_remembered, List.mem_filterMap]
    simp [ProtobufWriter.opening]

theorem ofRecord_eq_ok {columns : Fields} (h : FieldsEncodable .protobuf columns) :
    ProtobufFile.ofRecord columns =
      .ok (fileText (importedFiles columns) (recordMessage columns)) := by
  have hmessage := message_eq_ok (fieldLines_eq_ok 0 1 [] (ProtobufWriter.opening ⟨0, []⟩) columns h)
  have hempty : (importedFiles columns).isEmpty =
      ((ProtobufWriter.opening ⟨0, []⟩).after (fieldParts columns)).files.isEmpty :=
    (List.mergeSort_perm _ _).isEmpty_eq
  rw [ProtobufFile.ofRecord, StateT.run, hmessage, fileText, hempty]
  rfl

end Writing

/-- Columns have a Protobuf file exactly when the format takes all their parts and they keep their
record. -/
theorem protobufOf_eq_ok_iff {columns : Fields} {unwrap : Bool} {text : String} :
    protobufOf columns unwrap = .ok text ↔
      (¬StandsAlone columns unwrap ∧ FieldsEncodable .protobuf columns) ∧
        text = fileText (importedFiles columns) (recordMessage columns) := by
  by_cases halone : StandsAlone columns unwrap
  · obtain ⟨rfl, hlength⟩ := halone
    obtain ⟨column, rfl⟩ := List.length_eq_one_iff.mp hlength
    simp [protobufOf, StandsAlone]
  · have hkept := protobufOf_record (not_standsAlone columns)
    rw [protobufOf_record halone]
    constructor
    · intro h
      have hencodable : FieldsEncodable .protobuf columns :=
        (protobufOf_succeeds_iff columns).mp ⟨text, hkept.trans h⟩
      rw [ofRecord_eq_ok hencodable] at h
      exact ⟨⟨halone, hencodable⟩, (Except.ok.inj h).symm⟩
    · rintro ⟨⟨-, hencodable⟩, rfl⟩
      exact ofRecord_eq_ok hencodable

/-- The Protobuf file of columns is the layout of their numbered messages. The messages are those of the
columns and of all structs in them, one for each, numbered from one in the order in which they open; the
fields of each name the messages defined directly in it; and the files imported are those that some part
of a column needs, sorted, each once. -/
theorem protobuf_text_of_numbered_messages (columns : Fields) (unwrap : Bool) :
    (∃ files, Imports columns files ∧ ∀ text, protobufOf columns unwrap = .ok text ↔
      (¬StandsAlone columns unwrap ∧ FieldsEncodable .protobuf columns) ∧
        text = fileText files (recordMessage columns)) ∧
    (recordMessage columns).messages.map number =
      List.range' 1 ((fieldStructs columns).length + 1) ∧
    (recordMessage columns).messages.map (fun message => message.fields.map (·.1)) =
      (columns :: fieldStructs columns).map (fun fields => fields.map (·.1)) ∧
    ∀ message ∈ (recordMessage columns).messages, message.NamesInner := by
  refine ⟨⟨importedFiles columns, imports_importedFiles columns, ?_⟩, ?_, ?_,
    namesInner_recordMessage columns⟩
  · intro text
    exact protobufOf_eq_ok_iff
  · have hinner := numbers_fieldMessagesFrom 2 columns
    rw [recordMessage, messages, List.map_cons, hinner, List.range'_succ]
    rfl
  · have hinner := names_fieldMessagesFrom 2 columns
    have hself := names_fieldTypesFrom 2 columns
    rw [recordMessage, messages, List.map_cons, hinner, List.map_cons, ← hself]
    rfl

example : ProtobufFile.ofRecord
    [("A", .array (.struct [("B", .base .date)])), ("C", .map (.base .string) (.base .integer))] =
      .ok ("\n".intercalate
        ["syntax = \"proto3\";", "",
          "import \"google/type/date.proto\";", "",
          "message ConnectDefault1 \x7b",
          "  repeated ConnectDefault2 A = 1;",
          "  map<string, int32> C = 2;", "",
          "  message ConnectDefault2 \x7b",
          "    google.type.Date B = 1;",
          "  \x7d",
          "\x7d"] ++ "\n") := by
  decide +kernel

end Schema
end TopicPlan
