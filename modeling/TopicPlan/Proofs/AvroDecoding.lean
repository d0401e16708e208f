import TopicPlan.Proofs.Encodability
import TopicPlan.Proofs.WrittenDocuments

/-! What the text of an Avro schema tells of the columns that it was made for. The document of a schema
keeps every name, every number and the shape of every type, so that the columns can be read back from
it; names of records are not needed. The text keeps the document up to pairs of halves: a name with a
high half right before a low one is written like the name with the one character that they make. -/
namespace TopicPlan
namespace Sql.DataType

mutual

/-- The type with the pairs of halves joined in all names. -/
def joined : DataType → DataType
  | .base b => .base b
  | .decimal precision scale => .decimal precision scale
  | .array item => .array item.joined
  | .map key value => .map key.joined value.joined
  | .struct fields => .struct (joinedFields fields)
  | .reference name => .reference (Text.joined name)

def joinedFields : Fields → Fields
  | [] => []
  | (name, type) :: rest => (Text.joined name, type.joined) :: joinedFields rest

end

end Sql.DataType

namespace Schema
open Sql (BaseType DataType Fields)
open Sql.DataType

namespace AvroType

def wordOf (base : BaseType) : String :=
  match ofBase base with
  | .primitive name | .logical _ name => name
  | _ => ""

def baseOf? (word : String) : Option DataType :=
  (BaseType.all.find? fun base => wordOf base = word).map .base

def entryOf? : Fields → Option DataType
  | [(_, key), (_, value)] => some (.map key value)
  | _ => none

mutual

/-- The type that a document is the schema of, told by the shape of the document. -/
def typeOf? : Json → Option DataType
  | .text word => baseOf? word
  | .object [_, (_, .text word)] => baseOf? word
  | .object [_, _, (_, .int precision), (_, .int scale)] => some (.decimal precision scale)
  | .object [_, (part, .array [_, type])] =>
    if part = "items" then (typeOf? type).map .array
    else (typeOf? type).map (.map (.base .string))
  | .object [_, (_, .object [_, _, (_, .array fields)])]
  | .object [_, (_, .object [_, _, _, (_, .array fields)])] => (fieldsOf? fields).bind entryOf?
  | .object [_, _, (_, .array fields)]
  | .object [_, _, _, (_, .array fields)] => (fieldsOf? fields).map .struct
  | _ => none

def fieldsOf? : List Json → Option Fields
  | [] => some []
  | .object [(_, .text name), (_, .array [_, type]), _] :: rest => do
    return (name, ← typeOf? type) :: (← fieldsOf? rest)
  | _ => none

end

theorem joined_wordOf (base : BaseType) : Text.joined (wordOf base) = wordOf base :=
  Text.joined_of_lt (by cases base <;> simp [wordOf, ofBase])

theorem baseOf?_wordOf (base : BaseType) : baseOf? (wordOf base) = some (.base base) := by
  cases base <;> decide +kernel

section Shapes

/-! How the documents of types are read, given how the documents of their parts are. -/

theorem typeOf?_ofBase (base : BaseType) :
    typeOf? (ofBase base).toJson.joined = some (.base base) := by
  have hread : typeOf? (ofBase base).toJson.joined = baseOf? (Text.joined (wordOf base)) := by
    cases base <;> rfl
  rw [hread, joined_wordOf, baseOf?_wordOf]

theorem typeOf?_decimal (precision scale : Int) :
    typeOf? (decimal precision scale).toJson.joined = some (.decimal precision scale) := rfl

theorem typeOf?_array (items : AvroType) :
    typeOf? (array (.optional items)).toJson.joined =
      (typeOf? items.toJson.joined).map .array := by
  have hpart : Text.joined "items" = "items" := Text.joined_of_lt (by simp)
  simp only [toJson, Json.joined, Json.joinedMembers, Json.joinedItems, typeOf?, hpart, if_true]

theorem typeOf?_map (values : AvroType) :
    typeOf? (map (.optional values)).toJson.joined =
      (typeOf? values.toJson.joined).map (.map (.base .string)) := by
  have hpart : Text.joined "values" = "values" := Text.joined_of_lt (by simp)
  have hother : "values" ≠ "items" := by decide
  simp only [toJson, Json.joined, Json.joinedMembers, Json.joinedItems, typeOf?, hpart, if_neg hother]

theorem typeOf?_record (fullName : String) (fields : List (String × AvroType)) :
    typeOf? (record fullName fields).toJson.joined =
      (fieldsOf? (Json.joinedItems (fieldsToJson fields))).map .struct ∧
    typeOf? (array (record fullName fields)).toJson.joined =
      (fieldsOf? (Json.joinedItems (fieldsToJson fields))).bind entryOf? := by
  simp only [toJson]
  split
  · exact ⟨rfl, rfl⟩
  · exact ⟨rfl, rfl⟩

theorem fieldsOf?_cons (name : String) (part : AvroType) (rest : List (String × AvroType)) :
    fieldsOf? (Json.joinedItems (fieldsToJson ((name, .optional part) :: rest))) = do
      return (Text.joined name, ← typeOf? part.toJson.joined) ::
        (← fieldsOf? (Json.joinedItems (fieldsToJson rest))) := by
  rw [fieldsToJson, Json.joinedItems]
  rfl

end Shapes

mutual

/-- The type of a column is read back from the document of its schema. -/
theorem typeOf?_ofType (fullName : String) : (type : DataType) → ∀ {avro : AvroType},
    ofType fullName type = .ok avro → typeOf? avro.toJson.joined = some type.joined
  | .base b, avro, h => by
    cases h
    exact typeOf?_ofBase b
  | .decimal precision scale, avro, h => by
    cases h
    exact typeOf?_decimal precision scale
  | .array item, avro, h => by
    obtain ⟨items, hitem, rfl⟩ := avro_array_eq_ok.mp h
    rw [typeOf?_array, typeOf?_ofType fullName item hitem, DataType.joined, Option.map_some]
  | .map key value, avro, h => by
    by_cases hkey : key = .base .string
    · subst hkey
      obtain ⟨values, hvalue, rfl⟩ := avro_stringMap_eq_ok.mp h
      rw [typeOf?_map, typeOf?_ofType fullName value hvalue, DataType.joined, DataType.joined,
        Option.map_some]
    · obtain ⟨keys, values, hkeys, hvalues, rfl⟩ := (avro_map_eq_ok hkey).mp h
      rw [(typeOf?_record _ _).2, fieldsOf?_cons, fieldsOf?_cons, typeOf?_ofType _ key hkeys,
        typeOf?_ofType _ value hvalues, DataType.joined]
      rfl
  | .struct fields, avro, h => by
    obtain ⟨parts, hparts, rfl⟩ := avro_struct_eq_ok.mp h
    rw [(typeOf?_record _ _).1, fieldsOf?_ofFields fullName fields hparts, DataType.joined,
      Option.map_some]
  | .reference name, avro, h => by cases h

theorem fieldsOf?_ofFields (fullName : String) : (fields : Fields) →
    ∀ {parts : List (String × AvroType)}, ofFields fullName fields = .ok parts →
      fieldsOf? (Json.joinedItems (fieldsToJson parts)) = some (joinedFields fields)
  | [], parts, h => by
    cases h
    rfl
  | (name, type) :: rest, parts, h => by
    obtain ⟨part, more, htype, hrest, rfl⟩ := avroFields_cons_eq_ok.mp h
    rw [fieldsOf?_cons, typeOf?_ofType _ type htype, fieldsOf?_ofFields fullName rest hrest,
      joinedFields]
    rfl

end

mutual

theorem integral_toJson : (avro : AvroType) → avro.toJson.integral = true
  | .primitive _ | .logical .. | .decimal .. => rfl
  | .optional type => by
    simp [toJson, Json.integral, Json.itemsIntegral, integral_toJson type]
  | .array items => by
    simp [toJson, Json.integral, Json.membersIntegral, integral_toJson items]
  | .map values => by
    simp [toJson, Json.integral, Json.membersIntegral, integral_toJson values]
  | .record fullName fields => by
    have hfields := itemsIntegral_fieldsToJson fields
    simp only [toJson]
    split
    · simp only [List.append_nil, List.cons_append, List.nil_append, Json.integral,
        Json.membersIntegral, hfields, Bool.and_self]
    · simp only [List.cons_append, List.nil_append, Json.integral, Json.membersIntegral, hfields,
        Bool.and_self]

theorem itemsIntegral_fieldsToJson : (fields : List (String × AvroType)) →
    Json.itemsIntegral (fieldsToJson fields) = true
  | [] => rfl
  | (name, type) :: rest => by
    simp [fieldsToJson, Json.itemsIntegral, Json.integral, Json.membersIntegral,
      integral_toJson type, itemsIntegral_fieldsToJson rest]

end

end AvroType

/-- What the document of a schema is read as: columns, or the type of a column that stands alone. -/
def valueOf? : Json → Option (Fields ⊕ DataType)
  | .array [_, type] => (AvroType.typeOf? type).map .inr
  | document => match AvroType.typeOf? document with
    | some (.struct fields) => some (.inl fields)
    | _ => none

theorem valueOf?_alone {fields : Fields} {unwrap : Bool} (halone : StandsAlone fields unwrap)
    {fullName : String} {avro : AvroType} (h : avroOf fields unwrap fullName = .ok avro) :
    ∃ name type, fields = [(name, type)] ∧ valueOf? avro.toJson.joined = some (.inr type.joined) := by
  obtain ⟨rfl, hlength⟩ := halone
  obtain ⟨⟨name, type⟩, rfl⟩ := List.length_eq_one_iff.mp hlength
  obtain ⟨part, htype, rfl⟩ := avroOf_eq_ok_alone.mp h
  refine ⟨name, type, rfl, ?_⟩
  have hread := AvroType.typeOf?_ofType _ type htype
  simp only [AvroType.toJson, Json.joined, Json.joinedItems, valueOf?, hread, Option.map_some]

theorem valueOf?_record {fields : Fields} {unwrap : Bool} (halone : ¬StandsAlone fields unwrap)
    {fullName : String} {avro : AvroType} (h : avroOf fields unwrap fullName = .ok avro) :
    valueOf? avro.toJson.joined = some (.inl (joinedFields fields)) := by
  obtain ⟨parts, hparts, rfl⟩ := (avroOf_eq_ok_record halone).mp h
  have hread := AvroType.fieldsOf?_ofFields fullName fields hparts
  have hrecord := (AvroType.typeOf?_record fullName parts).1
  obtain ⟨members, hmembers⟩ :
      ∃ members, (AvroType.record fullName parts).toJson.joined = .object members := ⟨_, rfl⟩
  rw [hread, hmembers] at hrecord
  rw [hmembers, valueOf?, hrecord]
  · rfl
  · intro first type h
    cases h

/-- Columns without references have an Avro text. Of columns with one text, whatever the names of
their records, either all stand alone and have one type, or none does and all are the same. Types and
columns are told up to pairs of halves in their names. -/
theorem columns_of_avro_text (fields others : Fields) (unwrap unwrapOther : Bool)
    (fullName otherName : String) (hfields : fieldReferences fields = [])
    (hothers : fieldReferences others = []) :
    ∃ text other, ValueSchema.infer .avro fields unwrap fullName = .ok ⟨.avro, text⟩ ∧
      ValueSchema.infer .avro others unwrapOther otherName = .ok ⟨.avro, other⟩ ∧
      (text = other →
        (StandsAlone fields unwrap ↔ StandsAlone others unwrapOther) ∧
        (¬StandsAlone fields unwrap → joinedFields fields = joinedFields others) ∧
        (StandsAlone fields unwrap → fields.map (·.2.joined) = others.map (·.2.joined))) := by
  have hencodable : ∀ columns : Fields, fieldReferences columns = [] →
      FieldsEncodable .avro columns := fun columns hcolumns => ⟨hcolumns, fun _ _ => trivial⟩
  obtain ⟨avro, havro⟩ :=
    (avroOf_succeeds_iff fields unwrap fullName).mpr (hencodable fields hfields)
  obtain ⟨avroOther, havroOther⟩ :=
    (avroOf_succeeds_iff others unwrapOther otherName).mpr (hencodable others hothers)
  refine ⟨avro.toJson.print, avroOther.toJson.print, ?_, ?_, fun htext => ?_⟩
  · rw [ValueSchema.infer, havro]
    rfl
  · rw [ValueSchema.infer, havroOther]
    rfl
  have hjoined : avro.toJson.joined = avroOther.toJson.joined :=
    Json.joined_of_print_eq (AvroType.integral_toJson avro) (AvroType.integral_toJson avroOther) htext
  by_cases halone : StandsAlone fields unwrap
  · obtain ⟨name, type, rfl, hread⟩ := valueOf?_alone halone havro
    by_cases haloneOther : StandsAlone others unwrapOther
    · obtain ⟨otherName, otherType, rfl, hreadOther⟩ := valueOf?_alone haloneOther havroOther
      rw [hjoined, hreadOther] at hread
      have htype : otherType.joined = type.joined := Sum.inr.inj (Option.some.inj hread)
      exact ⟨iff_of_true halone haloneOther, fun h => absurd halone h, fun _ => by simp [htype]⟩
    · rw [hjoined, valueOf?_record haloneOther havroOther] at hread
      cases hread
  · have hread := valueOf?_record halone havro
    by_cases haloneOther : StandsAlone others unwrapOther
    · obtain ⟨otherName, otherType, rfl, hreadOther⟩ := valueOf?_alone haloneOther havroOther
      rw [hjoined, hreadOther] at hread
      cases hread
    · rw [hjoined, valueOf?_record haloneOther havroOther] at hread
      have hcolumns : joinedFields others = joinedFields fields := Sum.inl.inj (Option.some.inj hread)
      exact ⟨iff_of_false halone haloneOther, fun _ => hcolumns.symm, fun h => absurd h halone⟩

/-- A column that stands alone has one text under all names, and the text tells its type. -/
theorem columns_of_avro_text_alone :
    ∃ text, ValueSchema.infer .avro [("PRICES", .array (.decimal 10 2))] true "First" =
        .ok ⟨.avro, text⟩ ∧
      ValueSchema.infer .avro [("COSTS", .array (.decimal 10 2))] true "Second" = .ok ⟨.avro, text⟩ ∧
      StandsAlone [("COSTS", .array (.decimal 10 2))] true ∧
      [("PRICES", DataType.array (.decimal 10 2))].map (·.2.joined) =
        [("COSTS", DataType.array (.decimal 10 2))].map (·.2.joined) := by
  obtain ⟨text, other, htext, hother, hone⟩ := columns_of_avro_text
    [("PRICES", .array (.decimal 10 2))] [("COSTS", .array (.decimal 10 2))] true true "First" "Second"
    rfl rfl
  have hsame : text = other := by
    have halike : ValueSchema.infer .avro [("PRICES", .array (.decimal 10 2))] true "First" =
        ValueSchema.infer .avro [("COSTS", .array (.decimal 10 2))] true "Second" := rfl
    rw [htext, hother] at halike
    exact congrArg ValueSchema.text (Except.ok.inj halike)
  have halone : StandsAlone [("PRICES", .array (.decimal 10 2))] true := ⟨rfl, rfl⟩
  exact ⟨text, htext, hsame ▸ hother, (hone hsame).1.mp halone, (hone hsame).2.2 halone⟩

/-- A high half and the low half that makes a pair with it. -/
def halves : String := String.ofList (Text.ofCodes [0xD83D, 0xDE00])

/-- The one character of that pair. -/
def pair : String := String.ofList (Text.ofCodes [0x1F600])

/-- The text of a schema does not tell a pair of halves from the character that they make. -/
theorem halves_have_text_of_pair :
    fieldReferences [(halves, .base .integer)] = [] ∧ fieldReferences [(pair, .base .integer)] = [] ∧
      (∃ schema, ValueSchema.infer .avro [(halves, .base .integer)] false "R" = .ok schema ∧
        ValueSchema.infer .avro [(pair, .base .integer)] false "R" = .ok schema) ∧
      [(halves, DataType.base .integer)] ≠ [(pair, .base .integer)] := by
  have hinfer : ∀ name, ValueSchema.infer .avro [(name, .base .integer)] false "R" =
      .ok ⟨.avro, (AvroType.record "R" [(name, .optional (.primitive "int"))]).toJson.print⟩ :=
    fun _ => rfl
  have htext : (AvroType.record "R" [(halves, .optional (.primitive "int"))]).toJson.print =
      (AvroType.record "R" [(pair, .optional (.primitive "int"))]).toJson.print := by
    decide +kernel
  refine ⟨rfl, rfl, ⟨_, hinfer halves, ?_⟩, by decide +kernel⟩
  rw [hinfer pair, htext]

end Schema
end TopicPlan
