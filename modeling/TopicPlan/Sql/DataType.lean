/-!
Column types. A reference names a custom type; `resolve` replaces references by definitions, and
says which name is missing. Main statements: resolving succeeds exactly when every reference is
bound, and leaves a type without references alone.
-/

namespace TopicPlan.Sql

inductive BaseType where
  | boolean
  | integer
  | bigint
  | double
  | string
  | bytes
  | date
  | time
  | timestamp
deriving DecidableEq, Repr

namespace BaseType

def name : BaseType → String
  | boolean => "BOOLEAN"
  | integer => "INTEGER"
  | bigint => "BIGINT"
  | double => "DOUBLE"
  | string => "STRING"
  | bytes => "BYTES"
  | date => "DATE"
  | time => "TIME"
  | timestamp => "TIMESTAMP"

def all : List BaseType :=
  [boolean, integer, bigint, double, string, bytes, date, time, timestamp]

/-- The type of an upper-case keyword: its name, or one of two other spellings. -/
def ofKeyword? (keyword : String) : Option BaseType :=
  if keyword = "INT" then some integer
  else if keyword = "VARCHAR" then some string
  else all.find? fun base => base.name = keyword

theorem ofKeyword?_name (base : BaseType) : ofKeyword? base.name = some base := by
  cases base <;> decide

end BaseType

inductive DataType where
  | base (base : BaseType)
  | decimal (precision scale : Int)
  | array (item : DataType)
  | map (key value : DataType)
  | struct (fields : List (String × DataType))
  | reference (name : String)
deriving Repr, Inhabited

/-- Named types in order, as a struct's fields or a record's columns. -/
abbrev Fields := List (String × DataType)

namespace DataType

mutual

def decEq : (a b : DataType) → Decidable (a = b)
  | .base a, .base b => if h : a = b then .isTrue (by rw [h]) else .isFalse (by simp [h])
  | .decimal p s, .decimal q t =>
    if h : p = q ∧ s = t then .isTrue (by rw [h.1, h.2]) else .isFalse (by simpa using h)
  | .array a, .array b =>
    match decEq a b with
    | .isTrue h => .isTrue (by rw [h])
    | .isFalse h => .isFalse (by simp [h])
  | .map k v, .map l w =>
    match decEq k l, decEq v w with
    | .isTrue h, .isTrue i => .isTrue (by rw [h, i])
    | .isFalse h, _ => .isFalse (by simp [h])
    | _, .isFalse h => .isFalse (by simp [h])
  | .struct fs, .struct gs =>
    match decEqFields fs gs with
    | .isTrue h => .isTrue (by rw [h])
    | .isFalse h => .isFalse (by simp [h])
  | .reference a, .reference b =>
    if h : a = b then .isTrue (by rw [h]) else .isFalse (by simp [h])
  | .base _, .decimal .. | .base _, .array _ | .base _, .map .. | .base _, .struct _
  | .base _, .reference _ | .decimal .., .base _ | .decimal .., .array _ | .decimal .., .map ..
  | .decimal .., .struct _ | .decimal .., .reference _ | .array _, .base _ | .array _, .decimal ..
  | .array _, .map .. | .array _, .struct _ | .array _, .reference _ | .map .., .base _
  | .map .., .decimal .. | .map .., .array _ | .map .., .struct _ | .map .., .reference _
  | .struct _, .base _ | .struct _, .decimal .. | .struct _, .array _ | .struct _, .map ..
  | .struct _, .reference _ | .reference _, .base _ | .reference _, .decimal ..
  | .reference _, .array _ | .reference _, .map .. | .reference _, .struct _ => .isFalse (by simp)

def decEqFields : (fs gs : Fields) → Decidable (fs = gs)
  | [], [] => .isTrue rfl
  | [], _ :: _ | _ :: _, [] => .isFalse (by simp)
  | (n, t) :: fs, (m, u) :: gs =>
    if h : n = m then
      match decEq t u, decEqFields fs gs with
      | .isTrue i, .isTrue j => .isTrue (by rw [h, i, j])
      | .isFalse i, _ => .isFalse (by simp [i])
      | _, .isFalse j => .isFalse (by simp [j])
    else .isFalse (by simp [h])

end

instance : DecidableEq DataType := decEq

mutual

/-- The text of a type in messages. Names stand between backticks as they are. -/
def text : DataType → String
  | .base b => b.name
  | .decimal precision scale => s!"DECIMAL({precision}, {scale})"
  | .array item => "ARRAY<" ++ item.text ++ ">"
  | .map key value => "MAP<" ++ key.text ++ ", " ++ value.text ++ ">"
  | .struct fields => "STRUCT<" ++ ", ".intercalate (fieldTexts fields) ++ ">"
  | .reference name => name

def fieldTexts : Fields → List String
  | [] => []
  | (name, type) :: rest => ("\x60" ++ name ++ "\x60 " ++ type.text) :: fieldTexts rest

end

mutual

/-- The names of the custom types in a type, from left to right and at every depth. -/
def references : DataType → List String
  | .base _ | .decimal .. => []
  | .array item => item.references
  | .map key value => key.references ++ value.references
  | .struct fields => fieldReferences fields
  | .reference name => [name]

def fieldReferences : Fields → List String
  | [] => []
  | (_, type) :: rest => type.references ++ fieldReferences rest

end

mutual

/-- Replaces every reference by its definition. The definitions are taken as they are. A name
without one is the error. -/
def resolve (definition? : String → Option DataType) : DataType → Except String DataType
  | .base b => .ok (.base b)
  | .decimal precision scale => .ok (.decimal precision scale)
  | .array item => do return .array (← resolve definition? item)
  | .map key value => do
    let key ← resolve definition? key
    return .map key (← resolve definition? value)
  | .struct fields => do return .struct (← resolveFields definition? fields)
  | .reference name =>
    match definition? name with
    | some type => .ok type
    | none => .error name

def resolveFields (definition? : String → Option DataType) : Fields → Except String Fields
  | [] => .ok []
  | (name, type) :: rest => do
    let type ← resolve definition? type
    return (name, type) :: (← resolveFields definition? rest)

end

mutual

theorem resolve_of_references_eq_nil (definition? : String → Option DataType) :
    (type : DataType) → type.references = [] → resolve definition? type = .ok type
  | .base _, _ | .decimal .., _ => rfl
  | .array item, h => by
    simp only [references] at h
    simp only [resolve, resolve_of_references_eq_nil definition? item h]
    rfl
  | .map key value, h => by
    simp only [references, List.append_eq_nil_iff] at h
    simp only [resolve, resolve_of_references_eq_nil definition? key h.1,
      resolve_of_references_eq_nil definition? value h.2]
    rfl
  | .struct fields, h => by
    simp only [references] at h
    simp only [resolve, resolveFields_of_references_eq_nil definition? fields h]
    rfl
  | .reference _, h => by simp [references] at h

theorem resolveFields_of_references_eq_nil (definition? : String → Option DataType) :
    (fields : Fields) → fieldReferences fields = [] → resolveFields definition? fields = .ok fields
  | [], _ => rfl
  | (_, type) :: rest, h => by
    simp only [fieldReferences, List.append_eq_nil_iff] at h
    simp only [resolveFields, resolve_of_references_eq_nil definition? type h.1,
      resolveFields_of_references_eq_nil definition? rest h.2]
    rfl

end

end DataType

end TopicPlan.Sql
