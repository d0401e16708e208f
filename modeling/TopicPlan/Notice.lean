import TopicPlan.Serde
import TopicPlan.Topic.Error

/-!
Notices: what is worth saying about a run although it stops nothing. `Noted` is a computation that
gives notices and then a result or an error; the notices of a sequence come in its order, and those
before an error are kept.
-/

namespace TopicPlan

inductive Level where
  | debug
  | info
deriving DecidableEq, Repr

inductive Notice where
  /-- A custom type got a new definition. -/
  | typeReplaced (name : String)
  | statementUnread (sql : String) (error : StatementError)
  | serdeOptionsIgnored (source : String) (error : SerdeError)
  | testDisabled (test path : String)
  | testTopics (test : String) (topics : List String)
  | topicExists (topic : String)
  /-- A schema was registered under the identifier, given by its text. -/
  | schemaRegistered (identifier subject : String)
deriving DecidableEq, Repr

namespace Notice

def level : Notice → Level
  | .typeReplaced _ | .serdeOptionsIgnored .. | .testTopics .. => .debug
  | .statementUnread .. | .testDisabled .. | .topicExists _ | .schemaRegistered .. => .info

def message : Notice → String
  | .typeReplaced name => s!"Replacing registered type '{name}'"
  | .statementUnread sql error =>
    s!"Error parsing statement (which may be expected): {sql}: {error.message}"
  | .serdeOptionsIgnored source error =>
    s!"Ignoring invalid serde options for '{source}': {error.message}"
  | .testDisabled test path => s!"Skipping disabled test '{test}' in {path}"
  | .testTopics test topics => s!"Test '{test}' uses topics: " ++ ", ".intercalate topics
  | .topicExists topic => s!"Topic '{topic}' already exists"
  | .schemaRegistered identifier subject =>
    s!"Registered schema {identifier} for subject '{subject}'"

end Notice

/-- Notices, and then a result or an error. -/
structure Noted (ε α : Type) where
  notices : List Notice
  result : Except ε α

namespace Noted

def bind (x : Noted ε α) (f : α → Noted ε β) : Noted ε β :=
  match x.result with
  | .ok a => ⟨x.notices ++ (f a).notices, (f a).result⟩
  | .error e => ⟨x.notices, .error e⟩

instance : Monad (Noted ε) where
  pure a := ⟨[], .ok a⟩
  bind := bind

def ofExcept (result : Except ε α) : Noted ε α := ⟨[], result⟩

def note (notice : Notice) : Noted ε Unit := ⟨[notice], .ok ()⟩

def throw (error : ε) : Noted ε α := ⟨[], .error error⟩

def mapError (f : ε → ε') (x : Noted ε α) : Noted ε' α := ⟨x.notices, x.result.mapError f⟩

@[simp] theorem result_pure (a : α) : (pure a : Noted ε α).result = .ok a := rfl

@[simp] theorem notices_pure (a : α) : (pure a : Noted ε α).notices = [] := rfl

@[simp] theorem result_bind (x : Noted ε α) (f : α → Noted ε β) :
    (x >>= f).result = x.result.bind fun a => (f a).result := by
  show (bind x f).result = _
  unfold bind
  cases x.result <;> rfl

@[simp] theorem result_note (notice : Notice) : (note notice : Noted ε Unit).result = .ok () := rfl

@[simp] theorem result_throw (error : ε) : (throw error : Noted ε α).result = .error error := rfl

@[simp] theorem result_ofExcept (result : Except ε α) : (ofExcept result).result = result := rfl

end Noted

end TopicPlan
