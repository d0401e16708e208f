import TopicPlan.Data.Check

/-!
The properties of the engine that bear on topics: the formats of statements that name none, and
whether single values are wrapped. All other properties are kept.
-/

namespace TopicPlan

open Data

structure EngineConfig where
  wrapSingleValues : Option Bool
  defaultKeyFormat : String
  defaultValueFormat : Option String
  others : OrderedMap String Value
deriving Repr

namespace EngineConfig

def standard : EngineConfig := ⟨none, "KAFKA", none, []⟩

/-- The names of a property, the engine's own name first. -/
structure Names where
  engine : String
  short : String

def wrapNames : Names := ⟨"ksql.persistence.wrap.single.values", "wrap_single_values"⟩

def keyNames : Names := ⟨"ksql.persistence.default.format.key", "default_key_format"⟩

def valueNames : Names := ⟨"ksql.persistence.default.format.value", "default_value_format"⟩

/-- A property under either of its names. The engine's name goes first. -/
def read (names : Names) (standard : α) (check : Check α)
    (properties : OrderedMap String Value) : Checked α :=
  optional names.engine [names.short] standard check properties

def givenName? (properties : OrderedMap String Value) (names : Names) : Option String :=
  (firstNamed? properties [names.engine, names.short]).map (·.1)

/-- The properties that are kept. A short name beside the engine's name is one of them. -/
def otherProperties (properties : OrderedMap String Value) : OrderedMap String Value :=
  let given := [wrapNames, keyNames, valueNames].filterMap (givenName? properties)
  properties.filter fun entry => !given.contains entry.1

/-- The configuration that properties give. The names of those that are kept have to be readable,
which is the only fault if they are not. -/
def ofProperties (properties : OrderedMap String Value) : Checked EngineConfig :=
  if properties.keys.any Text.hasHalf then fail .textUnreadable
  else
    EngineConfig.mk
      <$> read wrapNames standard.wrapSingleValues (Check.nullable Check.bool) properties
      <*> read keyNames standard.defaultKeyFormat Check.text properties
      <*> read valueNames standard.defaultValueFormat (Check.nullable Check.text) properties
      <*> pure (otherProperties properties)

def kind : String := "EngineConfig"

def ofValue (value : Value) : Checked EngineConfig :=
  if value.isVoid then ofProperties []
  else Check.fields kind ofProperties value

end EngineConfig

end TopicPlan
