import TopicPlan.Format

/-!
How keys and values are written: whether a single column stands in a record of its own or alone.
-/

namespace TopicPlan

inductive SerdeFeature where
  | wrapSingleValues
  | unwrapSingleValues
deriving DecidableEq, Repr

def SerdeFeature.name : SerdeFeature → String
  | .wrapSingleValues => "WRAP_SINGLE_VALUES"
  | .unwrapSingleValues => "UNWRAP_SINGLE_VALUES"

/-- The features of the key and of the value of a source; each has at most one. -/
structure SerdeOptions where
  key : Option SerdeFeature
  value : Option SerdeFeature
deriving DecidableEq, Repr

inductive SerdeError where
  | notSingleField
  | wrappingUnsupported (format : Format) (wrap : Bool)
  | unwrappingUnsupported (format : Format)
deriving DecidableEq, Repr

def SerdeError.message : SerdeError → String
  | .notSingleField => "'WRAP_SINGLE_VALUE' is only valid for single-field value schemas"
  | .wrappingUnsupported format wrap =>
    s!"Format '{format.name}' does not support 'WRAP_SINGLE_VALUE' set to '{wrap}'."
  | .unwrappingUnsupported format =>
    s!"Format '{format.name}' does not support unwrapping single values"

namespace SerdeOptions

/-- A single key column is never wrapped where the format leaves the choice. -/
def keyFeature (fieldCount : Nat) (format : Format) : Option SerdeFeature :=
  if fieldCount = 1 ∧ format.unwraps ∧ format.wraps then some .unwrapSingleValues else none

/-- What a statement asks for (`requested`) must be possible; without a request, single values are
unwrapped where the engine's configuration (`configured`) says so and the format can. -/
def valueFeature (fieldCount : Nat) (format : Format) (requested configured : Option Bool) :
    Except SerdeError (Option SerdeFeature) :=
  match requested with
  | some wrap =>
    if fieldCount ≠ 1 then .error .notSingleField
    else if !format.wraps then .error (.wrappingUnsupported format wrap)
    else if wrap then .ok (some .wrapSingleValues)
    else if !format.unwraps then .error (.unwrappingUnsupported format)
    else .ok (some .unwrapSingleValues)
  | none =>
    if fieldCount = 1 ∧ format.wraps ∧ configured = some false ∧ format.unwraps then
      .ok (some .unwrapSingleValues)
    else .ok none

def forSource (keyCount valueCount : Nat) (keyFormat valueFormat : Format)
    (requested configured : Option Bool) : Except SerdeError SerdeOptions :=
  (valueFeature valueCount valueFormat requested configured).map fun value =>
    ⟨keyFeature keyCount keyFormat, value⟩

end SerdeOptions

end TopicPlan
