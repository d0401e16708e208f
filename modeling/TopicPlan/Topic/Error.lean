import TopicPlan.Schema.Error
import TopicPlan.Sql.Script

/-!
Why a statement yields no topic although it may be meant to. None of these errors stops the reading
of the statements after it.
-/

namespace TopicPlan

/-- What is wrong with the formats of a source, or with its columns in its value format. -/
inductive FormatError where
  | keyFormatMissing
  | valueFormatMissing
  | unknown (error : UnknownFormat)
  | schema (error : Schema.SchemaError)
deriving DecidableEq, Repr

/-- The words for a property that no default stands in for. -/
def missingFormat (property : Sql.Property) (part : String) : String :=
  s!"Statement is missing the '{property.name}' property from the WITH clause. " ++
    s!"Either provide one or set a default via the 'ksql.persistence.default.format.{part}' config."

def FormatError.message : FormatError → String
  | .keyFormatMissing => missingFormat .keyFormat "key"
  | .valueFormatMissing => missingFormat .valueFormat "value"
  | .unknown error => error.message
  | .schema error => error.message

inductive StatementError where
  | script (error : Sql.ScriptError)
  | unresolvedType (name : String)
  | format (error : FormatError)
deriving DecidableEq, Repr

def StatementError.message : StatementError → String
  | .script error => error.message
  | .unresolvedType name => s!"Cannot resolve unknown type: {name}"
  | .format error => error.message

end TopicPlan
