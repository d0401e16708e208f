import TopicPlan.Sql.DataType
import TopicPlan.Sql.Properties

/-!
Statements that bear on topics: registrations of custom types, and declarations of the streams and
tables that read a topic. All other statements are kept as text.
-/

namespace TopicPlan.Sql

inductive Constraint where
  | none
  | key
  | primaryKey
  | headers
  /-- The column holds the one header of the given key. -/
  | header (key : String)
deriving DecidableEq, Repr

inductive RecordPart where
  | key
  | value
  | headers
deriving DecidableEq, Repr

def Constraint.part : Constraint → RecordPart
  | .key | .primaryKey => .key
  | .headers | .header _ => .headers
  | .none => .value

structure Column where
  name : String
  type : DataType
  constraint : Constraint
deriving DecidableEq, Repr

def Column.part (column : Column) : RecordPart := column.constraint.part

inductive SourceKind where
  | stream
  | table
deriving DecidableEq, Repr

/-- The declaration of a stream or table over a topic. -/
structure Source where
  kind : SourceKind
  name : String
  columns : List Column
  properties : Properties
  orReplace : Bool
  ifNotExists : Bool
  isSource : Bool
deriving DecidableEq, Repr

def Source.fields (source : Source) (part : RecordPart) : Fields :=
  (source.columns.filter fun column => column.part = part).map fun column =>
    (column.name, column.type)

structure TypeRegistration where
  name : String
  type : DataType
  ifNotExists : Bool
deriving DecidableEq, Repr

inductive Statement where
  | register (registration : TypeRegistration)
  | create (source : Source)
deriving DecidableEq, Repr

inductive StatementKind where
  | register
  | create (kind : SourceKind)
  | other
deriving DecidableEq, Repr

def Statement.kind : Statement → StatementKind
  | .register _ => .register
  | .create source => .create source.kind

/-- A statement as it stands in a text. Those of other kinds are not read further. -/
structure ParsedStatement where
  text : String
  statement? : Option Statement
deriving DecidableEq, Repr

def ParsedStatement.kind (parsed : ParsedStatement) : StatementKind :=
  (parsed.statement?.map Statement.kind).getD .other

/-- A statement of a text that is read, with the types it means. -/
structure PreparedStatement where
  text : String
  statement : Statement
deriving DecidableEq, Repr

def PreparedStatement.kind (prepared : PreparedStatement) : StatementKind := prepared.statement.kind

end TopicPlan.Sql
