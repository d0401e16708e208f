import TopicPlan.Sql.Statement

/-!
The custom types that are registered while the statements of one test case are read. A type is
replaced by its definition when a statement is prepared, so what is registered never refers to
other types.
-/

namespace TopicPlan.Sql

structure Catalog where
  types : OrderedMap String DataType
deriving DecidableEq, Repr

namespace Catalog

def empty : Catalog := ⟨[]⟩

def definition? (catalog : Catalog) (name : String) : Option DataType :=
  OrderedMap.get? name catalog.types

/-- Binds a name to a type; a known name gets a new definition. -/
def register (catalog : Catalog) (name : String) (type : DataType) : Catalog :=
  ⟨OrderedMap.put name type catalog.types⟩

theorem definition?_register (catalog : Catalog) (name : String) (type : DataType) (n : String) :
    (catalog.register name type).definition? n =
      if n = name then some type else catalog.definition? n :=
  OrderedMap.get?_put name type catalog.types n

end Catalog

/-- The columns with their types resolved. The error is the first name without a definition. -/
def resolveColumns (definition? : String → Option DataType) :
    List Column → Except String (List Column)
  | [] => .ok []
  | column :: rest => do
    let type ← column.type.resolve definition?
    return { column with type } :: (← resolveColumns definition? rest)

def Statement.resolve (definition? : String → Option DataType) :
    Statement → Except String Statement
  | .register registration => do
    return .register { registration with type := ← registration.type.resolve definition? }
  | .create source => do
    return .create { source with columns := ← resolveColumns definition? source.columns }

/-- Registers the type of a prepared statement; other statements change nothing. -/
def Catalog.apply (catalog : Catalog) : Statement → Catalog
  | .register registration => catalog.register registration.name registration.type
  | .create _ => catalog

end TopicPlan.Sql
