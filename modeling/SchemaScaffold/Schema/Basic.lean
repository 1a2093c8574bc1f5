import SchemaScaffold.Schema.Column
import SchemaScaffold.Schema.EntityNames
import SchemaScaffold.Schema.FieldType

/-!
# Schemas

Tables with their columns, in order of declaration, and the database they belong to.
-/

namespace SchemaScaffold

/-- One table. -/
structure Table where
  name : String
  columns : List Column
deriving DecidableEq, Repr

namespace Table

/-- The names of the table's entity. -/
def entityNames (table : Table) : EntityNames :=
  EntityNames.ofTable table.name

/-- The first column of a name. -/
def findColumn? (table : Table) (name : String) : Option Column :=
  table.columns.find? (·.name == name)

/-- The columns that clients send. -/
def inputColumns (table : Table) : List Column :=
  table.columns.filter (·.isInput)

end Table

/-- The tables of a database, in order of first appearance. -/
structure Schema where
  database : Option String
  tables : List Table
deriving DecidableEq, Repr

namespace Schema

def tableNames (schema : Schema) : List String :=
  schema.tables.map (·.name)

/-- The first table of a name. -/
def findTable? (schema : Schema) (name : String) : Option Table :=
  schema.tables.find? (·.name == name)

/-- Number of columns of all tables together. -/
def columnCount (schema : Schema) : Nat :=
  schema.tables.foldr (fun table count => table.columns.length + count) 0

def isEmpty (schema : Schema) : Bool :=
  schema.tables.isEmpty

@[simp] theorem length_tableNames (schema : Schema) :
    schema.tableNames.length = schema.tables.length := by
  simp [tableNames]

end Schema
end SchemaScaffold
