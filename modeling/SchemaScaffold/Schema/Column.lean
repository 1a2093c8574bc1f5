import SchemaScaffold.Text.LetterCase
import SchemaScaffold.Text.Search

/-!
# Columns

A column of a table: its name, the text that declares it, and what the words of that text say
about it.
-/

namespace SchemaScaffold

/-- One declared column. The three flags may be set apart from the definition. -/
structure Column where
  /-- The name, without quotes. -/
  name : String
  /-- The type and the attributes, as written. -/
  definition : String
  /-- The database numbers the rows. -/
  isAutoIncrement : Bool
  /-- The value may be missing. -/
  isNullable : Bool
  /-- The database supplies a value where none is given. -/
  hasDefault : Bool
deriving DecidableEq, Repr

namespace Column

/-- Whether `marker`, in capitals, occurs in a definition, whatever the case of its letters. -/
def mentions (marker definition : String) : Bool :=
  Text.occursIn marker.toList (Text.asciiUpper definition.toList)

/-- The column that a definition describes. -/
def ofDefinition (name definition : String) : Column where
  name
  definition
  isAutoIncrement := mentions "AUTO_INCREMENT" definition
  isNullable := !mentions "NOT NULL" definition
  hasDefault := mentions "DEFAULT" definition

/-- The default is the time at which the row is written. -/
def hasTimestampDefault (column : Column) : Bool :=
  column.hasDefault && mentions "CURRENT_TIMESTAMP" column.definition

/-- Clients send the column: neither the numbering nor the clock of the database fills it. -/
def isInput (column : Column) : Bool :=
  !column.isAutoIncrement && !column.hasTimestampDefault

/-- Clients must send the column. -/
def isRequiredInput (column : Column) : Bool :=
  column.isInput && !column.isNullable && !column.hasDefault

@[simp] theorem ofDefinition_name (name definition : String) :
    (ofDefinition name definition).name = name := rfl

@[simp] theorem ofDefinition_definition (name definition : String) :
    (ofDefinition name definition).definition = definition := rfl

theorem isInput_of_isRequiredInput {column : Column}
    (required : column.isRequiredInput = true) : column.isInput = true := by
  simp only [isRequiredInput, Bool.and_eq_true] at required
  exact required.1.1

end Column
end SchemaScaffold
