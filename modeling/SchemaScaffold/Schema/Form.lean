import SchemaScaffold.Document
import SchemaScaffold.Json.Reader
import SchemaScaffold.Sql.Parse

/-!
# Schemas as documents

The document form of schemas and reports, and the schema that a JSON value describes.
-/

namespace SchemaScaffold

open Document (natural optionalText texts)

def Column.toDocument (column : Column) : Document :=
  .record [("name", .text column.name), ("raw_definition", .text column.definition),
    ("is_auto_increment", .bool column.isAutoIncrement),
    ("is_nullable", .bool column.isNullable), ("has_default", .bool column.hasDefault)]

def Table.toDocument (table : Table) : Document :=
  .record [("name", .text table.name), ("columns", .list (table.columns.map (·.toDocument)))]

def Schema.toDocument (schema : Schema) : Document :=
  .record (optionalText "database" schema.database ++
    [("tables", .list (schema.tables.map (·.toDocument)))])

namespace Sql

def DroppedLine.toDocument (line : DroppedLine) : Document :=
  .record [("table", .text line.table), ("line", natural line.line), ("text", .text line.text)]

def Report.toDocument (report : Report) : Document :=
  .record (optionalText "database" report.database ++ [
    ("table_count", natural report.tableCount),
    ("column_count", natural report.columnCount),
    ("constraint_lines", natural report.constraintLines),
    ("dropped_lines", .list (report.droppedLines.map (·.toDocument))),
    ("duplicate_tables", texts report.duplicateTables),
    ("skipped_statements", texts report.skippedStatements)])

/-- The schema and the report together. -/
def ParseRun.toDocument (run : ParseRun) : Document :=
  .record [("model", run.schema.toDocument), ("report", run.report.toDocument)]

end Sql

open Json (Value)

/-- The column that a value describes. -/
def Column.ofJson? (value : Value) : Option Column :=
  match value.fields
      ["name", "raw_definition", "is_auto_increment", "is_nullable", "has_default"] with
  | some [some name, some definition, some auto, some nullable, some default] => do
    return ⟨← name.asText?, ← definition.asText?, ← auto.asBool?, ← nullable.asBool?,
      ← default.asBool?⟩
  | _ => none

/-- The table that a value describes. -/
def Table.ofJson? (value : Value) : Option Table :=
  match value.fields ["name", "columns"] with
  | some [some name, some columns] => do
    return ⟨← name.asText?, ← (← columns.asList?).mapM Column.ofJson?⟩
  | _ => none

/-- The schema that a value describes; the database may be absent. -/
def Schema.ofJson? (value : Value) : Option Schema :=
  match value.fields ["database", "tables"] with
  | some [database, some tables] => do
    let name ← match database with
      | some given => given.asOptionalText?
      | none => some none
    return ⟨name, ← (← tables.asList?).mapM Table.ofJson?⟩
  | _ => none

/-- The schema that a JSON text describes. -/
def Schema.ofJsonText? (text : String) : Option Schema :=
  (Value.ofText? text).bind Schema.ofJson?

end SchemaScaffold
