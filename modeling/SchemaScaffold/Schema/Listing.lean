import SchemaScaffold.Schema.Basic
import SchemaScaffold.Sql.Parse
import SchemaScaffold.Text.Digits

/-!
# Listings

Schemas and reports for readers: as Markdown and as plain tables.
-/

namespace SchemaScaffold

open Text (decimal padRight)

/-- The word for a flag. -/
def yesNo (flag : Bool) : String :=
  if flag then "yes" else "no"

/-- A number in decimal digits. -/
def decimalText (number : Nat) : String :=
  String.ofList (decimal number)

/-- A text padded with spaces on the right. -/
def paddedText (width : Nat) (text : String) : String :=
  String.ofList (padRight width text.toList)

/-- The word for a kind, with the format in parentheses. -/
def FieldType.label (type : FieldType) : String :=
  match type.format with
  | some format => type.kind.word ++ " (" ++ format ++ ")"
  | none => type.kind.word

def Column.markdownRow (column : Column) : String :=
  String.join ["| `", column.name, "` | ", column.definition, " | ",
    (FieldType.ofDefinition column.definition).label, " | ", yesNo column.isNullable, " | ",
    yesNo column.hasDefault, " | ", yesNo column.isAutoIncrement, " |\n"]

def Table.markdown (table : Table) : String :=
  let heading := String.join ["## ", table.name, " (`", table.entityNames.pascal, "`)\n\n"]
  if table.columns.isEmpty then heading ++ "_No columns parsed._\n\n"
  else
    String.join [heading, "| Column | Definition | Type | Nullable | Default | Auto |\n",
      "|--------|------------|------|----------|---------|------|\n",
      String.join (table.columns.map (·.markdownRow)), "\n"]

def Schema.markdown (schema : Schema) : String :=
  let heading := match schema.database with
    | some name => String.join ["# Database: ", name, "\n\n"]
    | none => "# Schema\n\n"
  heading ++ String.join (schema.tables.map (·.markdown))

/-- A section of a report: a heading and one line for each entry, left out without entries. -/
def markdownSection (title : String) (entries : List String) : String :=
  if entries.isEmpty then ""
  else String.join ["\n## ", title, "\n\n", String.join (entries.map fun entry =>
    String.join ["- ", entry, "\n"])]

namespace Sql

def Report.markdown (report : Report) : String :=
  let quoted (name : String) : String := String.join ["`", name, "`"]
  let database := match report.database with
    | some name => String.join ["- **Database:** ", name, "\n"]
    | none => ""
  String.join ["# Parse Report\n\n", database,
    "- **Tables:** ", decimalText report.tableCount, "\n",
    "- **Columns:** ", decimalText report.columnCount, "\n",
    "- **Constraint lines:** ", decimalText report.constraintLines, "\n",
    markdownSection "Duplicate tables" (report.duplicateTables.map quoted),
    markdownSection "Skipped statements" (report.skippedStatements.map quoted),
    markdownSection "Dropped lines" (report.droppedLines.map fun line =>
      String.join [quoted line.table, " line ", decimalText line.line, ": ", line.text])]

end Sql

/-- The flags of a column that are not usual. -/
def Column.flagWords (column : Column) : List String :=
  (if column.isAutoIncrement then ["auto"] else []) ++
    (if column.isNullable then [] else ["not-null"]) ++
    if column.hasDefault then ["default"] else []

/-- A column on one line, its name padded to a width. -/
def Column.listing (width : Nat) (column : Column) : String :=
  String.join ["  ", paddedText width column.name, "  ",
    paddedText 8 (FieldType.ofDefinition column.definition).kind.word, "  ",
    String.intercalate "," column.flagWords, "\n"]

/-- The width of the names of a table's columns: the bytes of the longest. -/
def Table.nameWidth (table : Table) : Nat :=
  (table.columns.map (·.name.utf8ByteSize)).foldl max 0

def Table.listing (table : Table) : String :=
  String.join ["\n", table.name, ":\n",
    String.join (table.columns.map (·.listing table.nameWidth))]

def Schema.listing (schema : Schema) : String :=
  String.join ["Database: ", schema.database.getD "-",
    "  Tables: ", decimalText schema.tables.length,
    "  Columns: ", decimalText schema.columnCount, "\n",
    String.join (schema.tables.map (·.listing))]

namespace Sql

/-- A report on one line. -/
def Report.listing (report : Report) : String :=
  String.join [paddedText 20 (report.database.getD "-"), " ",
    paddedText 6 (if report.isClean then "CLEAN" else "GAPS"),
    " tables=", decimalText report.tableCount, " columns=", decimalText report.columnCount,
    " dropped=", decimalText report.droppedLines.length,
    " duplicates=", decimalText report.duplicateTables.length,
    " skipped=", decimalText report.skippedStatements.length, "\n"]

end Sql
end SchemaScaffold
