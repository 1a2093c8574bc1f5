import SchemaScaffold.Schema.Basic
import SchemaScaffold.Sql.ColumnLine
import SchemaScaffold.Sql.DatabaseStatement
import SchemaScaffold.Sql.TableStatement

/-!
# Reading a schema

The schema that the statements of a text declare, with a report of what was left out. The
first of several declarations of one table counts.
-/

namespace SchemaScaffold
namespace Sql

open Text

/-- A line of a table's body that was left out. -/
structure DroppedLine where
  table : String
  /-- Position among the lines of the body that are not blank, from one. -/
  line : Nat
  text : String
deriving DecidableEq, Repr

/-- What was read from a text and what was not. -/
structure Report where
  database : Option String
  tableCount : Nat
  columnCount : Nat
  /-- Number of keys and constraints. -/
  constraintLines : Nat
  droppedLines : List DroppedLine
  /-- Tables declared again, once for every further declaration. -/
  duplicateTables : List String
  /-- Tables whose statements have no readable body. -/
  skippedStatements : List String
deriving DecidableEq, Repr

/-- Every statement and every line was used. -/
def Report.isClean (report : Report) : Bool :=
  report.droppedLines.isEmpty && report.duplicateTables.isEmpty &&
    report.skippedStatements.isEmpty

/-- The table that a statement declares. -/
def TableStatement.table (statement : TableStatement) : Table :=
  ⟨statement.name, (BodyContent.ofBody statement.body.toList).columns⟩

/-- The lines of a statement that were left out. -/
def TableStatement.droppedLines (statement : TableStatement) : List DroppedLine :=
  (BodyContent.ofBody statement.body.toList).unmatchedLines.map fun line =>
    ⟨statement.name, line.index + 1, line.text⟩

/-- Number of keys and constraints of a statement. -/
def TableStatement.constraintCount (statement : TableStatement) : Nat :=
  (BodyContent.ofBody statement.body.toList).constraintLines.length

/-- The first statement of each name, and the names of the others, in order. -/
def firstDeclarations (seen : List String) :
    List TableStatement → List TableStatement × List String
  | [] => ([], [])
  | statement :: rest =>
    if seen.contains statement.name then
      let (kept, repeated) := firstDeclarations seen rest
      (kept, statement.name :: repeated)
    else
      let (kept, repeated) := firstDeclarations (statement.name :: seen) rest
      (statement :: kept, repeated)

/-- A schema with the report of its reading. -/
structure ParseRun where
  schema : Schema
  report : Report
deriving DecidableEq, Repr

/-- Read a schema and report on it. -/
def parseWithReport (sql : String) : ParseRun :=
  let text := sql.toList
  let (kept, repeated) := firstDeclarations [] (TableStatement.all text)
  let schema : Schema := ⟨DatabaseStatement.name? text, kept.map (·.table)⟩
  let keptNames := kept.map (·.name)
  ⟨schema, {
    database := schema.database
    tableCount := schema.tables.length
    columnCount := schema.columnCount
    constraintLines := kept.foldr (fun statement count => statement.constraintCount + count) 0
    droppedLines := kept.flatMap (·.droppedLines)
    duplicateTables := repeated
    skippedStatements :=
      (TableStatement.names text).filter fun name => !keptNames.contains name }⟩

/-- The schema that a text declares. -/
def parse (sql : String) : Schema :=
  (parseWithReport sql).schema

/-- Only the characters of a text count for its schema. -/
theorem parse_eq (sql : String) : parse sql = ⟨DatabaseStatement.name? sql.toList,
    (firstDeclarations [] (TableStatement.all sql.toList)).1.map (·.table)⟩ :=
  rfl

/-- Each statement is kept or repeats a name. -/
theorem length_firstDeclarations (seen : List String) (statements : List TableStatement) :
    (firstDeclarations seen statements).1.length +
      (firstDeclarations seen statements).2.length = statements.length := by
  induction statements generalizing seen with
  | nil => rfl
  | cons statement rest ih =>
    simp only [firstDeclarations]
    split
    · have counted := ih seen
      simp only [List.length_cons]
      omega
    · have counted := ih (statement.name :: seen)
      simp only [List.length_cons]
      omega

end Sql
end SchemaScaffold
