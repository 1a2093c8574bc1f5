import SchemaScaffold.Schema.Column
import SchemaScaffold.Sql.BodyLine
import SchemaScaffold.Sql.Words

/-!
# Column lines

A line declares a column if it is a name, blanks and a definition, with or without a comma at
the end. The lines of a body are sorted by what they declare.
-/

namespace SchemaScaffold
namespace Sql

open Text

namespace ColumnLine

/-- Characters of a column's name. -/
def isNameChar (c : Char) : Bool :=
  c.isAlphanum || c == '_'

/-- A text of two characters or more without the comma at its end. -/
def dropComma (text : List Char) : List Char :=
  if text.getLast? = some ',' && 2 ≤ text.length then text.dropLast else text

/-- The column that a line declares. -/
def parse (line : List Char) : Option Column :=
  (run isNameChar (skipBacktick (trim line))).bind fun (name, rest) =>
    (blanks (skipBacktick rest)).bind fun text =>
      let definition := trimRight (dropComma text)
      if text.contains '\n' || definition.isEmpty then none
      else some (Column.ofDefinition (String.ofList name) (String.ofList definition))

end ColumnLine

/-- The lines of a body, sorted. -/
structure BodyContent where
  columns : List Column
  /-- Keys and constraints. -/
  constraintLines : List BodyLine
  /-- Candidates that do not have the shape of a column. -/
  unmatchedLines : List BodyLine
deriving DecidableEq, Repr

namespace BodyContent

def empty : BodyContent := ⟨[], [], []⟩

/-- Put a line in front of sorted lines. -/
def insert (line : BodyLine) (content : BodyContent) : BodyContent :=
  match BodyLine.kind line.text.toList with
  | .constraint _ => { content with constraintLines := line :: content.constraintLines }
  | .candidate =>
    match ColumnLine.parse line.text.toList with
    | some column => { content with columns := column :: content.columns }
    | none => { content with unmatchedLines := line :: content.unmatchedLines }

/-- Sort lines, keeping their order within each sort. -/
def ofLines (lines : List BodyLine) : BodyContent :=
  lines.foldr insert empty

/-- Sort the lines of a body. -/
def ofBody (body : List Char) : BodyContent :=
  ofLines (BodyLine.ofBody body)

/-- Number of lines of all sorts together. -/
def size (content : BodyContent) : Nat :=
  content.columns.length + content.constraintLines.length + content.unmatchedLines.length

theorem size_insert (line : BodyLine) (content : BodyContent) :
    (insert line content).size = content.size + 1 := by
  unfold insert size
  split
  · simp only [List.length_cons]
    omega
  · split <;> simp only [List.length_cons] <;> omega

theorem ofLines_cons (line : BodyLine) (rest : List BodyLine) :
    ofLines (line :: rest) = insert line (ofLines rest) :=
  List.foldr_cons ..

/-- Every line is of exactly one sort. -/
theorem size_ofLines (lines : List BodyLine) : (ofLines lines).size = lines.length := by
  induction lines with
  | nil => rfl
  | cons line rest ih =>
    rw [ofLines_cons, size_insert, ih, List.length_cons]

end BodyContent
end Sql
end SchemaScaffold
