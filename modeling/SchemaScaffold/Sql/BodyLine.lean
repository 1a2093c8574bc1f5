import SchemaScaffold.Text.Blank
import SchemaScaffold.Text.LetterCase
import SchemaScaffold.Text.Split

/-!
# Lines of a table body

The lines of a body that are not blank, and the keys and constraints among them.
-/

namespace SchemaScaffold
namespace Sql

open Text

/-- A line without the blanks around it. -/
structure BodyLine where
  /-- Position among the lines that are kept, from zero. -/
  index : Nat
  text : String
deriving DecidableEq, Repr

/-- The openings that mark a line as a key or a constraint. -/
inductive ConstraintWord where
  | primaryKey
  | uniqueKey
  | key
  | constraint
deriving DecidableEq, Repr

namespace ConstraintWord

/-- The opening in capitals; a blank ends `KEY`, so that a column may be called `key_name`. -/
def text : ConstraintWord → String
  | primaryKey => "PRIMARY KEY"
  | uniqueKey => "UNIQUE KEY"
  | key => "KEY "
  | constraint => "CONSTRAINT"

/-- The openings in the order in which they are tried. -/
def all : List ConstraintWord := [primaryKey, uniqueKey, key, constraint]

theorem mem_all (word : ConstraintWord) : word ∈ all := by
  cases word <;> simp [all]

end ConstraintWord

/-- What a line of a body may be. -/
inductive LineKind where
  /-- A key or constraint, which never declares a column. -/
  | constraint (word : ConstraintWord)
  /-- Anything else, which declares a column if it has the shape of one. -/
  | candidate
deriving DecidableEq, Repr

namespace BodyLine

/-- The texts of the lines that are not blank. -/
def texts (body : List Char) : List (List Char) :=
  ((splitOn '\n' body).map trim).filter fun line => !line.isEmpty

/-- The lines of a body. -/
def ofBody (body : List Char) : List BodyLine :=
  (texts body).zipIdx.map fun (line, index) => ⟨index, String.ofList line⟩

/-- The kind of a line, by its opening in any case. -/
def kind (line : List Char) : LineKind :=
  let upper := asciiUpper (trim line)
  match ConstraintWord.all.find? (·.text.toList.isPrefixOf upper) with
  | some word => .constraint word
  | none => .candidate

@[simp] theorem length_ofBody (body : List Char) :
    (ofBody body).length = (texts body).length := by
  simp [ofBody]

end BodyLine
end Sql
end SchemaScaffold
