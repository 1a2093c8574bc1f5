import SchemaScaffold.Sql.ColumnLine

/-!
# What becomes of lines

Each line of a table's body is used in one of three ways, which its own text decides. Sorting the
lines of a body puts each with those of its use.
-/

namespace SchemaScaffold
namespace Sql

/-- What a line of a body becomes. -/
inductive LineUse where
  | column (declared : Column)
  /-- A key or constraint, which is counted. -/
  | constraint
  /-- A candidate without the shape of a column, which is reported. -/
  | dropped
deriving DecidableEq, Repr

def LineUse.column? : LineUse → Option Column
  | column declared => some declared
  | constraint => none
  | dropped => none

/-- A line is used by its kind, and a candidate by its shape. -/
def BodyLine.use (line : BodyLine) : LineUse :=
  match kind line.text.toList, ColumnLine.parse line.text.toList with
  | .constraint _, _ => .constraint
  | .candidate, some column => .column column
  | .candidate, none => .dropped

theorem BodyLine.of_use_column {line : BodyLine} {column : Column}
    (used : line.use.column? = some column) :
    ColumnLine.parse line.text.toList = some column := by
  unfold use at used
  split at used
  · simp [LineUse.column?] at used
  · next declared _ shape => rw [shape, ← used, LineUse.column?]
  · simp [LineUse.column?] at used

theorem BodyLine.of_use_eq_dropped {line : BodyLine} (dropped : line.use = .dropped) :
    kind line.text.toList = .candidate ∧ ColumnLine.parse line.text.toList = none := by
  unfold use at dropped
  split at dropped
  · simp at dropped
  · simp at dropped
  · next isCandidate noColumn => exact ⟨isCandidate, noColumn⟩

/-- The place of a line is its number among the lines that are not blank. -/
theorem BodyLine.getElem?_texts_of_mem_ofBody {body : List Char} {line : BodyLine}
    (member : line ∈ ofBody body) : (texts body)[line.index]? = some line.text.toList := by
  obtain ⟨⟨text, index⟩, isPair, rfl⟩ := List.mem_map.1 member
  simpa using List.mem_zipIdx_iff_getElem?.1 isPair

/-- Sorting lines puts each with those of its use. -/
theorem BodyContent.ofLines_eq (lines : List BodyLine) :
    ofLines lines =
      ⟨lines.filterMap (·.use.column?), lines.filter (·.use = .constraint),
        lines.filter (·.use = .dropped)⟩ := by
  induction lines with
  | nil => rfl
  | cons line rest ih =>
    rw [ofLines_cons, ih, insert]
    cases sort : BodyLine.kind line.text.toList with
    | constraint word =>
      have own : line.use = .constraint := by simp [BodyLine.use, sort]
      simp [own, LineUse.column?]
    | candidate =>
      cases declared : ColumnLine.parse line.text.toList with
      | some column =>
        have own : line.use = .column column := by simp [BodyLine.use, sort, declared]
        simp [own, LineUse.column?]
      | none =>
        have own : line.use = .dropped := by simp [BodyLine.use, sort, declared]
        simp [own, LineUse.column?]

end Sql
end SchemaScaffold
