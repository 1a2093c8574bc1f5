import SchemaScaffold.Proofs.Sql.ColumnShape
import SchemaScaffold.Proofs.Sql.LineUse

/-!
# Declared columns

Whether a line declares a column is decided by its own text, and the blanks around it do not
count. The columns of a body are those that its lines declare, in order, and their names repeat
exactly if two lines declare the same one.
-/

namespace SchemaScaffold
namespace Sql

open Text

namespace ColumnLine

/-- The column that a line of a body declares, unless it is a key or a constraint. -/
def declared? (line : List Char) : Option Column :=
  match BodyLine.kind line with
  | .constraint _ => none
  | .candidate => parse line

theorem declared?_eq_some_iff {line : List Char} {column : Column} :
    declared? line = some column ↔
      BodyLine.kind line = .candidate ∧ parse line = some column := by
  unfold declared?
  cases BodyLine.kind line <;> simp

@[simp] theorem declared?_trim (line : List Char) : declared? (trim line) = declared? line := by
  simp only [declared?, BodyLine.kind, parse, trim_trim]

end ColumnLine

theorem BodyLine.use_column? (line : BodyLine) :
    line.use.column? = ColumnLine.declared? line.text.toList := by
  unfold use ColumnLine.declared?
  cases kind line.text.toList with
  | constraint word => rfl
  | candidate => cases ColumnLine.parse line.text.toList <;> rfl

/-- The columns of a body are those that its lines declare. -/
theorem columns_ofBody (body : List Char) : (BodyContent.ofBody body).columns =
    (BodyLine.texts body).filterMap ColumnLine.declared? := by
  have use : (fun line : BodyLine => line.use.column?) ∘
      (fun numbered : List Char × Nat => ⟨numbered.2, String.ofList numbered.1⟩) =
        ColumnLine.declared? ∘ Prod.fst := by
    funext numbered
    simp [BodyLine.use_column?]
  rw [BodyContent.ofBody, BodyContent.ofLines_eq, BodyLine.ofBody]
  dsimp only
  rw [List.filterMap_map, use, ← List.filterMap_map, List.zipIdx_map_fst]

/-- The pieces between line feeds may be taken for the lines: blank pieces declare nothing. -/
theorem columns_ofBody_eq_splitOn (body : List Char) : (BodyContent.ofBody body).columns =
    (splitOn '\n' body).filterMap ColumnLine.declared? := by
  have own (line : List Char) : (if (!(trim line).isEmpty) = true then
      ColumnLine.declared? (trim line) else none) = ColumnLine.declared? line := by
    by_cases blank : trim line = []
    · rw [← ColumnLine.declared?_trim line, blank]
      rfl
    · simp [blank]
  rw [columns_ofBody, BodyLine.texts, List.filterMap_filter, List.filterMap_map]
  exact List.filterMap_congr fun line _ => own line

namespace ColumnLine

/-- A line declares a column of a name: it is no key or constraint, and it has the shape of a
column. -/
def DeclaresName (name line : List Char) : Prop :=
  BodyLine.kind line = .candidate ∧ ∃ rest, HasShape (trim line) name rest

/-- Two lines declare no name in common. -/
def DeclareApart (first second : List Char) : Prop :=
  ∀ name, DeclaresName name first → ¬ DeclaresName name second

theorem declaresName_iff {name line : List Char} : DeclaresName name line ↔
    ∃ column, declared? line = some column ∧ column.name.toList = name := by
  constructor
  · rintro ⟨isCandidate, rest, shape⟩
    have read := parse_of_shape shape (losesComma_iff.2 rfl)
    exact ⟨_, declared?_eq_some_iff.2 ⟨isCandidate, read⟩, String.toList_ofList⟩
  · rintro ⟨column, declared, rfl⟩
    obtain ⟨isCandidate, read⟩ := declared?_eq_some_iff.1 declared
    obtain ⟨name, rest, kept, shape, -, rfl⟩ := shape_of_parse read
    exact ⟨isCandidate, rest, by simpa using shape⟩

theorem declareApart_iff {first second : List Char} : DeclareApart first second ↔
    ∀ column, declared? first = some column → ∀ other, declared? second = some other →
      column.name ≠ other.name := by
  simp only [DeclareApart, declaresName_iff, not_exists, not_and]
  constructor
  · intro apart column declared other declaresOther same
    exact apart column.name.toList ⟨column, declared, rfl⟩ other declaresOther
      (congrArg String.toList same).symm
  · rintro apart _ ⟨column, declared, rfl⟩ other declaresOther same
    exact apart column declared other declaresOther (String.toList_inj.1 same.symm)

end ColumnLine

/-- The columns of a body have different names exactly if no two lines declare the same one. -/
theorem nodup_names_iff (body : List Char) :
    ((BodyContent.ofBody body).columns.map (·.name)).Nodup ↔
      (BodyLine.texts body).Pairwise ColumnLine.DeclareApart := by
  rw [columns_ofBody, List.Nodup, List.pairwise_map, List.pairwise_filterMap]
  exact List.Pairwise.iff fun _ _ => ColumnLine.declareApart_iff.symm

end Sql
end SchemaScaffold
