import SchemaScaffold.Proofs.Schema.EntityNames
import SchemaScaffold.Proofs.Sql.LineUse
import SchemaScaffold.Proofs.Text.Searching
import SchemaScaffold.Sql.Parse

/-!
# Names in parsed schemas

Every table of a parsed schema has a name, made of the characters of names, and no two tables of
a schema have the same name. Every column was read from a line of its table's body, and its name is
made of ASCII letters, digits and underscores.
-/

namespace SchemaScaffold
namespace Sql

open Text

namespace TableStatement

/-- The name of a statement is a name. -/
theorem name_of_nameAndBody {text after : List Char} {statement : TableStatement}
    (found : nameAndBody text = some (statement, after)) :
    statement.name ≠ "" ∧ IsNameText statement.name.toList := by
  obtain ⟨⟨name, rest⟩, spaced, bodied⟩ := Option.bind_eq_some_iff.1 found
  obtain ⟨⟨inside, last⟩, -, shape⟩ := Option.map_eq_some_iff.1 bodied
  obtain ⟨behind, -, quoted⟩ := Option.bind_eq_some_iff.1 spaced
  obtain ⟨⟨word, tail⟩, ran, wordShape⟩ := Option.map_eq_some_iff.1 quoted
  obtain ⟨nonempty, -, named⟩ := run_eq_some ran
  obtain ⟨rfl, -⟩ : word = name ∧ skipBacktick tail = rest := by simpa using wordShape
  obtain ⟨rfl, -⟩ : (⟨String.ofList word, String.ofList inside⟩ : TableStatement) = statement ∧
      last = after := by simpa using shape
  exact ⟨by simpa using nonempty, by simpa [IsNameText] using named⟩

theorem name_of_mem_all {text : List Char} {statement : TableStatement}
    (member : statement ∈ all text) :
    statement.name ≠ "" ∧ IsNameText statement.name.toList := by
  obtain ⟨tail, rest, found⟩ := exists_read_of_mem_scanFrom member
  obtain ⟨behind, -, chosen⟩ := Option.bind_eq_some_iff.1 found
  rcases Option.or_eq_some_iff.1 chosen with guarded | ⟨-, plain⟩
  · obtain ⟨further, -, named⟩ := Option.bind_eq_some_iff.1 guarded
    exact name_of_nameAndBody named
  · exact name_of_nameAndBody plain

end TableStatement

/-- The statements that are kept are statements of the text with names of their own. -/
theorem firstDeclarations_kept (seen : List String) (statements : List TableStatement) :
    (firstDeclarations seen statements).1 ⊆ statements ∧
      ((firstDeclarations seen statements).1.map (·.name)).Nodup ∧
      ∀ statement ∈ (firstDeclarations seen statements).1, statement.name ∉ seen := by
  induction statements generalizing seen with
  | nil => simp [firstDeclarations]
  | cons statement rest ih =>
    simp only [firstDeclarations]
    split
    · obtain ⟨within, nodup, fresh⟩ := ih seen
      exact ⟨fun other member => List.mem_cons_of_mem _ (within member), nodup, fresh⟩
    · next unseen =>
      obtain ⟨within, nodup, fresh⟩ := ih (statement.name :: seen)
      refine ⟨List.cons_subset_cons statement within, ?_, ?_⟩
      · rw [List.map_cons, List.nodup_cons]
        refine ⟨?_, nodup⟩
        intro repeated
        obtain ⟨other, member, same⟩ := List.mem_map.1 repeated
        exact fresh other member (by simp [same])
      · intro other member
        rcases List.mem_cons.1 member with rfl | later
        · simpa using unseen
        · exact fun known => fresh other later (List.mem_cons_of_mem _ known)

/-- Every table of a parsed schema has a name, of the characters of names. -/
theorem name_of_mem_parse {sql : String} {table : Table} (member : table ∈ (parse sql).tables) :
    table.name ≠ "" ∧ IsNameText table.name.toList := by
  obtain ⟨statement, kept, rfl⟩ := List.mem_map.1 member
  exact TableStatement.name_of_mem_all
    ((firstDeclarations_kept [] (TableStatement.all sql.toList)).1 kept)

/-- No two tables of a parsed schema have the same name. -/
theorem nodup_tableNames_parse (sql : String) : (parse sql).tableNames.Nodup := by
  have nodup := (firstDeclarations_kept [] (TableStatement.all sql.toList)).2.1
  simpa [Schema.tableNames, parse, parseWithReport, TableStatement.table, Function.comp_def]
    using nodup

namespace ColumnLine

/-- The name that a line declares is a name. -/
theorem name_of_parse {line : List Char} {column : Column} (read : parse line = some column) :
    column.name ≠ "" ∧ ∀ c ∈ column.name.toList, isNameChar c = true := by
  obtain ⟨⟨word, rest⟩, ran, shape⟩ := Option.bind_eq_some_iff.1 read
  obtain ⟨text, -, declared⟩ := Option.bind_eq_some_iff.1 shape
  obtain ⟨nonempty, -, named⟩ := run_eq_some ran
  dsimp only at declared
  split at declared
  · simp at declared
  · obtain rfl := Option.some.inj declared
    exact ⟨by simpa using nonempty, by simpa using named⟩

end ColumnLine

/-- Every column of a body was read from one of its lines. -/
theorem exists_line_of_mem_columns {lines : List BodyLine} {column : Column}
    (member : column ∈ (BodyContent.ofLines lines).columns) :
    ∃ line ∈ lines, ColumnLine.parse line.text.toList = some column := by
  rw [BodyContent.ofLines_eq] at member
  obtain ⟨line, isLine, used⟩ := List.mem_filterMap.1 member
  exact ⟨line, isLine, BodyLine.of_use_column used⟩

/-- Every column of a parsed table has a name of its own characters. -/
theorem name_of_mem_columns {sql : String} {table : Table} (isTable : table ∈ (parse sql).tables)
    {column : Column} (isColumn : column ∈ table.columns) :
    column.name ≠ "" ∧ ∀ c ∈ column.name.toList, ColumnLine.isNameChar c = true := by
  obtain ⟨statement, -, rfl⟩ := List.mem_map.1 isTable
  obtain ⟨line, -, read⟩ := exists_line_of_mem_columns isColumn
  exact ColumnLine.name_of_parse read

end Sql
end SchemaScaffold
