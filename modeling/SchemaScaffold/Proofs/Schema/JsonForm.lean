import SchemaScaffold.Proofs.Json.Shape
import SchemaScaffold.Schema.Format

/-!
# Schemas in JSON

A schema that is written in JSON is read back as it was, whatever its names, definitions and flags
are.
-/

namespace SchemaScaffold

open Json (Value IsWritable)
open Json.Value (fields_ofDocument_record mapM_ofItems)

theorem isWritable_column (column : Column) : IsWritable column.toDocument :=
  .record (by simp [IsWritable.text, IsWritable.bool])

theorem isWritable_table (table : Table) : IsWritable table.toDocument := by
  have columns : IsWritable (.list (table.columns.map (·.toDocument))) :=
    .list (List.forall_mem_map.2 fun column _ => isWritable_column column)
  exact .record (by simp [IsWritable.text, columns])

theorem isWritable_schema (schema : Schema) : IsWritable schema.toDocument := by
  have tables : IsWritable (.list (schema.tables.map (·.toDocument))) :=
    .list (List.forall_mem_map.2 fun table _ => isWritable_table table)
  refine .record ?_
  cases schema.database <;> simp [Document.optionalText, IsWritable.text, tables]

theorem Column.ofJson?_toDocument (column : Column) :
    Column.ofJson? (Value.ofDocument column.toDocument) = some column := by
  unfold Column.ofJson? Column.toDocument
  rw [fields_ofDocument_record _ (by simp)]
  simp [List.lookup_cons, Value.ofDocument, Value.asText?, Value.asBool?]

theorem Table.ofJson?_toDocument (table : Table) :
    Table.ofJson? (Value.ofDocument table.toDocument) = some table := by
  have columns : (Value.ofItems (table.columns.map (·.toDocument))).mapM Column.ofJson? =
      some table.columns :=
    mapM_ofItems fun column _ => column.ofJson?_toDocument
  unfold Table.ofJson? Table.toDocument
  rw [fields_ofDocument_record _ (by simp)]
  simp [List.lookup_cons, Value.ofDocument, Value.asText?, Value.asList?, columns]

theorem Schema.ofJson?_toDocument (schema : Schema) :
    Schema.ofJson? (Value.ofDocument schema.toDocument) = some schema := by
  obtain ⟨database, tables⟩ := schema
  have read : (Value.ofItems (tables.map (·.toDocument))).mapM Table.ofJson? = some tables :=
    mapM_ofItems fun table _ => table.ofJson?_toDocument
  unfold Schema.ofJson? Schema.toDocument
  cases database with
  | none =>
    rw [fields_ofDocument_record _ (by simp [Document.optionalText])]
    simp [Document.optionalText, List.lookup_cons, Value.ofDocument, Value.asList?, read]
  | some name =>
    rw [fields_ofDocument_record _ (by simp [Document.optionalText])]
    simp [Document.optionalText, List.lookup_cons, Value.ofDocument, Value.asText?,
      Value.asOptionalText?, Value.asList?, read]

end SchemaScaffold
