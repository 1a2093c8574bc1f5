import SchemaScaffold.Proofs.Artifact.SampleBody

/-!
# Columns that schemas list

If no keys clash, the OpenAPI document has two schemas and two paths for each table, in the order of
the tables. The schema of a row lists all columns, and that of the input those that clients send,
with the types of their definitions. The names that it requires are taken from its properties in
their order. The flags of a column count as they are, whatever its definition says.
-/

namespace SchemaScaffold
namespace OpenApi

open Document (ofEntries)

/-- The names of the schemas that tables need, behind that for errors. -/
def schemaNames (tables : List Table) : List String :=
  "ErrorResponse" :: tables.flatMap fun table =>
    [table.entityNames.pascal, table.entityNames.pascal ++ "Input"]

/-- The paths of tables, behind that for the backend's health. -/
def pathNames (tables : List Table) : List String :=
  "/health" :: tables.flatMap fun table =>
    ["/" ++ table.name, String.join ["/", table.name, "/\x7bid\x7d"]]

/-- No two schemas, no two paths and no two columns of one table have the same key. -/
structure HasDistinctKeys (schema : Schema) : Prop where
  schemas : (schemaNames schema.tables).Nodup
  paths : (pathNames schema.tables).Nodup
  columns : ∀ table ∈ schema.tables, (table.columns.map (·.name)).Nodup

theorem map_fst_schemaEntries (schema : Schema) :
    (schemaEntries schema).map (·.1) = schemaNames schema.tables := by
  simp only [schemaEntries, List.map_cons, List.map_flatMap]
  rfl

theorem map_fst_pathEntries (schema : Schema) :
    (pathEntries schema).map (·.1) = pathNames schema.tables := by
  simp only [pathEntries, List.map_cons, List.map_flatMap]
  rfl

theorem length_schemaNames (tables : List Table) :
    (schemaNames tables).length = 2 * tables.length + 1 := by
  simp [schemaNames, Nat.mul_comm]

/-- The two schemas of a table are found under its names. -/
theorem lookup_tableSchemas {schema : Schema} (distinct : HasDistinctKeys schema) {table : Table}
    (isTable : table ∈ schema.tables) :
    (schemaEntries schema).lookup table.entityNames.pascal = some (entitySchema table).2 ∧
      (schemaEntries schema).lookup (table.entityNames.pascal ++ "Input") =
        some (inputSchema table).2 := by
  have keys : ((schemaEntries schema).map (·.1)).Nodup :=
    map_fst_schemaEntries schema ▸ distinct.schemas
  have found {entry : String × Document} (own : entry ∈ tableSchemas table) :
      (schemaEntries schema).lookup entry.1 = some entry.2 := by
    have member : entry ∈ schemaEntries schema :=
      List.mem_cons_of_mem _ (List.mem_flatMap.2 ⟨table, isTable, own⟩)
    rw [← Document.member?_record, ← Document.ofEntries_of_nodup keys, Document.member?_ofEntries]
    exact Document.lookup_reverse_of_nodup [] keys member
  have row : (schemaEntries schema).lookup (entitySchema table).1 =
      some (entitySchema table).2 := found List.mem_cons_self
  have input : (schemaEntries schema).lookup (inputSchema table).1 =
      some (inputSchema table).2 := found (List.mem_cons_of_mem _ List.mem_cons_self)
  exact ⟨row, input⟩

/-- The columns that the database neither numbers nor stamps with the time. -/
def sentColumns (table : Table) : List Column :=
  table.columns.filter fun column => !column.isAutoIncrement &&
    !(column.hasDefault && Column.mentions "CURRENT_TIMESTAMP" column.definition)

/-- The columns among them that may not be missing and have no default. -/
def demandedColumns (table : Table) : List Column :=
  (sentColumns table).filter fun column => !column.isNullable && !column.hasDefault

theorem inputColumns_eq (table : Table) : table.inputColumns = sentColumns table := rfl

theorem requiredColumns_eq (table : Table) : requiredColumns table = demandedColumns table := by
  refine List.filter_congr fun column isInput => ?_
  have sent : column.isInput = true := (List.mem_filter.1 isInput).2
  simp [Column.isRequiredInput, sent]

theorem demandedColumns_ne_nil_iff {table : Table} :
    demandedColumns table ≠ [] ↔ ∃ column ∈ table.columns, column.isRequiredInput = true := by
  rw [← requiredColumns_eq]
  constructor
  · intro given
    obtain ⟨column, member⟩ := List.exists_mem_of_ne_nil _ given
    obtain ⟨isInput, isRequired⟩ := List.mem_filter.1 member
    exact ⟨column, (List.mem_filter.1 isInput).1, isRequired⟩
  · rintro ⟨column, member, isRequired⟩
    have isInput : column ∈ table.inputColumns :=
      List.mem_filter.2 ⟨member, Column.isInput_of_isRequiredInput isRequired⟩
    exact List.ne_nil_of_mem (List.mem_filter.2 ⟨isInput, isRequired⟩)

/-- A property is described as a column is: under the column's name, with the type and the format
of its definition and nothing else. -/
structure IsPropertyOf (property : String × Document) (column : Column) : Prop where
  name : property.1 = column.name
  type : property.2.member? "type" =
    some (.text (FieldType.ofDefinition column.definition).kind.word)
  format : property.2.member? "format" =
    (FieldType.ofDefinition column.definition).format.map .text
  keys : property.2.keys ⊆ ["type", "format"]

theorem isPropertyOf_columnProperty (column : Column) :
    IsPropertyOf (columnProperty column) column := by
  cases own : (FieldType.ofDefinition column.definition).format with
  | none => constructor <;> simp [columnProperty, own, Document.optionalText, List.lookup_cons]
  | some word => constructor <;> simp [columnProperty, own, Document.optionalText, List.lookup_cons]

/-- The properties of a schema are those of columns, in order. -/
def ListsColumns (schema : Document) (columns : List Column) : Prop :=
  ∃ properties, schema.member? "properties" = some (.record properties) ∧
    List.Forall₂ IsPropertyOf properties columns

theorem listsColumns_of_distinct {schema : Document} {columns : List Column}
    (distinct : (columns.map (·.name)).Nodup)
    (found : schema.member? "properties" = some (ofEntries (columns.map columnProperty))) :
    ListsColumns schema columns := by
  have keys : ((columns.map columnProperty).map (·.1)).Nodup := by
    simpa [Function.comp_def, columnProperty] using distinct
  refine ⟨columns.map columnProperty, by rw [found, Document.ofEntries_of_nodup keys], ?_⟩
  rw [List.forall₂_map_left_iff, List.forall₂_same]
  exact fun column _ => isPropertyOf_columnProperty column

theorem ListsColumns.propertyNames_eq {schema : Document} {columns : List Column}
    (lists : ListsColumns schema columns) : propertyNames schema = columns.map (·.name) := by
  obtain ⟨properties, found, described⟩ := lists
  have names : properties.map (·.1) = columns.map (·.name) := by
    clear found
    induction described with
    | nil => rfl
    | cons own _ ih => rw [List.map_cons, List.map_cons, own.name, ih]
  simp [propertyNames, found, names]

/-- A schema describes what clients send for a table: it lists the columns that they send, and of
these it requires the demanded ones in the order in which they are listed, if there are any. -/
structure DescribesInput (schema : Document) (table : Table) : Prop where
  properties : ListsColumns schema (sentColumns table)
  present : (schema.member? "required").isSome = true ↔
    ∃ column ∈ table.columns, column.isRequiredInput = true
  required : schema.member? "required" = none ∨
    schema.member? "required" = some (Document.texts ((demandedColumns table).map (·.name)))
  ordered : ((demandedColumns table).map (·.name)).Sublist (propertyNames schema)

theorem member?_required_inputSchema (table : Table) :
    (inputSchema table).2.member? "required" =
      if demandedColumns table = [] then none
      else some (Document.texts ((demandedColumns table).map (·.name))) := by
  rw [inputSchema, requiredColumns_eq]
  cases demandedColumns table <;> simp [List.lookup_cons]

theorem describesInput_inputSchema {table : Table}
    (distinct : (table.columns.map (·.name)).Nodup) :
    DescribesInput (inputSchema table).2 table := by
  have sent : (table.inputColumns.map (·.name)).Nodup :=
    distinct.sublist (List.filter_sublist.map _)
  have lists : ListsColumns (inputSchema table).2 (sentColumns table) :=
    listsColumns_of_distinct sent (by simp [inputSchema, List.lookup_cons, inputColumns_eq])
  refine ⟨lists, ?_, ?_, ?_⟩
  · rw [← demandedColumns_ne_nil_iff, member?_required_inputSchema]
    split <;> simp_all
  · rw [member?_required_inputSchema]
    split <;> simp
  · rw [lists.propertyNames_eq]
    exact List.filter_sublist.map _

/-- If no keys clash, the paths and the schemas of the document are those of the tables, in their
order. The schema of each table lists all its columns, and that of its input those that clients
send, of which it requires those that may not be missing and have no default. -/
theorem columns_are_listed {schema : Schema} (distinct : HasDistinctKeys schema)
    (settings : ApiSettings) :
    ∃ paths schemas,
      (document schema settings).member? "paths" = some (.record paths) ∧
      paths.map (·.1) = pathNames schema.tables ∧
      (document schema settings).follow? ["components", "schemas"] = some (.record schemas) ∧
      schemas.map (·.1) = schemaNames schema.tables ∧
      schemas.length = 2 * schema.tables.length + 1 ∧
      ∀ table ∈ schema.tables,
        (∃ row, schemas.lookup table.entityNames.pascal = some row ∧
          ListsColumns row table.columns) ∧
        ∃ input, schemas.lookup (table.entityNames.pascal ++ "Input") = some input ∧
          DescribesInput input table := by
  have schemaKeys := map_fst_schemaEntries schema
  have pathKeys := map_fst_pathEntries schema
  have isSchemas : ofEntries (schemaEntries schema) = .record (schemaEntries schema) :=
    Document.ofEntries_of_nodup (schemaKeys ▸ distinct.schemas)
  have isPaths : ofEntries (pathEntries schema) = .record (pathEntries schema) :=
    Document.ofEntries_of_nodup (pathKeys ▸ distinct.paths)
  refine ⟨pathEntries schema, schemaEntries schema, ?_, pathKeys, ?_, schemaKeys, ?_,
    fun table isTable => ?_⟩
  · rw [member?_document_paths, isPaths]
  · rw [← isSchemas]
    simp [document, List.lookup_cons]
  · rw [← length_schemaNames, ← schemaKeys, List.length_map]
  · obtain ⟨row, input⟩ := lookup_tableSchemas distinct isTable
    have names := distinct.columns table isTable
    have listed : ListsColumns (entitySchema table).2 table.columns :=
      listsColumns_of_distinct names (by simp [entitySchema, List.lookup_cons])
    exact ⟨⟨_, row, listed⟩, _, input, describesInput_inputSchema names⟩

/-- A table whose columns are flagged against their definitions: no default for the second one, and
no value that must be there for the third. -/
def flaggedUsers : Table :=
  ⟨"users", [Column.ofDefinition "id" "INT AUTO_INCREMENT",
    ⟨"seen", "TIMESTAMP DEFAULT CURRENT_TIMESTAMP", false, false, false⟩,
    ⟨"name", "TEXT NOT NULL", false, true, false⟩]⟩

/-- The table together with another one. -/
def flaggedSchema : Schema :=
  ⟨none, [flaggedUsers, ⟨"notes", [Column.ofDefinition "day" "DATE NOT NULL"]⟩]⟩

/-- What the flags say is required, not what the definitions do. -/
theorem flagged_columns_are_listed :
    HasDistinctKeys flaggedSchema ∧ ∃ schemas,
      (document flaggedSchema {}).follow? ["components", "schemas"] = some (.record schemas) ∧
      schemas.map (·.1) = ["ErrorResponse", "User", "UserInput", "Note", "NoteInput"] ∧
      ∃ input, schemas.lookup "UserInput" = some input ∧
        propertyNames input = ["seen", "name"] ∧
        input.member? "required" = some (Document.texts ["seen"]) := by
  have names : schemaNames flaggedSchema.tables =
      ["ErrorResponse", "User", "UserInput", "Note", "NoteInput"] := by
    decide
  have distinct : HasDistinctKeys flaggedSchema := by
    constructor
    · rw [names]
      decide
    · decide
    · decide
  have sent : (sentColumns flaggedUsers).map (·.name) = ["seen", "name"] := by
    decide
  have demanded : (demandedColumns flaggedUsers).map (·.name) = ["seen"] := by
    decide
  have key : flaggedUsers.entityNames.pascal ++ "Input" = "UserInput" := by
    decide
  obtain ⟨-, schemas, -, -, found, keys, -, tables⟩ := columns_are_listed distinct {}
  obtain ⟨-, input, isInput, describes⟩ := tables flaggedUsers List.mem_cons_self
  refine ⟨distinct, schemas, found, keys.trans names, input, key ▸ isInput, ?_, ?_⟩
  · rw [describes.properties.propertyNames_eq, sent]
  · have given : (input.member? "required").isSome = true :=
      describes.present.2 (by decide)
    rcases describes.required with absent | required
    · simp [absent] at given
    · rwa [demanded] at required

end OpenApi
end SchemaScaffold
