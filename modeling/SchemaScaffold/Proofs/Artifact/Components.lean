import SchemaScaffold.Proofs.Artifact.OpenApiPaths

/-!
# Components of the OpenAPI document

The requests of a table refer to the schema of its input by name. Two tables may define schemas
under one name, and a table may define one under the name of the schema for errors: the last
definition of a name is the one that the document has, for all that refer to the name.
-/

namespace SchemaScaffold
namespace OpenApi

open Document (ofEntries)

/-- What the body of a request refers to. -/
def requestReference? (path method : String) (document : Document) : Option Document :=
  document.follow? ["paths", path, method, "requestBody", "content", "application/json",
    "schema", Document.referenceKey]

/-- The names of a schema's properties, in order. -/
def propertyNames (schema : Document) : List String :=
  ((schema.member? "properties").map Document.keys).getD []

theorem propertyNames_entitySchema (table : Table) :
    propertyNames (entitySchema table).2 = (table.columns.map (·.name)).eraseDups := by
  simp [propertyNames, entitySchema, columnProperty, List.lookup_cons, Function.comp_def]

theorem propertyNames_inputSchema (table : Table) :
    propertyNames (inputSchema table).2 = (table.inputColumns.map (·.name)).eraseDups := by
  simp [propertyNames, inputSchema, columnProperty, List.lookup_cons, Function.comp_def]

/-- The schemas that a table defines. -/
def tableSchemas (table : Table) : List (String × Document) :=
  [entitySchema table, inputSchema table]

theorem schemaEntries_eq (schema : Schema) :
    schemaEntries schema = errorSchema :: schema.tables.flatMap tableSchemas := rfl

/-- A table defines a schema under a name. -/
def Defines (name : String) (table : Table) : Prop :=
  table.entityNames.pascal = name ∨ inputName table.entityNames.pascal = name

instance (name : String) (table : Table) : Decidable (Defines name table) :=
  inferInstanceAs (Decidable (_ ∨ _))

/-- What tables define under a name: the last definition counts. -/
def lastDefinition? (name : String) (tables : List Table) : Option Document :=
  (tables.flatMap tableSchemas).reverse.lookup name

theorem mem_keys_tableSchemas {name : String} {table : Table} :
    name ∈ (tableSchemas table).map (·.1) ↔ Defines name table := by
  simp only [tableSchemas, entitySchema, inputSchema, Defines, List.map_cons, List.map_nil,
    List.mem_cons, List.not_mem_nil, or_false, eq_comm]

theorem lastDefinition?_eq_none_iff {name : String} {tables : List Table} :
    lastDefinition? name tables = none ↔ ∀ table ∈ tables, ¬ Defines name table := by
  simp only [← mem_keys_tableSchemas, lastDefinition?, List.lookup_eq_none_iff, List.mem_reverse,
    List.mem_flatMap, bne_iff_ne, List.mem_map]
  constructor
  · rintro apart table isTable ⟨entry, isSchema, same⟩
    exact apart entry ⟨table, isTable, isSchema⟩ same.symm
  · rintro apart entry ⟨table, isTable, isSchema⟩ same
    exact apart table isTable ⟨entry, isSchema, same.symm⟩

theorem lastDefinition?_append (name : String) (before after : List Table) :
    lastDefinition? name (before ++ after) =
      (lastDefinition? name after).or (lastDefinition? name before) := by
  simp [lastDefinition?, List.lookup_append]

/-- The name of an entity is not that of its input. -/
theorem ne_inputName (entity : String) : entity ≠ inputName entity := by
  intro same
  have lengths := congrArg String.length same
  simp [inputName] at lengths

section Split

variable (before after : List Table) (table : Table)

/-- The schema of an entity is that of its table, or of a later table that has the name. -/
theorem lastDefinition?_entity :
    lastDefinition? table.entityNames.pascal (before ++ table :: after) =
      some ((lastDefinition? table.entityNames.pascal after).getD (entitySchema table).2) := by
  have own : lastDefinition? table.entityNames.pascal [table] = some (entitySchema table).2 := by
    have shape : [table].flatMap tableSchemas = [] ++ entitySchema table :: [inputSchema table] :=
      rfl
    rw [lastDefinition?, shape]
    exact Document.lookup_reverse_of_last [] (entitySchema table) (by
      simpa [entitySchema, inputSchema] using ne_inputName table.entityNames.pascal)
  rw [List.append_cons, lastDefinition?_append, lastDefinition?_append, own]
  cases lastDefinition? table.entityNames.pascal after <;> rfl

/-- The schema of an input is that of its table, or of a later table that has the name. -/
theorem lastDefinition?_input :
    lastDefinition? (inputName table.entityNames.pascal) (before ++ table :: after) =
      some ((lastDefinition? (inputName table.entityNames.pascal) after).getD
        (inputSchema table).2) := by
  have own : lastDefinition? (inputName table.entityNames.pascal) [table] =
      some (inputSchema table).2 := by
    have shape : [table].flatMap tableSchemas = [entitySchema table] ++ [inputSchema table] := rfl
    rw [lastDefinition?, shape]
    exact Document.lookup_reverse_of_last [entitySchema table] (inputSchema table) List.not_mem_nil
  rw [List.append_cons, lastDefinition?_append, lastDefinition?_append, own]
  cases lastDefinition? (inputName table.entityNames.pascal) after <;> rfl

end Split

section References

variable {sql : String} {table : Table} (schema : Schema) (settings : ApiSettings)

/-- The text of a reference joins the keys under which the schema stands. -/
theorem intercalate_eq_schemaRef (name : String) :
    String.intercalate "/" ["#", "components", "schemas", name] = schemaRef name := by
  have front : "#" ++ "/" ++ "components" ++ "/" ++ "schemas" ++ "/" = "#/components/schemas/" := by
    decide
  calc String.intercalate "/" ["#", "components", "schemas", name]
      = "#" ++ "/" ++ "components" ++ "/" ++ "schemas" ++ "/" ++ name := by
        simp only [String.intercalate_cons_cons, String.intercalate_singleton,
          String.append_assoc]
    _ = schemaRef name := congrArg (· ++ name) front

/-- A reference to a schema leads to the last definition of its name. -/
theorem resolve?_schemaRef {name : String} (plain : '/' ∉ name.toList) :
    (document schema settings).resolve? (.text (schemaRef name)) =
      (lastDefinition? name schema.tables).or ([errorSchema].lookup name) := by
  have free : ∀ key ∈ ["components", "schemas", name], '/' ∉ key.toList :=
    List.forall_mem_cons.2 ⟨by decide, List.forall_mem_cons.2 ⟨by decide, by simpa using plain⟩⟩
  rw [← intercalate_eq_schemaRef, Document.resolve?_intercalate free]
  simp [document, List.lookup_cons, schemaEntries_eq, lastDefinition?, List.lookup_append]

/-- The requests that create a row of a table or replace one refer to the table's input. -/
theorem requestReference?_table (isTable : table ∈ (Sql.parse sql).tables) :
    requestReference? ("/" ++ table.name) "post" (document (Sql.parse sql) settings) =
        some (.text (schemaRef (inputName table.entityNames.pascal))) ∧
      requestReference? (String.join ["/", table.name, "/\x7bid\x7d"]) "put"
          (document (Sql.parse sql) settings) =
        some (.text (schemaRef (inputName table.entityNames.pascal))) := by
  have collection : (ofEntries (pathEntries (Sql.parse sql))).member? (collectionPath table).1 =
      some (collectionPath table).2 := member?_pathEntries isTable List.mem_cons_self
  have item : (ofEntries (pathEntries (Sql.parse sql))).member? (itemPath table).1 =
      some (itemPath table).2 :=
    member?_pathEntries isTable (List.mem_cons_of_mem _ List.mem_cons_self)
  have collectionKey : (collectionPath table).1 = "/" ++ table.name := rfl
  have itemKey : (itemPath table).1 = String.join ["/", table.name, "/\x7bid\x7d"] := rfl
  unfold requestReference?
  constructor
  · rw [Document.follow?_cons, member?_document_paths, Option.bind_some, Document.follow?_cons,
      ← collectionKey, collection]
    rfl
  · rw [Document.follow?_cons, member?_document_paths, Option.bind_some, Document.follow?_cons,
      ← itemKey, item]
    rfl

section Split

variable {before after : List Table} (split : (Sql.parse sql).tables = before ++ table :: after)

include split

theorem isNameText_entity : IsNameText table.entityNames.pascal.toList := by
  have isTable : table ∈ (Sql.parse sql).tables := by simp [split]
  exact EntityNames.isNameText_pascal (Sql.name_of_mem_parse isTable).2

/-- A reference to the input of a table leads to the schema of this table, or of a later table
that has the name. -/
theorem resolve?_inputSchema :
    (document (Sql.parse sql) settings).resolve?
        (.text (schemaRef (inputName table.entityNames.pascal))) =
      some ((lastDefinition? (inputName table.entityNames.pascal) after).getD
        (inputSchema table).2) := by
  have slash : '/' ∉ table.entityNames.pascal.toList :=
    (isNameText_entity split).not_mem (by decide)
  have plain : '/' ∉ (inputName table.entityNames.pascal).toList := by simp [inputName, slash]
  rw [resolve?_schemaRef _ settings plain, split, lastDefinition?_input]
  rfl

/-- A reference to the entity of a table leads to the schema of this table, or of a later table
that has the name. -/
theorem resolve?_entitySchema :
    (document (Sql.parse sql) settings).resolve? (.text (schemaRef table.entityNames.pascal)) =
      some ((lastDefinition? table.entityNames.pascal after).getD (entitySchema table).2) := by
  rw [resolve?_schemaRef _ settings ((isNameText_entity split).not_mem (by decide)), split,
    lastDefinition?_entity]
  rfl

end Split

end References

/-- The requests of each table refer to its input. The schemas of the input and of the entity have
the input columns and all columns as their properties, and they are found under their names unless
a later table defines schemas under these names, which is then found. Errors are found under
theirs unless a table defines a schema under it. -/
theorem components_are_last_definitions (sql : String) (settings : ApiSettings) :
    (∀ before table after, (Sql.parse sql).tables = before ++ table :: after →
      (∃ reference,
        requestReference? ("/" ++ table.name) "post" (document (Sql.parse sql) settings) =
          some reference ∧
        requestReference? (String.join ["/", table.name, "/\x7bid\x7d"]) "put"
          (document (Sql.parse sql) settings) = some reference ∧
        reference = .text (schemaRef (inputName table.entityNames.pascal)) ∧
        (document (Sql.parse sql) settings).resolve? reference =
          some ((lastDefinition? (inputName table.entityNames.pascal) after).getD
            (inputSchema table).2)) ∧
      (document (Sql.parse sql) settings).resolve? (.text (schemaRef table.entityNames.pascal)) =
        some ((lastDefinition? table.entityNames.pascal after).getD (entitySchema table).2) ∧
      propertyNames (inputSchema table).2 = (table.inputColumns.map (·.name)).eraseDups ∧
      propertyNames (entitySchema table).2 = (table.columns.map (·.name)).eraseDups) ∧
    (document (Sql.parse sql) settings).resolve? (.text (schemaRef "ErrorResponse")) =
      some ((lastDefinition? "ErrorResponse" (Sql.parse sql).tables).getD errorSchema.2) ∧
    ∀ name tables, lastDefinition? name tables = none ↔ ∀ table ∈ tables, ¬ Defines name table := by
  refine ⟨fun before table after shape => ?_, ?_, fun name tables => lastDefinition?_eq_none_iff⟩
  · have isTable : table ∈ (Sql.parse sql).tables := by simp [shape]
    obtain ⟨creates, replaces⟩ := requestReference?_table settings isTable
    exact ⟨⟨_, creates, replaces, rfl, resolve?_inputSchema settings shape⟩,
      resolve?_entitySchema settings shape, propertyNames_inputSchema table,
      propertyNames_entitySchema table⟩
  · rw [resolve?_schemaRef _ settings (by decide)]
    cases lastDefinition? "ErrorResponse" (Sql.parse sql).tables <;> rfl

/-- The text of a schema whose second table defines the input of the first one, and the third the
schema for errors. -/
def clashingSql : String :=
  String.join ["CREATE TABLE users (\nname TEXT NOT NULL\n) ENGINE;",
    "CREATE TABLE user_input (\nnote TEXT\n) ENGINE;",
    "CREATE TABLE error_response (\ncode INT\n) ENGINE;"]

/-- The tables that are read from the text. -/
def clashingTables : List Table := [
  ⟨"users", [Column.ofDefinition "name" "TEXT NOT NULL"]⟩,
  ⟨"user_input", [Column.ofDefinition "note" "TEXT"]⟩,
  ⟨"error_response", [Column.ofDefinition "code" "INT"]⟩]

theorem tables_clashingSql : (Sql.parse clashingSql).tables = clashingTables := by
  rw [Sql.parse_eq, clashingSql, String.toList_join]
  simp only [List.flatMap_cons, List.flatMap_nil]
  repeat rw [String.toList_ofList]
  decide +kernel

/-- The requests of the first table refer to what the second one defines. -/
theorem users_input_is_replaced :
    (Sql.parse clashingSql).tables = [] ++ clashingTables[0] :: clashingTables.drop 1 ∧
      ∃ reference,
        requestReference? ("/" ++ clashingTables[0].name) "post"
          (document (Sql.parse clashingSql) {}) = some reference ∧
        ((document (Sql.parse clashingSql) {}).resolve? reference).map propertyNames =
          some ["note"] := by
  have split : (Sql.parse clashingSql).tables = [] ++ clashingTables[0] :: clashingTables.drop 1 :=
    tables_clashingSql
  obtain ⟨⟨reference, creates, -, -, found⟩, -⟩ :=
    (components_are_last_definitions clashingSql {}).1 _ _ _ split
  refine ⟨split, reference, creates, ?_⟩
  rw [found]
  decide

/-- Not every table has its own input columns behind the references to its input, and the
reference for errors leads to the schema of a table. -/
theorem clashing_components_differ :
    (¬ ∀ table ∈ (Sql.parse clashingSql).tables,
      ((document (Sql.parse clashingSql) {}).resolve?
        (.text (schemaRef (inputName table.entityNames.pascal)))).map propertyNames =
          some (table.inputColumns.map (·.name))) ∧
      ((document (Sql.parse clashingSql) {}).resolve?
        (.text (schemaRef "ErrorResponse"))).map propertyNames = some ["code"] := by
  have same : document (Sql.parse clashingSql) {} = document ⟨none, clashingTables⟩ {} :=
    document_congr tables_clashingSql {}
  rw [same, tables_clashingSql]
  decide +kernel

end OpenApi
end SchemaScaffold
