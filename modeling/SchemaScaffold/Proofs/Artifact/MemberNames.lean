import SchemaScaffold.Proofs.Artifact.SampleBody
import SchemaScaffold.Proofs.Sql.DeclaredColumns
import SchemaScaffold.Proofs.Sql.Repetition

/-!
# Names of members

The names of columns become keys of bodies and of properties, and entries of what is required. Each
is treated in its own way when a name repeats: a body and a list of required names repeat it, and
properties do not. Names repeat exactly if two lines of a table's body declare the same one.
-/

namespace SchemaScaffold
namespace OpenApi

/-- A schema lists what it requires: its properties have different names, the required names are
among them, and the list is left out if it would be empty. -/
structure ListsRequired (schema : Document) : Prop where
  properties : (propertyNames schema).Nodup
  declared : requiredNames schema ⊆ propertyNames schema
  nonempty : ∀ required, schema.member? "required" = some required →
    ∃ names, names ≠ [] ∧ required = Document.texts names

theorem listsRequired_inputSchema (table : Table) : ListsRequired (inputSchema table).2 where
  properties := by
    rw [propertyNames_inputSchema]
    exact Text.nodup_eraseDups _
  declared := by
    rw [propertyNames_inputSchema, requiredNames_inputSchema]
    intro name member
    rw [List.mem_eraseDups]
    exact (List.filter_sublist.map _).subset member
  nonempty required found := by
    unfold inputSchema at found
    cases names : (requiredColumns table).map (·.name) with
    | nil => simp [names, List.lookup_cons] at found
    | cons name others =>
      refine ⟨name :: others, List.cons_ne_nil name others, ?_⟩
      simpa [names, List.lookup_cons, eq_comm] using found

theorem requiredNames_entitySchema (table : Table) : requiredNames (entitySchema table).2 = [] := by
  simp [requiredNames, entitySchema, List.lookup_cons]

theorem listsRequired_entitySchema (table : Table) : ListsRequired (entitySchema table).2 where
  properties := by
    rw [propertyNames_entitySchema]
    exact Text.nodup_eraseDups _
  declared := by simp [requiredNames_entitySchema]
  nonempty required found := by simp [entitySchema, List.lookup_cons] at found

/-- A schema is one of those that a table defines under a name: that of the entity, which requires
nothing, or that of the input, which requires the required columns. -/
structure IsDefinedBy (name : String) (schema : Document) (owner : Table) : Prop where
  defines : Defines name owner
  isSchema : schema = (entitySchema owner).2 ∧ requiredNames schema = [] ∨
    schema = (inputSchema owner).2 ∧
      requiredNames schema = (requiredColumns owner).map (·.name)

theorem exists_of_lastDefinition? {name : String} {tables : List Table} {schema : Document}
    (found : lastDefinition? name tables = some schema) :
    ∃ owner ∈ tables, IsDefinedBy name schema owner := by
  obtain ⟨before, after, shape, -⟩ := Document.lookup_reverse_eq_some.1 found
  have member : (name, schema) ∈ tables.flatMap tableSchemas := by simp [shape]
  obtain ⟨owner, isTable, isSchema⟩ := List.mem_flatMap.1 member
  refine ⟨owner, isTable, mem_keys_tableSchemas.1 (List.mem_map_of_mem isSchema), ?_⟩
  have pair : (name, schema) = entitySchema owner ∨ (name, schema) = inputSchema owner := by
    simpa [tableSchemas] using isSchema
  rcases pair with ofEntity | ofInput
  · obtain rfl : schema = (entitySchema owner).2 := congrArg Prod.snd ofEntity
    exact .inl ⟨rfl, requiredNames_entitySchema owner⟩
  · obtain rfl : schema = (inputSchema owner).2 := congrArg Prod.snd ofInput
    exact .inr ⟨rfl, requiredNames_inputSchema⟩

/-- Every schema that a table defines lists what it requires. -/
theorem IsDefinedBy.listsRequired {name : String} {schema : Document} {owner : Table}
    (defined : IsDefinedBy name schema owner) : ListsRequired schema := by
  rcases defined.isSchema with ⟨rfl, -⟩ | ⟨rfl, -⟩
  · exact listsRequired_entitySchema owner
  · exact listsRequired_inputSchema owner

section Published

variable {sql : String} {before after : List Table} {table : Table} (settings : ApiSettings)

/-- The operation that creates a row publishes the schema of the table's input, or one that a later
table defines under that name. -/
theorem exists_publishedSchema? (split : (Sql.parse sql).tables = before ++ table :: after) :
    ∃ owner ∈ table :: after, ∃ schema,
      publishedSchema? ("/" ++ table.name) "post" (document (Sql.parse sql) settings) =
        some schema ∧
      IsDefinedBy (inputName table.entityNames.pascal) schema owner ∧
      ((∀ other ∈ after, ¬ Defines (inputName table.entityNames.pascal) other) →
        owner = table ∧ schema = (inputSchema table).2) := by
  have isTable : table ∈ (Sql.parse sql).tables := by simp [split]
  have reference := (requestReference?_table settings isTable).1
  have published : publishedSchema? ("/" ++ table.name) "post"
      (document (Sql.parse sql) settings) =
        some ((lastDefinition? (inputName table.entityNames.pascal) after).getD
          (inputSchema table).2) := by
    rw [publishedSchema?, reference, Option.bind_some, resolve?_inputSchema settings split]
  cases last : lastDefinition? (inputName table.entityNames.pascal) after with
  | none =>
    rw [last] at published
    exact ⟨table, List.mem_cons_self, _, published,
      ⟨.inr rfl, .inr ⟨rfl, requiredNames_inputSchema⟩⟩, fun _ => ⟨rfl, rfl⟩⟩
  | some schema =>
    rw [last] at published
    obtain ⟨owner, later, defined⟩ := exists_of_lastDefinition? last
    exact ⟨owner, List.mem_cons_of_mem _ later, schema, published, defined,
      fun own => absurd defined.defines (own owner later)⟩

end Published

/-- A table is read from a statement, and its columns have different names exactly if no two lines
of the statement's body declare the same one. -/
theorem exists_statement_of_mem_parse {sql : String} {table : Table}
    (isTable : table ∈ (Sql.parse sql).tables) :
    ∃ statement ∈ Sql.TableStatement.all sql.toList, statement.table = table ∧
      ((table.columns.map (·.name)).Nodup ↔
        (Sql.BodyLine.texts statement.body.toList).Pairwise Sql.ColumnLine.DeclareApart) := by
  obtain ⟨statement, kept, rfl⟩ := List.mem_map.1 isTable
  exact ⟨statement, (Sql.firstDeclarations_kept [] (Sql.TableStatement.all sql.toList)).1 kept,
    rfl, Sql.nodup_names_iff statement.body.toList⟩

/-- The keys of a body are the names of its columns. -/
theorem map_fst_sampleMembers (table : Table) : (sampleMembers table).map (·.1) =
    (Postman.bodyColumns table).map fun column => some column.name := by
  simp [sampleMembers, Function.comp_def]

/-- Columns with different names have different names in a body and in a list of what is
required. -/
theorem nodup_of_distinct {table : Table} (distinct : (table.columns.map (·.name)).Nodup) :
    ((Postman.bodyColumns table).map fun column => some column.name).Nodup ∧
      ((requiredColumns table).map (·.name)).Nodup := by
  have isInput : table.inputColumns.Sublist table.columns := List.filter_sublist
  have isShown : (Postman.bodyColumns table).Sublist table.columns :=
    List.filter_sublist.trans isInput
  have isRequired : (requiredColumns table).Sublist table.columns :=
    List.filter_sublist.trans isInput
  refine ⟨?_, distinct.sublist (isRequired.map _)⟩
  have shown := (distinct.sublist (isShown.map _)).map (Option.some_injective String)
  rwa [List.map_map] at shown

/-- To create a row of a table the collection sends a body that is read as a record with some
keys. -/
def SendsKeys (made : Postman.Collection) (table : Table) (keys : List (Option String)) : Prop :=
  ∃ folder ∈ made.folders, folder.name = table.name ∧ ∃ text members,
    (.post, some text) ∈ folder.requests.map (fun request => (request.method, request.body)) ∧
      Json.Value.ofText? text = some (.record members) ∧ members.map (·.1) = keys

theorem exists_sendsKeys {sql : String} {settings : ApiSettings} {table : Table}
    (valid : (Url.parse settings.baseUrl).isOk = true) (isTable : table ∈ (Sql.parse sql).tables) :
    ∃ made, Postman.collection (Sql.parse sql) settings = .ok made ∧
      SendsKeys made table ((Postman.bodyColumns table).map fun column => some column.name) := by
  obtain ⟨base, made, -, built, folders⟩ := Postman.exists_collection valid (Sql.parse sql)
  refine ⟨made, built, Postman.folder base table, ?_, rfl, Json.render (Postman.body table),
    sampleMembers table, by simp [Postman.folder], ofText?_body table, map_fst_sampleMembers table⟩
  rw [folders]
  exact List.mem_map_of_mem isTable

/-- The columns of a table have different names exactly if no two lines of its body declare the same
one. The keys of the body that creates a row are the names of the columns that it shows. The
operation publishes the schema of the table's input, or one that a later table defines under its
name: the properties have different names, and what is required is not empty if it is listed, is
among them, and is the names of the required columns in order if it is for an input. If the columns
of a table have different names, neither keys nor required names repeat. -/
theorem names_repeat_as_lines_do {sql : String} {settings : ApiSettings} {before after : List Table}
    {table : Table} (valid : (Url.parse settings.baseUrl).isOk = true)
    (split : (Sql.parse sql).tables = before ++ table :: after) :
    (∃ statement ∈ Sql.TableStatement.all sql.toList, statement.table = table ∧
      ((table.columns.map (·.name)).Nodup ↔
        (Sql.BodyLine.texts statement.body.toList).Pairwise Sql.ColumnLine.DeclareApart)) ∧
    (∃ made, Postman.collection (Sql.parse sql) settings = .ok made ∧
      SendsKeys made table ((Postman.bodyColumns table).map fun column => some column.name)) ∧
    (∃ owner ∈ table :: after, ∃ schema,
      publishedSchema? ("/" ++ table.name) "post" (document (Sql.parse sql) settings) =
        some schema ∧
      IsDefinedBy (inputName table.entityNames.pascal) schema owner ∧ ListsRequired schema ∧
      ((∀ other ∈ after, ¬ Defines (inputName table.entityNames.pascal) other) →
        owner = table ∧ schema = (inputSchema table).2)) ∧
    ∀ other : Table, (other.columns.map (·.name)).Nodup →
      ((Postman.bodyColumns other).map fun column => some column.name).Nodup ∧
        ((requiredColumns other).map (·.name)).Nodup := by
  have isTable : table ∈ (Sql.parse sql).tables := by simp [split]
  obtain ⟨owner, isOwner, schema, published, defined, own⟩ := exists_publishedSchema? settings split
  exact ⟨exists_statement_of_mem_parse isTable, exists_sendsKeys valid isTable,
    ⟨owner, isOwner, schema, published, defined, defined.listsRequired, own⟩,
    fun _ => nodup_of_distinct⟩

/-- The text of a schema with two checks, which are read as columns of one name. -/
def checkedSql : String :=
  String.join ["CREATE TABLE ranges (\nlow INT,\nhigh INT,\nCHECK (low IS NOT NULL),\n",
    "CHECK (high IS NOT NULL)\n) ENGINE;"]

/-- The table of the text. -/
def checkedRanges : Table :=
  ⟨"ranges", [Column.ofDefinition "low" "INT", Column.ofDefinition "high" "INT",
    Column.ofDefinition "CHECK" "(low IS NOT NULL)",
    Column.ofDefinition "CHECK" "(high IS NOT NULL)"]⟩

theorem tables_checkedSql : (Sql.parse checkedSql).tables = [] ++ checkedRanges :: [] := by
  rw [Sql.parse_eq, checkedSql, String.toList_join]
  simp only [List.flatMap_cons, List.flatMap_nil]
  repeat rw [String.toList_ofList]
  decide +kernel

/-- The two checks are sent as two members of a body. -/
theorem checks_are_sent_twice :
    (Url.parse ({} : ApiSettings).baseUrl).isOk = true ∧
      (Sql.parse checkedSql).tables = [] ++ checkedRanges :: [] ∧
      ∃ made, Postman.collection (Sql.parse checkedSql) {} = .ok made ∧
        SendsKeys made checkedRanges [some "low", some "high", some "CHECK", some "CHECK"] := by
  have valid := Postman.isOk_parse_baseUrl
  have keys : (Postman.bodyColumns checkedRanges).map (fun column => some column.name) =
      [some "low", some "high", some "CHECK", some "CHECK"] := by
    decide
  refine ⟨valid, tables_checkedSql, ?_⟩
  rw [← keys]
  exact (names_repeat_as_lines_do valid tables_checkedSql).2.1

/-- Keys of a body and required names repeat for a text with two checks. -/
theorem checks_repeat_names :
    (∀ table ∈ (Sql.parse checkedSql).tables,
      ¬ (table.columns.map (·.name)).Nodup ∧ ¬ ((sampleMembers table).map (·.1)).Nodup ∧
        Json.Value.ofText? (Json.render (Postman.body table)) =
          some (.record (sampleMembers table))) ∧
    (Sql.parse checkedSql).tables.map (fun table =>
      (publishedSchema? ("/" ++ table.name) "post" (document (Sql.parse checkedSql) {})).map
        requiredNames) = [some ["CHECK", "CHECK"]] := by
  have published := (publishedSchema?_table {} tables_checkedSql (by simp)).1
  constructor
  · intro table member
    obtain rfl : table = checkedRanges := by simpa [tables_checkedSql] using member
    exact ⟨by decide, by decide, ofText?_body checkedRanges⟩
  · have required : (requiredColumns checkedRanges).map (·.name) = ["CHECK", "CHECK"] := by
      decide
    rw [tables_checkedSql]
    simp only [List.nil_append, List.map_cons, List.map_nil, published, Option.map_some,
      requiredNames_inputSchema, required]

end OpenApi
end SchemaScaffold
