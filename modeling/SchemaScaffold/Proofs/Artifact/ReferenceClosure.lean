import SchemaScaffold.Proofs.Artifact.Components
import SchemaScaffold.Proofs.Sql.ParsedNames

/-!
# References of the OpenAPI document

Whatever the names of tables are, every reference of the document leads to a component that the
document has: a key that comes again takes another value but is not lost.
-/

namespace SchemaScaffold
namespace OpenApi

open Document (ofEntries referenceKey RefersOnlyTo EntryRefersOnlyTo entryRefersOnlyTo_iff
  refersOnlyTo_ofEntries)

section Parts

variable {condition : Document → Prop}

@[simp] theorem refersOnlyTo_reference {target : String} :
    (reference target).RefersOnlyTo condition ↔ condition (.text target) := by
  simp [reference, EntryRefersOnlyTo, referenceKey]

@[simp] theorem entryRefersOnlyTo_plainResponse (code description : String)
    (apart : code ≠ "$ref") :
    EntryRefersOnlyTo condition (plainResponse code description) := by
  simp [plainResponse, EntryRefersOnlyTo, referenceKey, apart]

@[simp] theorem entryRefersOnlyTo_sharedResponse (code name : String) (apart : code ≠ "$ref") :
    EntryRefersOnlyTo condition (sharedResponse code name) ↔
      condition (.text (responseRef name)) := by
  simp [sharedResponse, EntryRefersOnlyTo, referenceKey, apart]

@[simp] theorem entryRefersOnlyTo_requestBody (entity : String) :
    EntryRefersOnlyTo condition (requestBody entity) ↔
      condition (.text (schemaRef (inputName entity))) := by
  simp [requestBody, jsonContent, EntryRefersOnlyTo, referenceKey]

@[simp] theorem entryRefersOnlyTo_idParameter : EntryRefersOnlyTo condition idParameter := by
  simp [idParameter, EntryRefersOnlyTo, referenceKey]

/-- An operation refers to what its parts and its responses refer to. -/
theorem refersOnlyTo_operation (summary : String) {extra responses : List (String × Document)}
    (inExtra : ∀ entry ∈ extra, EntryRefersOnlyTo condition entry)
    (inResponses : ∀ entry ∈ responses, EntryRefersOnlyTo condition entry) :
    (operation summary extra responses).RefersOnlyTo condition := by
  have answers : (ofEntries responses).RefersOnlyTo condition := refersOnlyTo_ofEntries inResponses
  refine refersOnlyTo_ofEntries ?_
  simp only [List.forall_mem_append, List.forall_mem_singleton]
  refine ⟨⟨?_, inExtra⟩, ?_⟩
  · simp [EntryRefersOnlyTo, referenceKey]
  · simpa [EntryRefersOnlyTo, referenceKey] using answers

@[simp] theorem refersOnlyTo_errorResponse (description : String) :
    (errorResponse description).RefersOnlyTo condition ↔
      condition (.text (schemaRef "ErrorResponse")) := by
  simp [errorResponse, EntryRefersOnlyTo, referenceKey]

/-- The properties of columns refer to nothing. -/
theorem refersOnlyTo_properties {columns : List Column}
    (apart : ∀ column ∈ columns, column.name ≠ referenceKey) :
    (ofEntries (columns.map columnProperty)).RefersOnlyTo condition := by
  refine refersOnlyTo_ofEntries (List.forall_mem_map.2 fun column isColumn => ?_)
  rw [columnProperty, entryRefersOnlyTo_iff (apart column isColumn)]
  cases (FieldType.ofDefinition column.definition).format <;>
    simp [Document.optionalText, EntryRefersOnlyTo, referenceKey]

end Parts

/-- A target is a response or a schema that a schema's document defines. -/
inductive IsDefined (schema : Schema) : Document → Prop
  | response (name : String) (defined : name ∈ (responseEntries schema).map (·.1)) :
    IsDefined schema (.text (responseRef name))
  | schema (name : String) (defined : name ∈ (schemaEntries schema).map (·.1)) :
    IsDefined schema (.text (schemaRef name))

section Defined

variable {schema : Schema} {table : Table}

theorem isDefined_internalError :
    IsDefined schema (.text (responseRef "InternalServerError")) :=
  .response _ (by simp [responseEntries])

theorem isDefined_invalidId : IsDefined schema (.text (responseRef "InvalidId")) :=
  .response _ (by simp [responseEntries])

theorem isDefined_errorSchema : IsDefined schema (.text (schemaRef "ErrorResponse")) :=
  .schema _ (by simp [schemaEntries, errorSchema])

theorem isDefined_notFound (isTable : table ∈ schema.tables) :
    IsDefined schema (.text (responseRef (notFoundName table.entityNames.pascal))) := by
  refine .response _ ?_
  rw [responseEntries, List.map_append, List.map_map]
  exact List.mem_append_right _ (List.mem_map.2 ⟨table, isTable, rfl⟩)

theorem isDefined_inputSchema (isTable : table ∈ schema.tables) :
    IsDefined schema (.text (schemaRef (inputName table.entityNames.pascal))) := by
  refine .schema _ (List.mem_map.2 ⟨inputSchema table, ?_, rfl⟩)
  rw [schemaEntries_eq]
  exact List.mem_cons_of_mem _ (List.mem_flatMap.2 ⟨table, isTable, by simp [tableSchemas]⟩)

/-- A path is not the key of references. -/
theorem path_ne_referenceKey (rest : String) : "/" ++ rest ≠ referenceKey := by
  intro same
  have heads := congrArg (·.toList.head?) same
  simp [referenceKey] at heads

theorem entryRefersOnlyTo_collectionPath (isTable : table ∈ schema.tables) :
    EntryRefersOnlyTo (IsDefined schema) (collectionPath table) := by
  refine (entryRefersOnlyTo_iff (path_ne_referenceKey _)).2 ?_
  have lists : (operation ("List " ++ table.name) []
      [plainResponse "200" "OK", internalError]).RefersOnlyTo (IsDefined schema) :=
    refersOnlyTo_operation _ (by simp) (by simp [internalError, isDefined_internalError])
  have creates : (operation ("Create " ++ table.name) [requestBody table.entityNames.pascal]
      [plainResponse "201" "Created", internalError]).RefersOnlyTo (IsDefined schema) :=
    refersOnlyTo_operation _ (by simp [isDefined_inputSchema isTable])
      (by simp [internalError, isDefined_internalError])
  simp [EntryRefersOnlyTo, referenceKey, lists, creates]

theorem entryRefersOnlyTo_itemPath (isTable : table ∈ schema.tables) :
    EntryRefersOnlyTo (IsDefined schema) (itemPath table) := by
  have path : (itemPath table).1 ≠ referenceKey := by
    rw [itemPath, String.join_cons]
    exact path_ne_referenceKey _
  refine (entryRefersOnlyTo_iff path).2 ?_
  have responses : ∀ response ∈ itemResponses table.entityNames.pascal,
      EntryRefersOnlyTo (IsDefined schema) response := by
    simp [itemResponses, internalError, isDefined_internalError, isDefined_invalidId,
      isDefined_notFound isTable]
  have single (summary : String) : (operation summary [idParameter]
      (itemResponses table.entityNames.pascal)).RefersOnlyTo (IsDefined schema) :=
    refersOnlyTo_operation _ (by simp) responses
  have replaces (summary : String) : (operation summary
      [idParameter, requestBody table.entityNames.pascal]
      (itemResponses table.entityNames.pascal)).RefersOnlyTo (IsDefined schema) :=
    refersOnlyTo_operation _ (by simp [isDefined_inputSchema isTable]) responses
  simp [EntryRefersOnlyTo, referenceKey, single, replaces]

theorem entryRefersOnlyTo_healthPath : EntryRefersOnlyTo (IsDefined schema) healthPath := by
  have answers : (operation "Health check" []
      [plainResponse "200" "OK", internalError]).RefersOnlyTo (IsDefined schema) :=
    refersOnlyTo_operation _ (by simp) (by simp [internalError, isDefined_internalError])
  simp [healthPath, EntryRefersOnlyTo, referenceKey, answers]

theorem refersOnlyTo_paths : (ofEntries (pathEntries schema)).RefersOnlyTo (IsDefined schema) := by
  refine refersOnlyTo_ofEntries fun entry isPath => ?_
  rcases List.mem_cons.1 (pathEntries_eq schema ▸ isPath) with rfl | inTables
  · exact entryRefersOnlyTo_healthPath
  · obtain ⟨table, isTable, ofTable⟩ := List.mem_flatMap.1 inTables
    simp only [tablePaths, List.mem_cons, List.not_mem_nil, or_false] at ofTable
    rcases ofTable with rfl | rfl
    · exact entryRefersOnlyTo_collectionPath isTable
    · exact entryRefersOnlyTo_itemPath isTable

end Defined

/-- The sign that begins the key of references is in no name of an entity or a column. -/
structure HasPlainNames (schema : Schema) : Prop where
  entity : ∀ table ∈ schema.tables, '$' ∉ table.entityNames.pascal.toList
  column : ∀ table ∈ schema.tables, ∀ column ∈ table.columns, '$' ∉ column.name.toList

theorem hasPlainNames_parse (sql : String) : HasPlainNames (Sql.parse sql) where
  entity _ isTable :=
    (EntityNames.isNameText_pascal (Sql.name_of_mem_parse isTable).2).not_mem (by decide)
  column _ isTable _ isColumn sign :=
    absurd ((Sql.name_of_mem_columns isTable isColumn).2 _ sign) (by decide)

theorem ne_referenceKey {key : String} (plain : '$' ∉ key.toList) : key ≠ referenceKey := by
  rintro rfl
  exact plain (by decide)

section Plain

variable {schema : Schema} (plain : HasPlainNames schema)

include plain

theorem refersOnlyTo_responses :
    (ofEntries (responseEntries schema)).RefersOnlyTo (IsDefined schema) := by
  refine refersOnlyTo_ofEntries ?_
  rw [responseEntries, List.forall_mem_append, List.forall_mem_map]
  refine ⟨by simp [EntryRefersOnlyTo, referenceKey, isDefined_errorSchema], fun table isTable => ?_⟩
  have key : notFoundName table.entityNames.pascal ≠ referenceKey :=
    ne_referenceKey (by simp [notFoundName, plain.entity table isTable])
  rw [entryRefersOnlyTo_iff key, refersOnlyTo_errorResponse]
  exact isDefined_errorSchema

theorem entryRefersOnlyTo_tableSchemas {condition : Document → Prop} {table : Table}
    (isTable : table ∈ schema.tables) {entry : String × Document}
    (isSchema : entry ∈ tableSchemas table) : EntryRefersOnlyTo condition entry := by
  have apart : ∀ column ∈ table.columns, column.name ≠ referenceKey :=
    fun column isColumn => ne_referenceKey (plain.column table isTable column isColumn)
  have entity : table.entityNames.pascal ≠ referenceKey :=
    ne_referenceKey (plain.entity table isTable)
  have input : inputName table.entityNames.pascal ≠ referenceKey :=
    ne_referenceKey (by simp [inputName, plain.entity table isTable])
  have all : (ofEntries (table.columns.map columnProperty)).RefersOnlyTo condition :=
    refersOnlyTo_properties apart
  have sent : (ofEntries (table.inputColumns.map columnProperty)).RefersOnlyTo condition :=
    refersOnlyTo_properties fun column isInput => apart column (List.mem_filter.1 isInput).1
  simp only [tableSchemas, List.mem_cons, List.not_mem_nil, or_false] at isSchema
  rcases isSchema with rfl | rfl
  · rw [entitySchema, entryRefersOnlyTo_iff entity]
    simp [EntryRefersOnlyTo, referenceKey, all]
  · rw [inputSchema, entryRefersOnlyTo_iff input]
    by_cases none : ((requiredColumns table).map (·.name)).isEmpty
    · simp [none, EntryRefersOnlyTo, referenceKey, sent]
    · simp [none, EntryRefersOnlyTo, referenceKey, sent, Document.texts]

theorem refersOnlyTo_schemas :
    (ofEntries (schemaEntries schema)).RefersOnlyTo (IsDefined schema) := by
  refine refersOnlyTo_ofEntries fun entry isSchema => ?_
  rcases List.mem_cons.1 (schemaEntries_eq schema ▸ isSchema) with rfl | inTables
  · simp [errorSchema, EntryRefersOnlyTo, referenceKey]
  · obtain ⟨table, isTable, ofTable⟩ := List.mem_flatMap.1 inTables
    exact entryRefersOnlyTo_tableSchemas plain isTable ofTable

/-- The document refers to nothing but what it defines. -/
theorem refersOnlyTo_document (settings : ApiSettings) :
    (document schema settings).RefersOnlyTo (IsDefined schema) := by
  have responses := refersOnlyTo_responses plain
  have schemas := refersOnlyTo_schemas plain
  have paths : (ofEntries (pathEntries schema)).RefersOnlyTo (IsDefined schema) :=
    refersOnlyTo_paths
  simp [document, EntryRefersOnlyTo, referenceKey, paths, responses, schemas]

end Plain

/-- A target refers to a component of a document: to a key of its responses or of its schemas. -/
def IsComponent (document target : Document) : Prop :=
  (∃ name responses, target = .text ("#/components/responses/" ++ name) ∧
    document.follow? ["components", "responses"] = some responses ∧ name ∈ responses.keys) ∨
  ∃ name schemas, target = .text ("#/components/schemas/" ++ name) ∧
    document.follow? ["components", "schemas"] = some schemas ∧ name ∈ schemas.keys

/-- What is defined is a component, whatever else has its key. -/
theorem IsDefined.isComponent {schema : Schema} {target : Document}
    (defined : IsDefined schema target) (settings : ApiSettings) :
    IsComponent (document schema settings) target := by
  cases defined with
  | response name defined =>
    refine .inl ⟨name, ofEntries (responseEntries schema), rfl, ?_, by simpa using defined⟩
    simp [document, List.lookup_cons]
  | schema name defined =>
    refine .inr ⟨name, ofEntries (schemaEntries schema), rfl, ?_, by simpa using defined⟩
    simp [document, List.lookup_cons]

/-- Every reference of a document is to one of its components. -/
theorem references_are_components (sql : String) (settings : ApiSettings) :
    ∀ target ∈ (document (Sql.parse sql) settings).references,
      IsComponent (document (Sql.parse sql) settings) target :=
  fun target refers =>
    (refersOnlyTo_document (hasPlainNames_parse sql) settings target refers).isComponent settings

/-- The text of a schema whose tables have an entity without a name, one with the name of the
schema for errors, one with the path for a backend's health, and twice the same entity. -/
def degenerateSql : String :=
  String.join ["CREATE TABLE _ (\na INT\n) ENGINE;",
    "CREATE TABLE error_response (\nb INT\n) ENGINE;",
    "CREATE TABLE health (\nc INT\n) ENGINE;", "CREATE TABLE user (\nd INT\n) ENGINE;",
    "CREATE TABLE users (\ne INT\n) ENGINE;"]

theorem entities_degenerateSql : (Sql.parse degenerateSql).tables.map (·.entityNames.pascal) =
    ["", "ErrorResponse", "Health", "User", "User"] := by
  rw [Sql.parse_eq, degenerateSql, String.toList_join]
  simp only [List.flatMap_cons, List.flatMap_nil]
  repeat rw [String.toList_ofList]
  decide +kernel

/-- The input of the entity without a name is referred to, and it is a component. -/
theorem nameless_input_is_component :
    (Sql.parse degenerateSql).tables.map (·.entityNames.pascal) =
        ["", "ErrorResponse", "Health", "User", "User"] ∧
      .text "#/components/schemas/Input" ∈ (document (Sql.parse degenerateSql) {}).references ∧
      IsComponent (document (Sql.parse degenerateSql) {}) (.text "#/components/schemas/Input") := by
  have referred : .text "#/components/schemas/Input" ∈
      (document (Sql.parse degenerateSql) {}).references := by
    have nonempty : "" ∈ (Sql.parse degenerateSql).tables.map (·.entityNames.pascal) := by
      simp [entities_degenerateSql]
    obtain ⟨table, isTable, nameless⟩ := List.mem_map.1 nonempty
    have target : schemaRef (inputName table.entityNames.pascal) =
        "#/components/schemas/Input" := by
      rw [nameless]
      decide
    rw [← target]
    exact Document.mem_references_of_follow?
      ["paths", "/" ++ table.name, "post", "requestBody", "content", "application/json", "schema"]
      (requestReference?_table {} isTable).1
  exact ⟨entities_degenerateSql, referred, references_are_components degenerateSql {} _ referred⟩

end OpenApi
end SchemaScaffold
