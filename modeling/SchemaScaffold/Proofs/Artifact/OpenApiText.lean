import SchemaScaffold.Artifact.OpenApi
import SchemaScaffold.Proofs.Yaml.Reader

/-!
# The text of the OpenAPI document

The YAML text of the document is read as the document itself, whatever the names of tables and
columns, their definitions and the texts of the settings are. No part of the document is nested too
deep, and no record has a key twice: names that come together replace one another before the
document is written.
-/

namespace SchemaScaffold
namespace OpenApi

open Document (ofEntries)
open Yaml (IsReadable isReadable_ofEntries isReadable_texts)

variable {depth : Nat}

theorem isReadable_reference (target : String) : IsReadable (depth + 1) (reference target) := by
  simp [reference]

theorem isReadable_jsonContent (target : String) :
    IsReadable (depth + 3) (jsonContent target) := by
  simp [jsonContent, isReadable_reference]

theorem isReadable_operation (summary : String) {extra responses : List (String × Document)}
    (extras : ∀ entry ∈ extra, IsReadable (depth + 1) entry.2)
    (each : ∀ entry ∈ responses, IsReadable depth entry.2) :
    IsReadable (depth + 2) (operation summary extra responses) := by
  refine isReadable_ofEntries ?_
  simp only [List.forall_mem_append, List.forall_mem_singleton]
  exact ⟨⟨.text _ _, extras⟩, isReadable_ofEntries each⟩

theorem isReadable_plainResponse (code description : String) :
    IsReadable (depth + 1) (plainResponse code description).2 := by
  simp [plainResponse]

theorem isReadable_sharedResponse (code name : String) :
    IsReadable (depth + 1) (sharedResponse code name).2 :=
  isReadable_reference _

theorem isReadable_idParameter : IsReadable (depth + 3) idParameter.2 := by
  simp [idParameter]

theorem isReadable_requestBody (entity : String) :
    IsReadable (depth + 4) (requestBody entity).2 := by
  simp [requestBody, isReadable_jsonContent]

theorem isReadable_itemResponses (entity : String) :
    ∀ entry ∈ itemResponses entity, IsReadable (depth + 1) entry.2 := by
  simp only [itemResponses, List.forall_mem_cons]
  exact ⟨isReadable_plainResponse _ _, isReadable_sharedResponse _ _,
    isReadable_sharedResponse _ _, isReadable_sharedResponse _ _, by simp⟩

/-- The responses of a request that addresses no row. -/
theorem isReadable_collectionResponses (code description : String) :
    ∀ entry ∈ [plainResponse code description, internalError], IsReadable (depth + 1) entry.2 := by
  simp only [List.forall_mem_cons]
  exact ⟨isReadable_plainResponse _ _, isReadable_sharedResponse _ _, by simp⟩

theorem isReadable_healthPath : IsReadable (depth + 4) healthPath.2 := by
  have get : IsReadable (depth + 3) (operation "Health check" []
      [plainResponse "200" "OK", internalError]) :=
    isReadable_operation _ (by simp) (isReadable_collectionResponses _ _)
  simp [healthPath, get]

theorem isReadable_collectionPath (table : Table) :
    IsReadable (depth + 6) (collectionPath table).2 := by
  have get : IsReadable (depth + 5) (operation ("List " ++ table.name) []
      [plainResponse "200" "OK", internalError]) :=
    isReadable_operation _ (by simp) (isReadable_collectionResponses _ _)
  have post : IsReadable (depth + 5) (operation ("Create " ++ table.name)
      [requestBody table.entityNames.pascal] [plainResponse "201" "Created", internalError]) :=
    isReadable_operation _ (by simpa using isReadable_requestBody _)
      (isReadable_collectionResponses _ _)
  simp [collectionPath, get, post]

theorem isReadable_itemPath (table : Table) : IsReadable (depth + 6) (itemPath table).2 := by
  have responses : ∀ entry ∈ itemResponses table.entityNames.pascal,
      IsReadable (depth + 3) entry.2 := isReadable_itemResponses _
  have bare (summary : String) : IsReadable (depth + 5)
      (operation summary [idParameter] (itemResponses table.entityNames.pascal)) :=
    isReadable_operation _ (by simpa using isReadable_idParameter) responses
  have body (summary : String) : IsReadable (depth + 5)
      (operation summary [idParameter, requestBody table.entityNames.pascal]
        (itemResponses table.entityNames.pascal)) := by
    refine isReadable_operation _ ?_ responses
    simp only [List.forall_mem_cons]
    exact ⟨isReadable_idParameter, isReadable_requestBody _, by simp⟩
  simp [itemPath, bare, body]

theorem isReadable_pathEntries (schema : Schema) :
    ∀ entry ∈ pathEntries schema, IsReadable (depth + 6) entry.2 := by
  simp only [pathEntries, List.forall_mem_cons, List.forall_mem_flatMap]
  exact ⟨isReadable_healthPath, fun table _ =>
    ⟨isReadable_collectionPath table, isReadable_itemPath table, by simp⟩⟩

theorem isReadable_errorResponse (description : String) :
    IsReadable (depth + 4) (errorResponse description) := by
  simp [errorResponse, isReadable_reference]

theorem isReadable_responseEntries (schema : Schema) :
    ∀ entry ∈ responseEntries schema, IsReadable (depth + 4) entry.2 := by
  simp only [responseEntries, List.forall_mem_append, List.forall_mem_cons, List.forall_mem_map]
  exact ⟨⟨isReadable_errorResponse _, isReadable_errorResponse _, by simp⟩,
    fun _ _ => isReadable_errorResponse _⟩

theorem isReadable_columnProperty (column : Column) :
    IsReadable (depth + 1) (columnProperty column).2 := by
  simp only [columnProperty, Document.optionalText]
  generalize (FieldType.ofDefinition column.definition).format = format
  cases format <;> simp

theorem isReadable_properties (columns : List Column) :
    IsReadable (depth + 2) (ofEntries (columns.map columnProperty)) :=
  isReadable_ofEntries (by simpa using fun column _ => isReadable_columnProperty column)

theorem isReadable_errorSchema : IsReadable (depth + 3) errorSchema.2 := by
  simp [errorSchema]

theorem isReadable_entitySchema (table : Table) :
    IsReadable (depth + 3) (entitySchema table).2 := by
  simp [entitySchema, isReadable_properties]

theorem isReadable_inputSchema (table : Table) :
    IsReadable (depth + 3) (inputSchema table).2 := by
  simp only [inputSchema]
  split <;> simp [isReadable_properties, isReadable_texts]

theorem isReadable_schemaEntries (schema : Schema) :
    ∀ entry ∈ schemaEntries schema, IsReadable (depth + 3) entry.2 := by
  simp only [schemaEntries, List.forall_mem_cons, List.forall_mem_flatMap]
  exact ⟨isReadable_errorSchema, fun table _ =>
    ⟨isReadable_entitySchema table, isReadable_inputSchema table, by simp⟩⟩

theorem isReadable_document (schema : Schema) (settings : ApiSettings) :
    IsReadable (depth + 8) (document schema settings) := by
  have paths : IsReadable (depth + 7) (ofEntries (pathEntries schema)) :=
    isReadable_ofEntries (isReadable_pathEntries schema)
  have responses : IsReadable (depth + 6) (ofEntries (responseEntries schema)) :=
    isReadable_ofEntries (isReadable_responseEntries schema)
  have schemas : IsReadable (depth + 6) (ofEntries (schemaEntries schema)) :=
    isReadable_ofEntries (isReadable_schemaEntries schema)
  simp [document, paths, responses, schemas]

/-- The bytes of the text are read as the document: the same records with their members in the same
order, the same lists, and every text as a text. -/
theorem text_denotes_document (schema : Schema) (settings : ApiSettings) :
    Yaml.ofBytes? (render schema settings).toUTF8 = some (document schema settings) :=
  Yaml.ofBytes?_render (isReadable_document schema settings)

end OpenApi
end SchemaScaffold
