import Mathlib.Data.List.Nodup
import SchemaScaffold.Artifact.OpenApi
import SchemaScaffold.Proofs.Artifact.Operation
import SchemaScaffold.Proofs.Document.References
import SchemaScaffold.Proofs.Sql.ParsedNames

/-!
# Paths of the OpenAPI document

Tables of different names have different paths, so that each table's operations are found under
its own name. Only a table named `health` takes the path at which a backend is asked for its
health, and it answers the same question there.
-/

namespace SchemaScaffold
namespace OpenApi

open Document (ofEntries)

/-- The entries for the two paths of a table. -/
def tablePaths (table : Table) : List (String × Document) :=
  [collectionPath table, itemPath table]

theorem pathEntries_eq (schema : Schema) :
    pathEntries schema = healthPath :: schema.tables.flatMap tablePaths := rfl

/-- Nothing but the tables of a schema is described. -/
theorem document_congr {schema other : Schema} (same : schema.tables = other.tables)
    (settings : ApiSettings) : document schema settings = document other settings := by
  simp only [document, pathEntries, responseEntries, schemaEntries, same]

/-- The paths of a document. -/
def paths (document : Document) : Document :=
  (document.member? "paths").getD (.record [])

theorem member?_document_paths (schema : Schema) (settings : ApiSettings) :
    (document schema settings).member? "paths" = some (ofEntries (pathEntries schema)) := by
  simp [document, List.lookup_cons]

theorem paths_document (schema : Schema) (settings : ApiSettings) :
    paths (document schema settings) = ofEntries (pathEntries schema) := by
  rw [paths, member?_document_paths]
  rfl

/-- The operations at one path, read from their methods. -/
def pathOperations (entry : String × Document) : List Operation :=
  entry.2.keys.filterMap fun word => Operation.read? word.toList entry.1.toList

/-- The operations that a document describes. -/
def operations (document : Document) : List Operation :=
  (paths document).members.flatMap pathOperations

section Named

variable {table other : Table} {entry further : String × Document}

theorem segments?_itemPath (named : IsNameText table.name.toList) :
    Operation.segments? (itemPath table).1.toList = some [table.name, "\x7bid\x7d"] := by
  have path : (itemPath table).1 = String.join ["/", table.name, "/", "\x7bid\x7d"] := by
    apply String.toList_injective
    simp [itemPath, String.join_cons]
  rw [path, Operation.segments?_item named (by decide)]

/-- A path of a table begins with the table's name. -/
theorem exists_segments? (named : IsNameText table.name.toList)
    (member : entry ∈ tablePaths table) :
    ∃ rest, Operation.segments? entry.1.toList = some (table.name :: rest) := by
  simp only [tablePaths, List.mem_cons, List.not_mem_nil, or_false] at member
  rcases member with rfl | rfl
  · exact ⟨[], Operation.segments?_collection named⟩
  · exact ⟨["\x7bid\x7d"], segments?_itemPath named⟩

theorem name_eq_of_key_eq (named : IsNameText table.name.toList)
    (otherNamed : IsNameText other.name.toList) (member : entry ∈ tablePaths table)
    (otherMember : further ∈ tablePaths other) (same : entry.1 = further.1) :
    table.name = other.name := by
  obtain ⟨rest, own⟩ := exists_segments? named member
  obtain ⟨otherRest, foreign⟩ := exists_segments? otherNamed otherMember
  rw [same, foreign] at own
  exact (List.cons.inj (Option.some.inj own)).1.symm

theorem nodup_keys_tablePaths (named : IsNameText table.name.toList) :
    ((tablePaths table).map (·.1)).Nodup := by
  have apart : (collectionPath table).1 ≠ (itemPath table).1 := by
    intro same
    have item := segments?_itemPath named
    rw [← same, show (collectionPath table).1 = "/" ++ table.name from rfl,
      Operation.segments?_collection named] at item
    simp at item
  simp [tablePaths, apart]

end Named

section Tables

variable {tables : List Table}

/-- No two paths of tables are the same. -/
theorem nodup_keys (named : ∀ table ∈ tables, IsNameText table.name.toList)
    (distinct : (tables.map (·.name)).Nodup) :
    ((tables.flatMap tablePaths).map (·.1)).Nodup := by
  induction tables with
  | nil => exact List.nodup_nil
  | cons table rest ih =>
    obtain ⟨own, others⟩ := List.forall_mem_cons.1 named
    obtain ⟨fresh, restDistinct⟩ := List.nodup_cons.1 (List.map_cons ▸ distinct)
    rw [List.flatMap_cons, List.map_append, List.nodup_append]
    refine ⟨nodup_keys_tablePaths own, ih others restDistinct, ?_⟩
    rintro key isOwn further isFurther rfl
    obtain ⟨entry, member, rfl⟩ := List.mem_map.1 isOwn
    obtain ⟨foreign, foreignMember, same⟩ := List.mem_map.1 isFurther
    obtain ⟨other, inRest, isPath⟩ := List.mem_flatMap.1 foreignMember
    have name := name_eq_of_key_eq own (others other inRest) member isPath same.symm
    exact fresh (name ▸ List.mem_map_of_mem inRest)

end Tables

section Parsed

variable {sql : String} {table : Table} {entry : String × Document}

theorem nodup_keys_parse (sql : String) :
    (((Sql.parse sql).tables.flatMap tablePaths).map (·.1)).Nodup :=
  nodup_keys (fun _ member => (Sql.name_of_mem_parse member).2) (Sql.nodup_tableNames_parse sql)

/-- The paths of a table are found under their keys. -/
theorem member?_pathEntries (isTable : table ∈ (Sql.parse sql).tables)
    (isPath : entry ∈ tablePaths table) :
    (ofEntries (pathEntries (Sql.parse sql))).member? entry.1 = some entry.2 := by
  have inTables : entry ∈ (Sql.parse sql).tables.flatMap tablePaths :=
    List.mem_flatMap.2 ⟨table, isTable, isPath⟩
  rw [pathEntries_eq, Document.member?_ofEntries]
  exact Document.lookup_reverse_of_nodup [healthPath] (nodup_keys_parse sql) inTables

end Parsed

/-- All operations at a path have its segments. -/
theorem pathOperations_eq {entry : String × Document} {segments : List String}
    (path : Operation.segments? entry.1.toList = some segments) :
    pathOperations entry =
      (entry.2.keys.filterMap fun word => Method.ofWord? word.toList).map
        (Operation.ofSegments · segments) := by
  simp only [pathOperations, Operation.read?, path, Option.map_some, List.map_filterMap]
  refine List.filterMap_congr fun word _ => ?_
  cases Method.ofWord? word.toList <;> rfl

theorem pathOperations_healthPath : pathOperations healthPath = [Operation.health] := by
  decide

/-- At the paths of a table its endpoints are described. -/
theorem mem_pathOperations {table : Table} (named : IsNameText table.name.toList)
    {operation : Operation} :
    operation ∈ (tablePaths table).flatMap pathOperations ↔
      ∃ endpoint ∈ Endpoint.all, operation = Operation.ofEndpoint table.name endpoint := by
  have isMark : "\x7bid\x7d" ∈ Operation.rowMarks := by decide
  have collection : pathOperations (collectionPath table) =
      [⟨.get, [table.name]⟩, ⟨.post, [table.name]⟩] := by
    have path : Operation.segments? (collectionPath table).1.toList = some [table.name] :=
      Operation.segments?_collection named
    have words : (collectionPath table).2.keys = ["get", "post"] := rfl
    have methods : ["get", "post"].filterMap (fun word => Method.ofWord? word.toList) =
        [.get, .post] := by decide
    simp only [pathOperations_eq path, words, methods, List.map_cons, List.map_nil,
      Operation.ofSegments_collection]
  have item : pathOperations (itemPath table) =
      [⟨.get, [table.name, ":id"]⟩, ⟨.put, [table.name, ":id"]⟩,
        ⟨.delete, [table.name, ":id"]⟩] := by
    have words : (itemPath table).2.keys = ["get", "put", "delete"] := rfl
    have methods : ["get", "put", "delete"].filterMap (fun word => Method.ofWord? word.toList) =
        [.get, .put, .delete] := by decide
    simp only [pathOperations_eq (segments?_itemPath named), words, methods, List.map_cons,
      List.map_nil, Operation.ofSegments_item _ _ isMark]
  simp only [tablePaths, List.flatMap_cons, List.flatMap_nil, collection, item, Endpoint.all,
    Operation.ofEndpoint, List.mem_append, List.mem_cons, List.not_mem_nil, exists_eq_or_imp,
    or_false]
  grind

section Described

variable {sql : String} (settings : ApiSettings)

theorem ofEndpoint_mem_operations {table : Table} (isTable : table ∈ (Sql.parse sql).tables)
    {endpoint : Endpoint} (isEndpoint : endpoint ∈ Endpoint.all) :
    Operation.ofEndpoint table.name endpoint ∈
      operations (document (Sql.parse sql) settings) := by
  obtain ⟨entry, isPath, described⟩ := List.mem_flatMap.1
    ((mem_pathOperations (Sql.name_of_mem_parse isTable).2).2 ⟨endpoint, isEndpoint, rfl⟩)
  refine List.mem_flatMap.2 ⟨entry, ?_, described⟩
  rw [paths_document]
  exact Document.mem_members_ofEntries.2 (member?_pathEntries isTable isPath)

theorem health_mem_operations :
    Operation.health ∈ operations (document (Sql.parse sql) settings) := by
  by_cases taken : ∃ table ∈ (Sql.parse sql).tables, table.name = "health"
  · -- The list of a table's rows is at the same path.
    obtain ⟨table, isTable, name⟩ := taken
    have isEndpoint : ⟨.get, .collection, "List records."⟩ ∈ Endpoint.all := List.mem_cons_self
    have own := ofEndpoint_mem_operations settings isTable isEndpoint
    rwa [name] at own
  · have last : healthPath.1 ∉ ((Sql.parse sql).tables.flatMap tablePaths).map (·.1) := by
      intro repeated
      obtain ⟨entry, inTables, same⟩ := List.mem_map.1 repeated
      obtain ⟨table, isTable, isPath⟩ := List.mem_flatMap.1 inTables
      obtain ⟨rest, own⟩ := exists_segments? (Sql.name_of_mem_parse isTable).2 isPath
      have health : Operation.segments? healthPath.1.toList = some ["health"] := by decide
      rw [same, health] at own
      exact taken ⟨table, isTable, (List.cons.inj (Option.some.inj own)).1.symm⟩
    have described : Operation.health ∈ pathOperations healthPath := by
      simp [pathOperations_healthPath]
    refine List.mem_flatMap.2 ⟨healthPath, ?_, described⟩
    rw [paths_document]
    refine Document.mem_members_ofEntries.2 ?_
    rw [Document.member?_ofEntries]
    exact Document.lookup_reverse_eq_some.2 ⟨[], _, pathEntries_eq _, last⟩

/-- The document describes the operations of the backend, and no others. -/
theorem mem_operations {operation : Operation} :
    operation ∈ operations (document (Sql.parse sql) settings) ↔
      Operation.IsServed (Sql.parse sql).tables operation := by
  constructor
  · intro described
    rw [operations, paths_document] at described
    obtain ⟨entry, member, atPath⟩ := List.mem_flatMap.1 described
    rcases List.mem_cons.1 (Document.mem_of_mem_members member) with rfl | inTables
    · rw [pathOperations_healthPath] at atPath
      exact .inl (List.mem_singleton.1 atPath)
    · obtain ⟨table, isTable, isPath⟩ := List.mem_flatMap.1 inTables
      have named : IsNameText table.name.toList := (Sql.name_of_mem_parse isTable).2
      have own := (mem_pathOperations named).1 (List.mem_flatMap.2 ⟨entry, isPath, atPath⟩)
      exact .inr ⟨table, isTable, own⟩
  · rintro (rfl | ⟨table, isTable, endpoint, isEndpoint, rfl⟩)
    · exact health_mem_operations settings
    · exact ofEndpoint_mem_operations settings isTable isEndpoint

end Described

end OpenApi
end SchemaScaffold
