import SchemaScaffold.Artifact.Postman
import SchemaScaffold.Artifact.Readme
import SchemaScaffold.Proofs.Artifact.OpenApiPaths

/-!
# Agreement of the descriptions of an interface

The readme, the OpenAPI document and the collection of requests each list the endpoints on their
own. What is read off each of them is the same: the operations that the backend serves.
-/

namespace SchemaScaffold

namespace Readme

/-- The operation that a line names between its only two backticks. -/
def lineOperation? (line : List Char) : Option Operation :=
  match Text.splitOn '\x60' line with
  | [_, code, _] => Operation.ofTitle? code
  | _ => none

/-- The operations that the lines of a readme name. -/
def operations (text : String) : List Operation :=
  (Text.splitOn '\n' text.toList).filterMap lineOperation?

/-- The only operation of the introduction is the question for the backend's health. -/
theorem introduction_lines :
    (∀ line ∈ introduction.map String.toList, '\n' ∉ line) ∧
      (introduction.map String.toList).filterMap lineOperation? = [Operation.health] := by
  simp only [introduction, List.map_cons, List.map_nil]
  -- A literal is the text of its characters, so that none has to be decoded.
  repeat rw [String.toList_ofList]
  decide

section Table

variable {table : Table} (named : IsNameText table.name.toList)

include named

theorem lineOperation?_endpointRow {endpoint : Endpoint} (isEndpoint : endpoint ∈ Endpoint.all) :
    lineOperation? (endpointRow table.name endpoint).toList =
      some (Operation.ofEndpoint table.name endpoint) := by
  have summary : ∀ endpoint ∈ Endpoint.all,
      '\x60' ∉ (" | " ++ endpoint.summary ++ " |").toList := by decide
  have title : '\x60' ∉ (endpoint.title table.name).toList :=
    Operation.not_mem_title named endpoint (by decide) (by decide)
  have text : (endpointRow table.name endpoint).toList =
      "| ".toList ++ '\x60' :: ((endpoint.title table.name).toList ++
        '\x60' :: (" | " ++ endpoint.summary ++ " |").toList) := by
    simp [endpointRow, String.join_cons]
  rw [lineOperation?, text, Text.splitOn_append_separator, Text.splitOn_append_separator,
    Text.splitOn_of_not_mem title, Text.splitOn_of_not_mem (summary endpoint isEndpoint)]
  exact Operation.ofTitle?_title named endpoint

theorem operations_tableSection :
    ((tableSection table).map String.toList).filterMap lineOperation? =
      Endpoint.all.map (Operation.ofEndpoint table.name) := by
  have heading : lineOperation? ("### Table: " ++ table.name).toList = none := by
    have plain : '\x60' ∉ ("### Table: " ++ table.name).toList := by
      have name : '\x60' ∉ table.name.toList := named.not_mem (by decide)
      simp [name]
    rw [lineOperation?, Text.splitOn_of_not_mem plain]
  have empty : lineOperation? "".toList = none := by decide
  have header : lineOperation? "| Endpoint | Description |".toList = none := by decide
  have ruler : lineOperation? "| --- | --- |".toList = none := by decide
  have rows : ((Endpoint.all.map (endpointRow table.name)).map String.toList).filterMap
      lineOperation? = Endpoint.all.map (Operation.ofEndpoint table.name) := by
    rw [List.map_map, List.filterMap_map, ← List.filterMap_eq_map]
    refine List.filterMap_congr fun endpoint isEndpoint => ?_
    simp only [Function.comp_apply, lineOperation?_endpointRow named isEndpoint]
  simp only [tableSection, List.map_append, List.filterMap_append, List.map_cons, List.map_nil,
    List.filterMap_cons, List.filterMap_nil, List.nil_append, empty, heading, header, ruler, rows]

theorem newline_not_mem_tableSection : ∀ line ∈ tableSection table, '\n' ∉ line.toList := by
  have name : '\n' ∉ table.name.toList := named.not_mem (by decide)
  have row (endpoint : Endpoint) (isEndpoint : endpoint ∈ Endpoint.all) :
      '\n' ∉ (endpointRow table.name endpoint).toList := by
    have summary : ∀ endpoint ∈ Endpoint.all, '\n' ∉ endpoint.summary.toList := by decide
    have title : '\n' ∉ (endpoint.title table.name).toList :=
      Operation.not_mem_title named endpoint (by decide) (by decide)
    simp [endpointRow, String.join_cons, title, summary endpoint isEndpoint]
  simp only [tableSection, List.forall_mem_append, List.forall_mem_cons, List.forall_mem_map]
  exact ⟨⟨by simp, by simp [name], by simp, by simp, by simp⟩, row⟩

end Table

/-- The operations that the readme of a schema names, line by line. -/
theorem operations_render {schema : Schema}
    (named : ∀ table ∈ schema.tables, IsNameText table.name.toList) :
    operations (render schema) = Operation.health ::
      schema.tables.flatMap fun table => Endpoint.all.map (Operation.ofEndpoint table.name) := by
  obtain ⟨introductionFree, introductionRead⟩ := introduction_lines
  have free : ∀ line ∈ lines schema, '\n' ∉ line.toList := by
    simp only [lines, List.forall_mem_append, List.forall_mem_singleton, List.forall_mem_flatMap]
    refine ⟨⟨fun line isLine => ?_, fun table isTable => ?_⟩, by simp⟩
    · exact introductionFree _ (List.mem_map_of_mem isLine)
    · exact newline_not_mem_tableSection (named table isTable)
  have split : Text.splitOn '\n' (render schema).toList = (lines schema).map String.toList :=
    Text.splitOn_intercalate (by simp [lines]) free
  have sections : ((schema.tables.flatMap tableSection).map String.toList).filterMap
      lineOperation? = schema.tables.flatMap fun table =>
        Endpoint.all.map (Operation.ofEndpoint table.name) := by
    rw [List.map_flatMap, List.filterMap_flatMap]
    exact List.flatMap_congr fun table isTable => operations_tableSection (named table isTable)
  have last : lineOperation? "".toList = none := by decide
  rw [operations, split, lines]
  simp only [List.map_append, List.filterMap_append, introductionRead, sections, List.map_cons,
    List.map_nil, List.filterMap_cons, List.filterMap_nil, last, List.append_nil,
    List.cons_append, List.nil_append]

theorem mem_operations_render {sql : String} {operation : Operation} :
    operation ∈ operations (render (Sql.parse sql)) ↔
      Operation.IsServed (Sql.parse sql).tables operation := by
  rw [operations_render fun table isTable => (Sql.name_of_mem_parse isTable).2]
  simp only [List.mem_cons, List.mem_flatMap, List.mem_map, Operation.IsServed, eq_comm]

end Readme

namespace Postman

/-- The requests of all folders. -/
def Collection.requests (collection : Collection) : List Request :=
  collection.folders.flatMap (·.requests)

/-- The operation that a request asks for behind a base address: its method at the segments that
its address adds. -/
def Request.operation (base : RequestUrl) (request : Request) : Operation :=
  .ofSegments request.method (request.url.path.drop base.path.length)

section Folder

variable (base : RequestUrl) (table : Table)

/-- The addresses of requests go on from the base. -/
theorem exists_added {request : Request} (isRequest : request ∈ (folder base table).requests) :
    ∃ added, request.url = base.append added := by
  simp only [folder, List.mem_cons, List.not_mem_nil, or_false] at isRequest
  rcases isRequest with rfl | rfl | rfl | rfl | rfl <;> exact ⟨_, rfl⟩

/-- Behind the base, the segments of an address are those that it adds. -/
theorem operation_eq {request : Request} {added : List String}
    (address : request.url = base.append added) :
    request.operation base = .ofSegments request.method added := by
  rw [Request.operation, address]
  simp [RequestUrl.append]

/-- The requests to a table have the titles of its endpoints as names, and they ask for the
operations of these endpoints. -/
theorem requests_folder :
    (folder base table).requests.map (fun request => (request.name, request.operation base)) =
      Endpoint.all.map fun endpoint =>
        (endpoint.title table.name, Operation.ofEndpoint table.name endpoint) := by
  have row : "1" ∈ Operation.rowMarks := by decide
  simp only [folder, Request.operation, RequestUrl.append, List.drop_left, List.map_cons,
    List.map_nil, Operation.ofSegments_collection, Operation.ofSegments_item _ _ row, Endpoint.all,
    Operation.ofEndpoint, Endpoint.title, Endpoint.route, Method.word, List.cons.injEq,
    Prod.mk.injEq, and_true]
  refine ⟨?_, ?_, ?_, ?_, ?_⟩ <;> exact String.toList_injective (by simp [String.join_cons])

theorem operations_folder :
    (folder base table).requests.map (·.operation base) =
      Endpoint.all.map (Operation.ofEndpoint table.name) := by
  have pairs := congrArg (List.map Prod.snd) (requests_folder base table)
  rwa [List.map_map, List.map_map] at pairs

/-- A request to a table has its operation as its name. -/
theorem ofTitle?_name (named : IsNameText table.name.toList) {request : Request}
    (isRequest : request ∈ (folder base table).requests) :
    Operation.ofTitle? request.name.toList = some (request.operation base) := by
  have pair : (request.name, request.operation base) ∈ Endpoint.all.map fun endpoint =>
      (endpoint.title table.name, Operation.ofEndpoint table.name endpoint) := by
    rw [← requests_folder base]
    exact List.mem_map_of_mem isRequest
  obtain ⟨endpoint, -, same⟩ := List.mem_map.1 pair
  obtain ⟨name, operation⟩ := Prod.mk.inj same
  rw [← name, ← operation]
  exact Operation.ofTitle?_title named endpoint

end Folder

/-- From a valid address every schema gets a collection, with a folder for each table. -/
theorem exists_collection {settings : ApiSettings}
    (valid : (Url.parse settings.baseUrl).isOk = true) (schema : Schema) :
    ∃ base made, baseUrl settings.baseUrl = .ok base ∧ collection schema settings = .ok made ∧
      made.folders = schema.tables.map (folder base) := by
  unfold collection baseUrl
  cases found : Url.parse settings.baseUrl with
  | ok url => exact ⟨_, _, rfl, rfl, rfl⟩
  | error fault => simp [found, Except.isOk, Except.toBool] at valid

/-- From a valid address every schema gets the text of a collection. -/
theorem exists_render {settings : ApiSettings}
    (valid : (Url.parse settings.baseUrl).isOk = true) (schema : Schema) :
    ∃ text, render schema settings = .ok text := by
  obtain ⟨-, made, -, built, -⟩ := exists_collection valid schema
  exact ⟨Json.render made.toDocument, by rw [render, built]; rfl⟩

/-- The address of a backend for which there are no settings is valid. -/
theorem isOk_parse_baseUrl : (Url.parse ({} : ApiSettings).baseUrl).isOk = true := by
  decide +kernel

/-- The operations of a collection whose requests go on from a base address. -/
def Collection.operations (base : RequestUrl) (collection : Collection) : List Operation :=
  collection.requests.map (·.operation base)

/-- The operations of a collection with a folder for each table, and the question for the backend's
health, are those that the backend serves. -/
theorem mem_operations_of_folders {base : RequestUrl} {made : Collection} {tables : List Table}
    (folders : made.folders = tables.map (folder base)) {operation : Operation} :
    operation ∈ Operation.health :: made.operations base ↔
      Operation.IsServed tables operation := by
  simp only [Collection.operations, Collection.requests, folders, List.map_flatMap,
    List.flatMap_map, operations_folder, List.mem_cons, List.mem_flatMap, List.mem_map,
    Operation.IsServed, eq_comm]

end Postman

namespace Operation

/-- The readme, the OpenAPI document and the collection list the same operations, those that the
backend serves; the collection leaves out the question for its health. The name of each request
gives its method and the segments that its address adds to the base. -/
theorem descriptions_agree {settings : ApiSettings}
    (valid : (Url.parse settings.baseUrl).isOk = true) (sql : String) :
    ∃ base collection, Postman.baseUrl settings.baseUrl = .ok base ∧
      Postman.collection (Sql.parse sql) settings = .ok collection ∧
      (∀ operation,
        (operation ∈ Readme.operations (Readme.render (Sql.parse sql)) ↔
          operation ∈ OpenApi.operations (OpenApi.document (Sql.parse sql) settings)) ∧
        (operation ∈ Readme.operations (Readme.render (Sql.parse sql)) ↔
          operation ∈ health :: collection.operations base) ∧
        (operation ∈ Readme.operations (Readme.render (Sql.parse sql)) ↔
          IsServed (Sql.parse sql).tables operation)) ∧
      ∀ request ∈ collection.requests, ∃ added,
        request.url.path = base.path ++ added ∧
        request.url.raw = String.join [base.raw, "/", String.intercalate "/" added] ∧
        ofTitle? request.name.toList = some (ofSegments request.method added) := by
  obtain ⟨base, made, parsed, built, folders⟩ := Postman.exists_collection valid (Sql.parse sql)
  refine ⟨base, made, parsed, built, fun operation => ?_, fun request isRequest => ?_⟩
  · simp only [Readme.mem_operations_render, OpenApi.mem_operations,
      Postman.mem_operations_of_folders folders, and_self]
  · rw [Postman.Collection.requests, folders] at isRequest
    obtain ⟨folder, isFolder, inFolder⟩ := List.mem_flatMap.1 isRequest
    obtain ⟨table, isTable, rfl⟩ := List.mem_map.1 isFolder
    obtain ⟨added, address⟩ := Postman.exists_added base table inFolder
    refine ⟨added, by rw [address]; rfl, by rw [address]; rfl, ?_⟩
    rw [← Postman.operation_eq base address]
    exact Postman.ofTitle?_name base table (Sql.name_of_mem_parse isTable).2 inFolder

/-- The text of a schema whose tables have the path for a backend's health, and the mark of a row,
as their names. -/
def reservedSql : String :=
  "CREATE TABLE health (\na INT\n) ENGINE;CREATE TABLE 1 (\nb INT\n) ENGINE;"

/-- Settings with an address that has a path of its own. -/
def versionedSettings : ApiSettings where
  baseUrl := "http://api/v1"

theorem isOk_parse_versionedSettings : (Url.parse versionedSettings.baseUrl).isOk = true := by
  decide +kernel

/-- The descriptions agree on the question for the backend's health, which is also a list of rows,
and on a row of a table whose name is the mark of a row. -/
theorem reserved_names_agree :
    (Url.parse versionedSettings.baseUrl).isOk = true ∧
      (Sql.parse reservedSql).tables.map (·.name) = ["health", "1"] ∧
      ∃ base made, Postman.baseUrl versionedSettings.baseUrl = .ok base ∧
        Postman.collection (Sql.parse reservedSql) versionedSettings = .ok made ∧
        ∀ operation ∈ [⟨.get, ["health"]⟩, ⟨.put, ["1", ":id"]⟩],
          operation ∈ Readme.operations (Readme.render (Sql.parse reservedSql)) ∧
          operation ∈ OpenApi.operations
            (OpenApi.document (Sql.parse reservedSql) versionedSettings) ∧
          operation ∈ health :: made.operations base := by
  have valid := isOk_parse_versionedSettings
  have names : (Sql.parse reservedSql).tables.map (·.name) = ["health", "1"] := by decide
  obtain ⟨base, made, parsed, built, agree, -⟩ := descriptions_agree valid reservedSql
  refine ⟨valid, names, base, made, parsed, built, fun operation listed => ?_⟩
  have isServed : IsServed (Sql.parse reservedSql).tables operation := by
    simp only [List.mem_cons, List.not_mem_nil, or_false] at listed
    rcases listed with rfl | rfl
    · exact .inl rfl
    · have isName : "1" ∈ (Sql.parse reservedSql).tables.map (·.name) := by simp [names]
      obtain ⟨table, isTable, name⟩ := List.mem_map.1 isName
      refine .inr ⟨table, isTable, ⟨.put, .item, "Update a record by id."⟩, by decide, ?_⟩
      rw [name]
      rfl
  obtain ⟨openApi, requests, served⟩ := agree operation
  have inReadme := served.2 isServed
  exact ⟨inReadme, openApi.1 inReadme, requests.1 inReadme⟩

end Operation

end SchemaScaffold
