import SchemaScaffold.Proofs.Artifact.Agreement
import SchemaScaffold.Proofs.Artifact.Components
import SchemaScaffold.Proofs.Json.RoundTrip

/-!
# Sample bodies and published schemas

The collection sends a sample body where the OpenAPI document publishes a schema of what clients
send. What the body holds is declared by the schema with the type that it has. The body leaves out
a column named `id`, also where the schema requires it.
-/

namespace SchemaScaffold

namespace Document

def asText? : Document → Option String
  | text value => some value
  | _ => none

def asTexts : Document → List String
  | list items => items.filterMap asText?
  | _ => []

end Document

namespace OpenApi

open Document (ofEntries)

/-- The type that a schema declares for a property. -/
def declaredType? (schema : Document) (name : String) : Option String :=
  (schema.follow? ["properties", name, "type"]).bind Document.asText?

/-- The properties that a schema requires. -/
def requiredNames (schema : Document) : List String :=
  ((schema.member? "required").map Document.asTexts).getD []

/-- A value is of a type. Whole numbers are numbers, too. -/
def isOfType (type : String) : Json.Value → Bool
  | .number literal =>
    type == "number" || type == "integer" && literal.toList.all fun c => c.isDigit || c == '-'
  | .text (some _) => type == "string"
  | _ => false

/-- A member is a property that a schema declares, with a value of the declared type. -/
def isDeclared (schema : Document) (member : Option String × Json.Value) : Bool :=
  ((member.1.bind (declaredType? schema)).map (isOfType · member.2)).getD false

/-- A body is valid for a schema: its members are declared, and what is required is among them. -/
def isValidBody (schema : Document) : Json.Value → Bool
  | .record members => members.all (isDeclared schema) &&
    (requiredNames schema).all fun name => (members.map (·.1)).contains (some name)
  | _ => false

/-- The schema that a document publishes for the body of an operation. -/
def publishedSchema? (path method : String) (document : Document) : Option Document :=
  (requestReference? path method document).bind document.resolve?

section InputSchema

variable {table : Table}

theorem requiredNames_inputSchema :
    requiredNames (inputSchema table).2 = (requiredColumns table).map (·.name) := by
  have texts (names : List String) : (Document.texts names).asTexts = names := by
    simp [Document.texts, Document.asTexts, List.filterMap_map, Function.comp_def, Document.asText?]
  unfold requiredNames inputSchema
  cases (requiredColumns table).map (·.name) with
  | nil => simp [List.lookup_cons]
  | cons name names => simp [List.lookup_cons, texts]

theorem declaredType?_inputSchema (distinct : (table.columns.map (·.name)).Nodup) {column : Column}
    (isInput : column ∈ table.inputColumns) :
    declaredType? (inputSchema table).2 column.name =
      some (FieldType.ofDefinition column.definition).kind.word := by
  have keys : ((table.inputColumns.map columnProperty).map (·.1)).Nodup := by
    rw [List.map_map]
    exact distinct.sublist (List.filter_sublist.map _)
  have found : (ofEntries (table.inputColumns.map columnProperty)).member? column.name =
      some (columnProperty column).2 := by
    rw [Document.member?_ofEntries]
    exact Document.lookup_reverse_of_nodup [] keys (List.mem_map_of_mem isInput)
  have properties : (inputSchema table).2.member? "properties" =
      some (ofEntries (table.inputColumns.map columnProperty)) := by
    simp [inputSchema, List.lookup_cons]
  rw [declaredType?, Document.follow?_cons, properties, Option.bind_some, Document.follow?_cons,
    found]
  simp [columnProperty, Document.asText?]

/-- A sample is of the type that is declared for its column. -/
theorem isOfType_sample (definition : String) :
    isOfType (FieldType.ofDefinition definition).kind.word
      (Json.Value.ofDocument (Postman.sampleDocument (Sample.ofDefinition definition))) = true := by
  rw [← Sample.ofDefinition_kind]
  cases Sample.ofDefinition definition with
  | integer value =>
    have digits : ∀ c ∈ Text.decimal value, c.isDigit = true :=
      fun c => Text.isDigit_of_mem_decimal
    simpa [Sample.kind, FieldKind.word, Postman.sampleDocument, Document.natural,
      Json.Value.ofDocument, isOfType] using fun c member => .inl (digits c member)
  | number whole tenths => rfl
  | text value => rfl

end InputSchema

section Body

theorem isWritable_sampleDocument (sample : Sample) :
    Json.IsWritable (Postman.sampleDocument sample) := by
  cases sample with
  | integer value => exact .number (by simpa using Json.Token.IsNumeral.whole value)
  | number whole tenths => exact .number (by simpa using Json.Token.IsNumeral.fraction whole tenths)
  | text value => exact .text value

/-- The members of a sample body, as they are read. -/
def sampleMembers (table : Table) : List (Option String × Json.Value) :=
  (Postman.bodyColumns table).map fun column =>
    (some column.name,
      Json.Value.ofDocument (Postman.sampleDocument (Sample.ofDefinition column.definition)))

/-- The text of a body is read as its members. -/
theorem ofText?_body (table : Table) :
    Json.Value.ofText? (Json.render (Postman.body table)) =
      some (.record (sampleMembers table)) := by
  have writable : Json.IsWritable (Postman.body table) := by
    refine .record fun member isMember => ?_
    obtain ⟨column, -, rfl⟩ := List.mem_map.1 isMember
    dsimp only
    exact isWritable_sampleDocument (Sample.ofDefinition column.definition)
  rw [Json.ofText?_render writable, Postman.body, Json.Value.ofDocument,
    Json.Value.ofMembers_eq_map, List.map_map]
  simp only [sampleMembers, Function.comp_def]

theorem mem_keys_sampleMembers {table : Table} {name : String} :
    some name ∈ (sampleMembers table).map (·.1) ↔
      name ≠ "id" ∧ ∃ column ∈ table.inputColumns, column.name = name := by
  simp only [sampleMembers, Postman.bodyColumns, List.map_map, List.mem_map, List.mem_filter,
    Function.comp_apply, Option.some.injEq, bne_iff_ne]
  constructor
  · rintro ⟨column, ⟨isInput, other⟩, rfl⟩
    exact ⟨other, column, isInput, rfl⟩
  · rintro ⟨other, column, isInput, rfl⟩
    exact ⟨column, ⟨isInput, other⟩, rfl⟩

/-- Every member of a body is declared by the schema of the input. -/
theorem isDeclared_of_mem_sampleMembers {table : Table}
    (distinct : (table.columns.map (·.name)).Nodup) {member : Option String × Json.Value}
    (isMember : member ∈ sampleMembers table) : isDeclared (inputSchema table).2 member = true := by
  obtain ⟨column, inBody, rfl⟩ := List.mem_map.1 isMember
  have isInput : column ∈ table.inputColumns := (List.mem_filter.1 inBody).1
  simp [isDeclared, declaredType?_inputSchema distinct isInput, isOfType_sample]

/-- A required property is in the body unless it is named `id`. -/
theorem mem_sampleMembers_iff_of_required {table : Table} {name : String}
    (required : name ∈ requiredNames (inputSchema table).2) :
    some name ∈ (sampleMembers table).map (·.1) ↔ name ≠ "id" := by
  rw [requiredNames_inputSchema] at required
  obtain ⟨column, isRequired, rfl⟩ := List.mem_map.1 required
  have isInput : column ∈ table.inputColumns := (List.mem_filter.1 isRequired).1
  rw [mem_keys_sampleMembers]
  exact and_iff_left ⟨column, isInput, rfl⟩

end Body

section Published

variable {sql : String} {before after : List Table} {table : Table} (settings : ApiSettings)

/-- The operations that create a row and replace one publish the schema of the table's input,
unless a later table defines another under the same name. -/
theorem publishedSchema?_table (split : (Sql.parse sql).tables = before ++ table :: after)
    (own : ∀ other ∈ after, ¬ Defines (inputName table.entityNames.pascal) other) :
    publishedSchema? ("/" ++ table.name) "post" (document (Sql.parse sql) settings) =
        some (inputSchema table).2 ∧
      publishedSchema? (String.join ["/", table.name, "/\x7bid\x7d"]) "put"
          (document (Sql.parse sql) settings) =
        some (inputSchema table).2 := by
  have isTable : table ∈ (Sql.parse sql).tables := by simp [split]
  obtain ⟨creates, replaces⟩ := requestReference?_table settings isTable
  have resolved := resolve?_inputSchema settings split
  rw [lastDefinition?_eq_none_iff.2 own, Option.getD_none] at resolved
  constructor
  · rw [publishedSchema?, creates, Option.bind_some, resolved]
  · rw [publishedSchema?, replaces, Option.bind_some, resolved]

end Published

/-- The collection sends one body to create a row of a table and to replace one, where the document
publishes the schema of the table's input. Every member of the body is a declared property with a
value of the declared type, and a required property is in the body exactly if it has another name
than `id`. -/
theorem sample_body_matches {sql : String} {settings : ApiSettings} {before after : List Table}
    {table : Table} (valid : (Url.parse settings.baseUrl).isOk = true)
    (split : (Sql.parse sql).tables = before ++ table :: after)
    (own : ∀ other ∈ after, ¬ Defines (inputName table.entityNames.pascal) other)
    (distinct : (table.columns.map (·.name)).Nodup) :
    ∃ made, Postman.collection (Sql.parse sql) settings = .ok made ∧
      ∃ folder ∈ made.folders, folder.name = table.name ∧
        ∃ text members schema,
          folder.requests.map (fun request => (request.method, request.body)) =
            [(.get, none), (.get, none), (.post, some text), (.put, some text), (.delete, none)] ∧
          Json.Value.ofText? text = some (.record members) ∧
          publishedSchema? ("/" ++ table.name) "post" (document (Sql.parse sql) settings) =
            some schema ∧
          publishedSchema? (String.join ["/", table.name, "/\x7bid\x7d"]) "put"
            (document (Sql.parse sql) settings) = some schema ∧
          (∀ member ∈ members, isDeclared schema member = true) ∧
          ∀ name ∈ requiredNames schema, some name ∈ members.map (·.1) ↔ name ≠ "id" := by
  obtain ⟨base, made, -, built, folders⟩ := Postman.exists_collection valid (Sql.parse sql)
  obtain ⟨creates, replaces⟩ := publishedSchema?_table settings split own
  have isFolder : Postman.folder base table ∈ made.folders := by
    rw [folders, split]
    simp
  exact ⟨made, built, _, isFolder, rfl, Json.render (Postman.body table), sampleMembers table,
    (inputSchema table).2, rfl, ofText?_body table, creates, replaces,
    fun _ => isDeclared_of_mem_sampleMembers distinct, fun _ => mem_sampleMembers_iff_of_required⟩

/-- The text of a schema with a table whose rows are numbered by clients. -/
def accountsSql : String :=
  String.join ["CREATE TABLE accounts (\nid CHAR(36) NOT NULL,\nname TEXT NOT NULL\n) ENGINE;",
    "CREATE TABLE users (\nname TEXT\n) ENGINE;"]

/-- The first table of the text. -/
def accounts : Table :=
  ⟨"accounts", [Column.ofDefinition "id" "CHAR(36) NOT NULL",
    Column.ofDefinition "name" "TEXT NOT NULL"]⟩

/-- The tables behind the first one. -/
def furtherTables : List Table :=
  [⟨"users", [Column.ofDefinition "name" "TEXT"]⟩]

theorem tables_accountsSql : (Sql.parse accountsSql).tables = [] ++ accounts :: furtherTables := by
  rw [Sql.parse_eq, accountsSql, String.toList_join]
  simp only [List.flatMap_cons, List.flatMap_nil]
  repeat rw [String.toList_ofList]
  decide +kernel

/-- The body for an account holds the required name. -/
theorem accounts_body_has_name :
    (Url.parse Operation.versionedSettings.baseUrl).isOk = true ∧
      (Sql.parse accountsSql).tables = [] ++ accounts :: furtherTables ∧
      (∀ other ∈ furtherTables, ¬ Defines (inputName accounts.entityNames.pascal) other) ∧
      (accounts.columns.map (·.name)).Nodup ∧
      ∃ made, Postman.collection (Sql.parse accountsSql) Operation.versionedSettings = .ok made ∧
        ∃ folder ∈ made.folders, ∃ text members,
          (.post, some text) ∈ folder.requests.map (fun request => (request.method, request.body)) ∧
          Json.Value.ofText? text = some (.record members) ∧ some "name" ∈ members.map (·.1) := by
  have valid := Operation.isOk_parse_versionedSettings
  have own : ∀ other ∈ furtherTables, ¬ Defines (inputName accounts.entityNames.pascal) other := by
    decide
  have distinct : (accounts.columns.map (·.name)).Nodup := by decide
  refine ⟨valid, tables_accountsSql, own, distinct, ?_⟩
  obtain ⟨made, built, folder, isFolder, -, text, members, schema, requests, read, published, -, -,
    required⟩ := sample_body_matches valid tables_accountsSql own distinct
  refine ⟨made, built, folder, isFolder, text, members, by simp [requests], read, ?_⟩
  have publishes : schema = (inputSchema accounts).2 := by
    have table := (publishedSchema?_table Operation.versionedSettings tables_accountsSql own).1
    rw [published] at table
    exact Option.some.inj table
  have isRequired : "name" ∈ requiredNames schema := by
    rw [publishes, requiredNames_inputSchema]
    decide
  exact (required "name" isRequired).2 (by decide)

/-- Whether the body to create a row of a table is valid for the published schema. -/
def sendsValidBody? (document : Document) (table : Table) : Option Bool := do
  let schema ← publishedSchema? ("/" ++ table.name) "post" document
  let body ← Json.Value.ofText? (Json.render (Postman.body table))
  return isValidBody schema body

theorem sendsValidBody?_eq (document : Document) : sendsValidBody? document = fun table =>
    (publishedSchema? ("/" ++ table.name) "post" document).map fun schema =>
      isValidBody schema (.record (sampleMembers table)) := by
  funext table
  rw [sendsValidBody?, ofText?_body]
  cases publishedSchema? ("/" ++ table.name) "post" document <;> rfl

/-- The body for an account lacks the required `id`, and the body for a user has a member that the
schema does not declare where a later table defines the input of users, although no entities have
the same name and no columns of a table have. -/
theorem bodies_differ_from_schemas :
    ((Sql.parse accountsSql).tables.map
        (sendsValidBody? (document (Sql.parse accountsSql) {})) = [some false, some true] ∧
      ((Sql.parse accountsSql).tables.map (·.entityNames.pascal)).Nodup ∧
      ∀ table ∈ (Sql.parse accountsSql).tables, (table.columns.map (·.name)).Nodup) ∧
    (Sql.parse clashingSql).tables.map
        (sendsValidBody? (document (Sql.parse clashingSql) {})) =
      [some false, some true, some true] ∧
    ((Sql.parse clashingSql).tables.map (·.entityNames.pascal)).Nodup ∧
    ∀ table ∈ (Sql.parse clashingSql).tables, (table.columns.map (·.name)).Nodup := by
  have accountsDocument : document (Sql.parse accountsSql) {} =
      document ⟨none, accounts :: furtherTables⟩ {} := document_congr tables_accountsSql {}
  have clashingDocument : document (Sql.parse clashingSql) {} =
      document ⟨none, clashingTables⟩ {} := document_congr tables_clashingSql {}
  rw [accountsDocument, clashingDocument, tables_accountsSql, tables_clashingSql,
    sendsValidBody?_eq, sendsValidBody?_eq]
  refine ⟨⟨?_, ?_, ?_⟩, ?_, ?_, ?_⟩ <;> decide +kernel

end OpenApi
end SchemaScaffold
