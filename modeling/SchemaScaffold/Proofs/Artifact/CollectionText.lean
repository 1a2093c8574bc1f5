import SchemaScaffold.Proofs.Artifact.SampleBody
import SchemaScaffold.Proofs.Json.Shape

/-!
# Reading collections

The JSON text of a collection is read back as the collection: a folder for each table, and in it
the requests to the table's endpoints. The body of a request is a JSON text within that text, and
it is read as a sample value for each column that clients send.
-/

namespace SchemaScaffold

namespace Json.Value

/-- The kind of a value; a number is an integer if it is written in digits alone. -/
def kind? : Value → Option FieldKind
  | .number literal =>
    some (if literal.toList.all fun c => c.isDigit || c == '-' then .integer else .number)
  | .text (some _) => some .string
  | _ => none

/-- The value of a sample. -/
def ofSample : Sample → Value
  | .integer value => .number (String.ofList (Text.decimal value))
  | .number whole tenths =>
    .number (String.ofList (Text.decimal whole ++ '.' :: Text.decimal tenths))
  | .text value => .text (some value)

theorem ofDocument_sampleDocument (sample : Sample) :
    ofDocument (Postman.sampleDocument sample) = ofSample sample := by
  cases sample <;> rfl

theorem kind?_ofSample (sample : Sample) : (ofSample sample).kind? = some sample.kind := by
  cases sample with
  | integer value =>
    have digits : ∀ c ∈ Text.decimal value, c.isDigit = true :=
      fun c => Text.isDigit_of_mem_decimal
    have isWhole : ((Text.decimal value).all fun c => c.isDigit || c == '-') = true :=
      List.all_eq_true.2 fun c member => by simp [digits c member]
    simp [ofSample, kind?, Sample.kind, isWhole]
  | number whole tenths => simp [ofSample, kind?, Sample.kind]
  | text value => rfl

end Json.Value

namespace Postman

open Json (Value IsWritable)
open Json.Value (fields_ofDocument_record mapM_ofItems mapM_option)

/-- Texts in a list. -/
def textsOf? (value : Value) : Option (List String) :=
  value.asList?.bind (·.mapM Value.asText?)

/-- The address that a value describes. -/
def RequestUrl.ofJson? (value : Value) : Option RequestUrl :=
  match value.fields ["raw", "protocol", "host", "port", "path"] with
  | some [some raw, some protocol, some host, port, some path] => do
    return ⟨← raw.asText?, ← protocol.asText?, ← textsOf? host, ← port.mapM Value.asText?,
      ← textsOf? path⟩
  | _ => none

/-- The text in the body of a request. -/
def bodyText? (value : Value) : Option String :=
  match value.fields ["mode", "raw"] with
  | some [some mode, some raw] => if mode.asText? = some "raw" then raw.asText? else none
  | _ => none

/-- The request that a value describes. -/
def Request.ofJson? (value : Value) : Option Request :=
  match value.fields ["name", "request"] with
  | some [some name, some request] =>
    match request.fields ["method", "header", "url", "body"] with
    | some [some method, some _, some url, body] => do
      return ⟨← name.asText?, ← (← method.asText?) |> fun word => Method.ofWord? word.toList,
        ← RequestUrl.ofJson? url, ← body.mapM bodyText?⟩
    | _ => none
  | _ => none

/-- The folder that a value describes. -/
def Folder.ofJson? (value : Value) : Option Folder :=
  match value.fields ["name", "item"] with
  | some [some name, some items] => do
    return ⟨← name.asText?, ← (← items.asList?).mapM Request.ofJson?⟩
  | _ => none

/-- The value of the only variable of a collection. -/
def addressOf? (value : Value) : Option String :=
  match value.asList? with
  | some [entry] =>
    match entry.fields ["key", "value"] with
    | some [some key, some value] => if key.asText? = some "baseUrl" then value.asText? else none
    | _ => none
  | _ => none

/-- The collection that a value describes. -/
def Collection.ofJson? (value : Value) : Option Collection :=
  match value.fields ["info", "variable", "item"] with
  | some [some info, some entries, some items] =>
    match info.fields ["name", "description", "schema"] with
    | some [some name, some description, some _] => do
      return ⟨← name.asText?, ← description.asText?, ← addressOf? entries,
        ← (← items.asList?).mapM Folder.ofJson?⟩
    | _ => none
  | _ => none

theorem textsOf?_texts (values : List String) :
    textsOf? (Value.ofDocument (Document.texts values)) = some values := by
  rw [textsOf?, Document.texts, Value.ofDocument]
  exact mapM_ofItems fun _ _ => rfl

theorem RequestUrl.ofJson?_toDocument (url : RequestUrl) :
    RequestUrl.ofJson? (Value.ofDocument url.toDocument) = some url := by
  have shape : (Value.ofDocument url.toDocument).fields
      ["raw", "protocol", "host", "port", "path"] =
        some [some (.text (some url.raw)), some (.text (some url.protocol)),
          some (Value.ofDocument (Document.texts url.host)),
          url.port.map fun port => .text (some port),
          some (Value.ofDocument (Document.texts url.path))] := by
    rw [RequestUrl.toDocument]
    cases url.port with
    | none =>
      rw [fields_ofDocument_record _ (by simp [Document.optionalText])]
      simp [Document.optionalText, List.lookup_cons, Value.ofDocument]
    | some port =>
      rw [fields_ofDocument_record _ (by simp [Document.optionalText])]
      simp [Document.optionalText, List.lookup_cons, Value.ofDocument]
  have port := @mapM_option _ (fun port => .text (some port)) Value.asText? (fun _ => rfl) url.port
  simp [RequestUrl.ofJson?, shape, textsOf?_texts, Value.asText?, port]

/-- The value of a request's body. -/
def bodyValue (text : String) : Value :=
  .record [(some "mode", .text (some "raw")), (some "raw", .text (some text))]

theorem bodyText?_bodyValue (text : String) : bodyText? (bodyValue text) = some text := by
  simp [bodyText?, bodyValue, Value.fields, Value.uniqueMember, Value.asText?]

/-- What a request is behind its name. -/
def Request.inner (request : Request) : Document :=
  .record ([("method", .text request.method.word),
    ("header", .list [.record [("key", .text "Content-Type"),
      ("value", .text "application/json")]]),
    ("url", request.url.toDocument)] ++ bodyMember request.body)

theorem fields_inner (request : Request) :
    ∃ header, (Value.ofDocument request.inner).fields ["method", "header", "url", "body"] =
      some [some (.text (some request.method.word)), some header,
        some (Value.ofDocument request.url.toDocument), request.body.map bodyValue] := by
  rw [Request.inner]
  cases request.body with
  | none =>
    rw [fields_ofDocument_record _ (by simp [bodyMember])]
    simp [bodyMember, List.lookup_cons, Value.ofDocument]
  | some text =>
    rw [fields_ofDocument_record _ (by simp [bodyMember])]
    simp [bodyMember, List.lookup_cons, Value.ofDocument, Value.ofMembers, bodyValue]

theorem Request.ofJson?_toDocument (request : Request) :
    Request.ofJson? (Value.ofDocument request.toDocument) = some request := by
  have outer : (Value.ofDocument request.toDocument).fields ["name", "request"] =
      some [some (.text (some request.name)), some (Value.ofDocument request.inner)] := by
    rw [Request.toDocument, fields_ofDocument_record _ (by simp)]
    simp [List.lookup_cons, Value.ofDocument, Request.inner]
  obtain ⟨header, inner⟩ := fields_inner request
  have word : Method.ofWord? request.method.word.toList = some request.method :=
    Operation.ofWord?_word request.method
  have body := mapM_option bodyText?_bodyValue request.body
  simp [Request.ofJson?, outer, inner, Value.asText?, word, request.url.ofJson?_toDocument, body]

theorem Folder.ofJson?_toDocument (folder : Folder) :
    Folder.ofJson? (Value.ofDocument folder.toDocument) = some folder := by
  have shape : (Value.ofDocument folder.toDocument).fields ["name", "item"] =
      some [some (.text (some folder.name)),
        some (.list (Value.ofItems (folder.requests.map Request.toDocument)))] := by
    rw [Folder.toDocument, fields_ofDocument_record _ (by simp)]
    simp [List.lookup_cons, Value.ofDocument]
  have requests : (Value.ofItems (folder.requests.map Request.toDocument)).mapM Request.ofJson? =
      some folder.requests :=
    mapM_ofItems fun request _ => request.ofJson?_toDocument
  simp [Folder.ofJson?, shape, Value.asText?, Value.asList?, requests]

/-- What is said of a collection as a whole. -/
def Collection.information (collection : Collection) : Document :=
  .record [("name", .text collection.name), ("description", .text collection.description),
    ("schema", .text schemaUrl)]

/-- The only variable of a collection, in a list. -/
def Collection.variableList (collection : Collection) : Document :=
  .list [.record [("key", .text "baseUrl"), ("value", .text collection.address)]]

theorem Collection.ofJson?_toDocument (collection : Collection) :
    Collection.ofJson? (Value.ofDocument collection.toDocument) = some collection := by
  have shape : (Value.ofDocument collection.toDocument).fields ["info", "variable", "item"] =
      some [some (Value.ofDocument collection.information),
        some (Value.ofDocument collection.variableList),
        some (.list (Value.ofItems (collection.folders.map Folder.toDocument)))] := by
    rw [Collection.toDocument, fields_ofDocument_record _ (by simp)]
    simp [List.lookup_cons, Value.ofDocument, Collection.information, Collection.variableList]
  have information : (Value.ofDocument collection.information).fields
      ["name", "description", "schema"] =
        some [some (.text (some collection.name)), some (.text (some collection.description)),
          some (.text (some schemaUrl))] := by
    rw [Collection.information, fields_ofDocument_record _ (by simp)]
    simp [List.lookup_cons, Value.ofDocument]
  have address : addressOf? (Value.ofDocument collection.variableList) =
      some collection.address := by
    simp [addressOf?, Collection.variableList, Value.ofDocument, Value.ofItems, Value.ofMembers,
      Value.asList?, Value.fields, Value.uniqueMember, Value.asText?]
  have folders : (Value.ofItems (collection.folders.map Folder.toDocument)).mapM Folder.ofJson? =
      some collection.folders :=
    mapM_ofItems fun folder _ => folder.ofJson?_toDocument
  simp [Collection.ofJson?, shape, information, address, Value.asText?, Value.asList?, folders]

theorem isWritable_texts (values : List String) : IsWritable (Document.texts values) := by
  refine .list fun item isItem => ?_
  obtain ⟨value, -, rfl⟩ := List.mem_map.1 isItem
  exact .text value

theorem isWritable_url (url : RequestUrl) : IsWritable url.toDocument := by
  refine .record ?_
  cases url.port <;>
    simp [Document.optionalText, IsWritable.text, isWritable_texts]

theorem isWritable_request (request : Request) : IsWritable request.toDocument := by
  have header : IsWritable (.list [.record [("key", .text "Content-Type"),
      ("value", .text "application/json")]]) := by
    refine .list ?_
    simp only [List.forall_mem_singleton]
    exact .record (by simp [IsWritable.text])
  have body (text : String) :
      IsWritable (.record [("mode", .text "raw"), ("raw", .text text)]) :=
    .record (by simp [IsWritable.text])
  refine .record ?_
  simp only [List.forall_mem_cons, IsWritable.text, true_and]
  refine ⟨.record ?_, by simp⟩
  cases request.body <;> simp [bodyMember, IsWritable.text, header, body, isWritable_url]

theorem isWritable_collection (collection : Collection) : IsWritable collection.toDocument := by
  have information : IsWritable collection.information := .record (by simp [IsWritable.text])
  have entry :
      IsWritable (.record [("key", .text "baseUrl"), ("value", .text collection.address)]) :=
    .record (by simp [IsWritable.text])
  have entries : IsWritable collection.variableList := .list (by simpa using entry)
  have folders : IsWritable (.list (collection.folders.map Folder.toDocument)) := by
    refine .list fun item isItem => ?_
    obtain ⟨folder, -, rfl⟩ := List.mem_map.1 isItem
    have requests : IsWritable (.list (folder.requests.map Request.toDocument)) := by
      refine .list fun item isItem => ?_
      obtain ⟨request, -, rfl⟩ := List.mem_map.1 isItem
      exact isWritable_request request
    exact .record (by simp [IsWritable.text, requests])
  refine .record ?_
  simp only [List.forall_mem_cons]
  exact ⟨information, entries, folders, by simp⟩

/-- Rows are sent to create one and to replace one. -/
def sendsRow (endpoint : Endpoint) : Bool :=
  endpoint.method == .post || endpoint.method == .put

/-- A member of a body shows a column: it has the column's name and sample, and the value is of
the type that the column's property declares. -/
structure Shows (column : Column) (member : Option String × Value) : Prop where
  name : member.1 = some column.name
  value : member.2 = Value.ofSample (Sample.ofDefinition column.definition)
  declared : ∃ kind, member.2.kind? = some kind ∧
    (OpenApi.columnProperty column).2.member? "type" = some (.text kind.word)

/-- A folder presents a table: there is a request for each endpoint in order, and those that send a
row have the same body, which shows the columns that clients send. -/
structure Presents (table : Table) (folder : Folder) (body : String)
    (members : List (Option String × Value)) : Prop where
  name : folder.name = table.name
  requests : folder.requests.map (fun request => (request.name, request.method, request.body)) =
    Endpoint.all.map fun endpoint =>
      (endpoint.title table.name, endpoint.method, if sendsRow endpoint then some body else none)
  read : Value.ofText? body = some (.record members)
  shows : List.Forall₂ Shows (table.inputColumns.filter (·.name != "id")) members

theorem shows_sample (column : Column) :
    Shows column (some column.name, Value.ofSample (Sample.ofDefinition column.definition)) := by
  refine ⟨rfl, by simp only, (FieldType.ofDefinition column.definition).kind, ?_, ?_⟩
  · rw [Value.kind?_ofSample, Sample.ofDefinition_kind]
  · simp [OpenApi.columnProperty]

theorem presents_folder (base : RequestUrl) (table : Table) :
    Presents table (folder base table) (Json.render (body table))
      (OpenApi.sampleMembers table) where
  name := rfl
  requests := by
    have names := congrArg (List.map Prod.fst) (requests_folder base table)
    simp only [folder, Endpoint.all, List.map_cons, List.map_nil, List.cons.injEq] at names ⊢
    obtain ⟨list, one, create, replace, delete, -⟩ := names
    simp [list, one, create, replace, delete, sendsRow]
  read := OpenApi.ofText?_body table
  shows := by
    rw [OpenApi.sampleMembers, bodyColumns, List.forall₂_map_right_iff, List.forall₂_same]
    intro column _
    rw [Value.ofDocument_sampleDocument]
    exact shows_sample column

/-- From a valid address every schema gets a collection whose text is read back as the collection:
there is a folder for each table in order, which presents it. -/
theorem collection_reads_back {settings : ApiSettings}
    (valid : (Url.parse settings.baseUrl).isOk = true) (schema : Schema) :
    ∃ made text, collection schema settings = .ok made ∧ render schema settings = .ok text ∧
      (Value.ofText? text).bind Collection.ofJson? = some made ∧
      List.Forall₂ (fun table folder => ∃ body members, Presents table folder body members)
        schema.tables made.folders := by
  obtain ⟨base, made, -, built, folders⟩ := exists_collection valid schema
  have read :
      (Value.ofText? (Json.render made.toDocument)).bind Collection.ofJson? = some made := by
    rw [Json.ofText?_render (isWritable_collection made), Option.bind_some,
      made.ofJson?_toDocument]
  refine ⟨made, Json.render made.toDocument, built, by rw [render, built]; rfl, read, ?_⟩
  rw [folders, List.forall₂_map_right_iff, List.forall₂_same]
  exact fun table _ => ⟨_, _, presents_folder base table⟩

/-- An enumeration with a quote and a backslash, in its name too. -/
def quotingColumn : Column :=
  Column.ofDefinition "c\"\n" "ENUM('\\\"d')"

/-- A table with that column and one that rows are numbered by. -/
def quotingTable : Table :=
  ⟨"a\"b\\", [quotingColumn, Column.ofDefinition "id" "INT"]⟩

/-- The body of a request shows the word of the enumeration as it stands in the definition. -/
theorem quoting_collection_reads_back :
    (Url.parse Operation.versionedSettings.baseUrl).isOk = true ∧
      ∃ made text, render ⟨none, [quotingTable]⟩ Operation.versionedSettings = .ok text ∧
        (Value.ofText? text).bind Collection.ofJson? = some made ∧
        ∃ folder body, made.folders = [folder] ∧ folder.name = "a\"b\\" ∧
          folder.requests.map (·.body) = [none, none, some body, some body, none] ∧
          Value.ofText? body = some (.record [(some "c\"\n", .text (some "\\\"d"))]) := by
  obtain ⟨made, text, -, rendered, read, folders⟩ :=
    collection_reads_back Operation.isOk_parse_versionedSettings ⟨none, [quotingTable]⟩
  obtain ⟨folder, others, ⟨body, members, presents⟩, noOthers, isOnly⟩ :=
    List.forall₂_cons_left_iff.1 folders
  rw [List.forall₂_nil_left_iff.1 noOthers] at isOnly
  have bodies := congrArg (List.map (·.2.2)) presents.requests
  have columns : quotingTable.inputColumns.filter (·.name != "id") = [quotingColumn] := by
    decide
  have sample : Sample.ofDefinition quotingColumn.definition = .text "\\\"d" := by decide
  have shows := presents.shows
  rw [columns] at shows
  obtain ⟨member, rest, shown, noRest, isMember⟩ := List.forall₂_cons_left_iff.1 shows
  have same : member = (some "c\"\n", .text (some "\\\"d")) :=
    Prod.ext shown.name (shown.value.trans (by rw [sample]; rfl))
  refine ⟨Operation.isOk_parse_versionedSettings, made, text, rendered, read, folder, body, isOnly,
    presents.name, ?_, ?_⟩
  · rw [List.map_map, List.map_map] at bodies
    exact bodies
  · rw [presents.read, isMember, List.forall₂_nil_left_iff.1 noRest, same]

end Postman
end SchemaScaffold
