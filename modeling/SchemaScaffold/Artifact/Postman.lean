import SchemaScaffold.Artifact.Endpoint
import SchemaScaffold.Json.Printer
import SchemaScaffold.Settings
import SchemaScaffold.Url.Basic

/-!
# Postman collection

A collection of requests that exercises every endpoint of every table: a folder for each table,
and in it a request for each endpoint, with sample values in its body.
-/

namespace SchemaScaffold
namespace Postman

/-- The schema of the collection format. -/
def schemaUrl : String :=
  "https://schema.getpostman.com/json/collection/v2.1.0/collection.json"

/-- An address as text and in parts. -/
structure RequestUrl where
  raw : String
  protocol : String
  /-- The host between its dots. -/
  host : List String
  port : Option String
  path : List String
deriving DecidableEq, Repr

/-- The address without the slashes at its end, and its parts without empty segments. -/
def baseUrl (text : String) : Except Url.Fault RequestUrl :=
  (Url.parse text).map fun url => {
    raw := String.ofList ((text.toList.reverse.dropWhile (· == '/')).reverse)
    protocol := String.ofList url.scheme
    host := match url.host with
      | none => []
      | some host => (Text.splitOn '.' host.text).map String.ofList
    port := url.port.map fun port => String.ofList (Text.decimal port)
    path := (url.segments.filter (!·.isEmpty)).map String.ofList }

/-- An address that goes on with more segments. -/
def RequestUrl.append (base : RequestUrl) (segments : List String) : RequestUrl :=
  { base with
    raw := String.join [base.raw, "/", String.intercalate "/" segments]
    path := base.path ++ segments }

/-- A sample as a part of a document. -/
def sampleDocument : Sample → Document
  | .integer value => .natural value
  | .number whole tenths =>
    .number (String.ofList (Text.decimal whole ++ '.' :: Text.decimal tenths))
  | .text value => .text value

/-- The columns that a request's body shows. -/
def bodyColumns (table : Table) : List Column :=
  table.inputColumns.filter (·.name != "id")

/-- The body of a request: a sample value for every column that clients send. -/
def body (table : Table) : Document :=
  .record ((bodyColumns table).map fun column =>
    (column.name, sampleDocument (Sample.ofDefinition column.definition)))

/-- A request to a table. -/
structure Request where
  name : String
  method : Method
  url : RequestUrl
  body : Option String
deriving DecidableEq, Repr

/-- The requests to a table. -/
structure Folder where
  name : String
  requests : List Request
deriving DecidableEq, Repr

/-- The requests to all rows of a table and to the first one, which stands for any. -/
def folder (base : RequestUrl) (table : Table) : Folder :=
  let text := Json.render (body table)
  let rows := base.append [table.name]
  let row := base.append [table.name, "1"]
  ⟨table.name, [
    ⟨"GET /" ++ table.name, .get, rows, none⟩,
    ⟨String.join ["GET /", table.name, "/:id"], .get, row, none⟩,
    ⟨"POST /" ++ table.name, .post, rows, some text⟩,
    ⟨String.join ["PUT /", table.name, "/:id"], .put, row, some text⟩,
    ⟨String.join ["DELETE /", table.name, "/:id"], .delete, row, none⟩]⟩

/-- The requests to all tables. -/
structure Collection where
  name : String
  description : String
  /-- The address of the backend, as it was given. -/
  address : String
  folders : List Folder
deriving DecidableEq, Repr

/-- The collection of a schema. -/
def collection (schema : Schema) (settings : ApiSettings) : Except Url.Fault Collection :=
  (baseUrl settings.baseUrl).map fun base => {
    name := settings.collectionName
    description := settings.collectionDescription
    address := settings.baseUrl
    folders := schema.tables.map (folder base) }

def RequestUrl.toDocument (url : RequestUrl) : Document :=
  .record ([("raw", .text url.raw), ("protocol", .text url.protocol),
    ("host", Document.texts url.host)] ++ Document.optionalText "port" url.port ++
    [("path", Document.texts url.path)])

/-- The body of a request as a member, if there is one. -/
def bodyMember (body : Option String) : List (String × Document) :=
  match body with
  | none => []
  | some text => [("body", .record [("mode", .text "raw"), ("raw", .text text)])]

def Request.toDocument (request : Request) : Document :=
  .record [("name", .text request.name), ("request", .record (
    [("method", .text request.method.word),
      ("header", .list [.record [("key", .text "Content-Type"),
        ("value", .text "application/json")]]),
      ("url", request.url.toDocument)] ++ bodyMember request.body))]

def Folder.toDocument (folder : Folder) : Document :=
  .record [("name", .text folder.name),
    ("item", .list (folder.requests.map Request.toDocument))]

def Collection.toDocument (collection : Collection) : Document :=
  .record [
    ("info", .record [("name", .text collection.name),
      ("description", .text collection.description), ("schema", .text schemaUrl)]),
    ("variable", .list [.record [("key", .text "baseUrl"), ("value", .text collection.address)]]),
    ("item", .list (collection.folders.map Folder.toDocument))]

/-- The JSON text of a schema's collection. -/
def render (schema : Schema) (settings : ApiSettings) : Except Url.Fault String :=
  (collection schema settings).map fun collection => Json.render collection.toDocument

end Postman
end SchemaScaffold
