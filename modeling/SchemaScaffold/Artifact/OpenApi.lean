import SchemaScaffold.Artifact.Endpoint
import SchemaScaffold.Settings
import SchemaScaffold.Yaml.Printer

/-!
# OpenAPI document

The description of a backend's interface: its paths, and the responses and schemas that they
refer to. Entries that come to the same key replace one another in place.
-/

namespace SchemaScaffold
namespace OpenApi

open Document (ofEntries)

/-- The version of the format. -/
def formatVersion : String := "3.0.3"

def schemaRef (name : String) : String :=
  "#/components/schemas/" ++ name

def responseRef (name : String) : String :=
  "#/components/responses/" ++ name

/-- The schema of what clients send for an entity. -/
def inputName (entity : String) : String :=
  entity ++ "Input"

/-- The response for an entity that is not there. -/
def notFoundName (entity : String) : String :=
  entity ++ "NotFound"

def reference (target : String) : Document :=
  .record [("$ref", .text target)]

/-- A body in JSON of a referenced schema. -/
def jsonContent (target : String) : Document :=
  .record [("application/json", .record [("schema", reference target)])]

/-- A response with nothing but a description. -/
def plainResponse (code description : String) : String × Document :=
  (code, .record [("description", .text description)])

/-- A response that is defined among the components. -/
def sharedResponse (code name : String) : String × Document :=
  (code, reference (responseRef name))

def internalError : String × Document :=
  sharedResponse "500" "InternalServerError"

/-- The number of a row, as a part of the path. -/
def idParameter : String × Document :=
  ("parameters", .list [.record [("in", .text "path"), ("name", .text "id"),
    ("required", .bool true), ("schema", .record [("type", .text "integer")])]])

def requestBody (entity : String) : String × Document :=
  ("requestBody", .record [("required", .bool true),
    ("content", jsonContent (schemaRef (inputName entity)))])

def operation (summary : String) (extra responses : List (String × Document)) : Document :=
  ofEntries ([("summary", .text summary)] ++ extra ++ [("responses", ofEntries responses)])

/-- The responses of a request to one row. -/
def itemResponses (entity : String) : List (String × Document) :=
  [plainResponse "200" "OK", sharedResponse "400" "InvalidId",
    sharedResponse "404" (notFoundName entity), internalError]

/-- The operations on the rows of a table. -/
def collectionPath (table : Table) : String × Document :=
  let entity := table.entityNames.pascal
  ("/" ++ table.name, .record [
    ("get", operation ("List " ++ table.name) []
      [plainResponse "200" "OK", internalError]),
    ("post", operation ("Create " ++ table.name) [requestBody entity]
      [plainResponse "201" "Created", internalError])])

/-- The operations on one row of a table. -/
def itemPath (table : Table) : String × Document :=
  let entity := table.entityNames.pascal
  (String.join ["/", table.name, "/\x7bid\x7d"], .record [
    ("get", operation (String.join ["Get ", table.name, " by id"]) [idParameter]
      (itemResponses entity)),
    ("put", operation (String.join ["Update ", table.name, " by id"])
      [idParameter, requestBody entity] (itemResponses entity)),
    ("delete", operation (String.join ["Delete ", table.name, " by id"]) [idParameter]
      (itemResponses entity))])

def healthPath : String × Document :=
  ("/health", .record [("get", operation "Health check" []
    [plainResponse "200" "OK", internalError])])

/-- All paths, those of a table next to one another. -/
def pathEntries (schema : Schema) : List (String × Document) :=
  healthPath :: schema.tables.flatMap fun table => [collectionPath table, itemPath table]

/-- A response that carries an error. -/
def errorResponse (description : String) : Document :=
  .record [("description", .text description), ("content", .record [("application/json",
    .record [("schema", reference (schemaRef "ErrorResponse")),
      ("example", .record [("error", .text description)])])])]

def responseEntries (schema : Schema) : List (String × Document) :=
  [("InvalidId", errorResponse "Invalid id"),
    ("InternalServerError", errorResponse "Internal Server Error")] ++
    schema.tables.map fun table =>
      let entity := table.entityNames.pascal
      (notFoundName entity, errorResponse (entity ++ " not found"))

/-- The property for a column. -/
def columnProperty (column : Column) : String × Document :=
  let type := FieldType.ofDefinition column.definition
  (column.name, .record ([("type", .text type.kind.word)] ++
    Document.optionalText "format" type.format))

def errorSchema : String × Document :=
  ("ErrorResponse", .record [("type", .text "object"),
    ("properties", .record [("error", .record [("type", .text "string")])]),
    ("required", .list [.text "error"])])

/-- The schema of a row: all columns. -/
def entitySchema (table : Table) : String × Document :=
  (table.entityNames.pascal, .record [("type", .text "object"),
    ("properties", ofEntries (table.columns.map columnProperty))])

/-- The columns that clients must send. -/
def requiredColumns (table : Table) : List Column :=
  table.inputColumns.filter (·.isRequiredInput)

/-- The schema of what clients send: the input columns. -/
def inputSchema (table : Table) : String × Document :=
  let required := (requiredColumns table).map (·.name)
  (inputName table.entityNames.pascal, .record ([("type", .text "object"),
    ("properties", ofEntries (table.inputColumns.map columnProperty))] ++
    if required.isEmpty then [] else [("required", Document.texts required)]))

def schemaEntries (schema : Schema) : List (String × Document) :=
  errorSchema :: schema.tables.flatMap fun table => [entitySchema table, inputSchema table]

/-- The document of a schema. -/
def document (schema : Schema) (settings : ApiSettings) : Document :=
  .record [
    ("openapi", .text formatVersion),
    ("info", .record [("title", .text settings.title), ("version", .text settings.version),
      ("description", .text settings.description)]),
    ("servers", .list [.record [("url", .text settings.baseUrl)]]),
    ("paths", ofEntries (pathEntries schema)),
    ("components", .record [("responses", ofEntries (responseEntries schema)),
      ("schemas", ofEntries (schemaEntries schema))])]

/-- The YAML text of the document. -/
def render (schema : Schema) (settings : ApiSettings) : String :=
  Yaml.render (document schema settings)

end OpenApi
end SchemaScaffold
