import SchemaScaffold.Artifact.Endpoint

/-!
# Readme

The text that introduces a generated backend and lists its endpoints.
-/

namespace SchemaScaffold
namespace Readme

/-- The part that is the same for every schema, line by line. -/
def introduction : List String := [
  "# Backend API (Node.js + Express)",
  "",
  "## What it does",
  "REST API that manages the entities defined in the database (CRUD per table).",
  "",
  "## Tech stack",
  "- Node.js 18+",
  "- Express",
  "- MySQL 8+",
  "",
  "## Installation",
  "1. Go to the backend root directory.",
  "2. Install dependencies:",
  "   ```",
  "   npm install",
  "   ```",
  "",
  "## Running",
  "```",
  "npm run dev",
  "```",
  "",
  "## Project structure",
  "- `server.js`",
  "- `src/app.js`",
  "- `src/controllers/*Controller.js`",
  "- `src/services/*Service.js`",
  "- `src/repositories/*Repository.js`",
  "- `src/routes/*.js`",
  "- `src/db/pool.js`",
  "",
  "## Tests",
  "No automated tests are configured by default.",
  "Test resources:",
  "- `test/BD_creada.postman_collection.json`",
  "- `test/openapi.yaml`",
  "",
  "## Base endpoints",
  "- `GET /health`",
  "",
  "## Endpoints per table"]

/-- The row of an endpoint. -/
def endpointRow (table : String) (endpoint : Endpoint) : String :=
  String.join ["| `", endpoint.title table, "` | ", endpoint.summary, " |"]

/-- The section of a table. -/
def tableSection (table : Table) : List String :=
  ["", "### Table: " ++ table.name, "| Endpoint | Description |", "| --- | --- |"] ++
    Endpoint.all.map (endpointRow table.name)

/-- The lines of the readme; the last is empty. -/
def lines (schema : Schema) : List String :=
  introduction ++ schema.tables.flatMap tableSection ++ [""]

/-- The readme of a schema. -/
def render (schema : Schema) : String :=
  String.intercalate "\n" (lines schema)

end Readme
end SchemaScaffold
