import SchemaScaffold.Artifact.EnvFile
import SchemaScaffold.Artifact.OpenApi
import SchemaScaffold.Artifact.Postman
import SchemaScaffold.Artifact.Readme
import SchemaScaffold.Config
import SchemaScaffold.Project.Scaffold
import SchemaScaffold.Sql.Parse
import SchemaScaffold.Text.Blank

/-!
# Generating projects

The three runs: all files of a project, its collection of requests alone, and its frame.
-/

namespace SchemaScaffold
namespace Project

open Disk.Path (join)

variable {m : Type → Type} [Monad m] [MonadDisk m]

/-- What a run did. -/
structure Summary where
  /-- Files that were created or replaced. -/
  written : List String := []
  /-- Files that were left alone. -/
  skipped : List String := []
  /-- Tables that were registered in the routes index. -/
  patched : List String := []
  /-- All tables, in the order of the schema. -/
  tables : List String := []
  /-- The name of the database. -/
  database : Option String := none
deriving DecidableEq, Repr

def readmePath : String := "README.md"
def openApiPath : String := "test/openapi.yaml"
def postmanPath : String := "test/BD_creada.postman_collection.json"
def envPath : String := ".env"

/-- Read a schema. If a directory of templates is given, it must be there as well. -/
def loadSchema (sqlPath : String) (templates : Option String) : Run m Schema := do
  if !(← isFile sqlPath) then throw (.inputNotFound sqlPath)
  templates.forM requireTemplates
  let sql ← readText sqlPath
  if Text.isAllBlank sql.toList then throw .emptySql
  let schema := Sql.parse sql
  if schema.isEmpty then throw .noTables
  return schema

/-- The name of the database: the one that is given, or the one in the schema, or the answer to
a question. -/
def databaseName (given declared : Option String) (ask : m (Except Disk.Fault String)) :
    Run m String := do
  let answer ← match given.or declared with
    | some name => pure name
    | none => onDisk ask
  let name := String.ofList (Text.trim answer.toList)
  if name.isEmpty then throw .missingDatabaseName
  return name

/-- Write a document in place of an older one. -/
def writeDocument (root path text : String) : Run m (String × WriteResult) := do
  return (join root path, ← writeFile (join root path) text .overwrite)

/-- Make the collection of requests. -/
def renderPostman (schema : Schema) (api : ApiSettings) : Run m String :=
  match Postman.render schema api with
  | .ok text => pure text
  | .error fault => throw (.invalidBaseUrl api.baseUrl fault)

/-- Write the four documents of a project, one after another. -/
def writeDocuments (config : Config) (schema : Schema) (database : String) :
    Run m (List (String × WriteResult)) := do
  let root := config.projectRoot
  let readme ← writeDocument root readmePath (Readme.render schema)
  let openApi ← writeDocument root openApiPath (OpenApi.render schema config.api)
  let collection ← renderPostman schema config.api
  let postman ← writeDocument root postmanPath collection
  let env ← writeDocument root envPath (EnvFile.render database config.env)
  return [readme, openApi, postman, env]

/-- The schema's path: the one that is given, which starts at the working directory, or the
configured one. -/
def inputPath (config : Config) (sqlPath : Option String) : String :=
  sqlPath.getD config.sqlInputPath

/-- Generate all files of a project. -/
def generateFull (config : Config) (sqlPath database : Option String)
    (ask : m (Except Disk.Fault String)) : Run m Summary := do
  let templates := config.templatesPath
  let schema ← loadSchema (inputPath config sqlPath) (some templates)
  let name ← databaseName database schema.database ask
  checkTableTemplates templates
  let outcomes ← schema.tables.mapM (generateTable config.projectRoot templates)
  let documents ← writeDocuments config schema name
  let files := Outcome.ofResults (outcomes.flatMap (·.files) ++ documents)
  return {
    written := files.written
    skipped := files.skipped
    patched := ((schema.tableNames.zip outcomes).filter (·.2.registered)).map (·.1)
    tables := schema.tableNames
    database := some name }

/-- Generate the collection of requests. -/
def generatePostman (config : Config) (sqlPath : Option String) : Run m Summary := do
  let schema ← loadSchema (inputPath config sqlPath) none
  let collection ← renderPostman schema config.api
  let files := Outcome.ofResults
    [← writeDocument config.projectRoot postmanPath collection]
  return {
    written := files.written
    skipped := files.skipped
    tables := schema.tableNames
    database := schema.database }

/-- Generate the frame of a project. -/
def generateBase (config : Config) : Run m Summary := do
  let files := Outcome.ofResults
    (← generateFrame config.projectRoot config.baseTemplatesPath)
  return { written := files.written, skipped := files.skipped }

end Project
end SchemaScaffold
