import SchemaScaffold.Disk.Path
import SchemaScaffold.Settings
import SchemaScaffold.Yaml.Printer

/-!
# Configuration

Where a project and its inputs are, and the settings of what is generated for it. Relative
paths start at the root of the project.
-/

namespace SchemaScaffold

/-- The configuration of a project. -/
structure Config where
  /-- The directory into which files are written. -/
  projectRoot : String := "."
  /-- The directory of the templates for each table. -/
  templatesDir : String := "templates/nodejs-full-structure"
  /-- The directory of the templates for the frame of a project. -/
  baseTemplatesDir : String := "templates/nodejs-base-boilerplate"
  /-- The schema that is read if no other is given. -/
  sqlPath : String := "docs/scripts/BD/BD_ToDoList.sql"
  api : ApiSettings := {}
  env : EnvSettings := {}
deriving DecidableEq, Repr

namespace Config

/-- A path as seen from the root of the project. -/
def resolve (config : Config) (path : String) : String :=
  Disk.Path.join config.projectRoot path

def templatesPath (config : Config) : String :=
  config.resolve config.templatesDir

def baseTemplatesPath (config : Config) : String :=
  config.resolve config.baseTemplatesDir

def sqlInputPath (config : Config) : String :=
  config.resolve config.sqlPath

def apiDocument (api : ApiSettings) : Document :=
  .record [("title", .text api.title), ("version", .text api.version),
    ("description", .text api.description), ("base_url", .text api.baseUrl),
    ("collection_name", .text api.collectionName),
    ("collection_description", .text api.collectionDescription)]

def envDocument (env : EnvSettings) : Document :=
  .record [("port", .natural env.port.toNat), ("db_host", .text env.dbHost),
    ("db_port", .natural env.dbPort.toNat), ("db_user", .text env.dbUser),
    ("db_password", .text env.dbPassword)]

/-- The configuration as a document. -/
def toDocument (config : Config) : Document :=
  .record [("project_root", .text config.projectRoot),
    ("templates_dir", .text config.templatesDir),
    ("base_templates_dir", .text config.baseTemplatesDir),
    ("sql_path", .text config.sqlPath),
    ("api", apiDocument config.api), ("env", envDocument config.env)]

/-- The configuration as a YAML text. -/
def toYaml (config : Config) : String :=
  Yaml.render config.toDocument

end Config
end SchemaScaffold
