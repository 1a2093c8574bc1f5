import SchemaScaffold.Artifact.RoutesIndex
import SchemaScaffold.Artifact.Template
import SchemaScaffold.Project.Files
import SchemaScaffold.Schema.Basic

/-!
# Scaffolding

The files that are made from templates: four for every table, one that all tables share, and
the frame of a project. Files that are there already stay as they are.
-/

namespace SchemaScaffold
namespace Project

open Disk.Path (join)

variable {m : Type → Type} [Monad m] [MonadDisk m]

/-- A template's name and the place of the file that is made from it. -/
structure TemplateFile where
  template : String
  /-- The path from the root of the project; it may have tokens in it. -/
  destination : String
deriving DecidableEq, Repr

/-- The templates for each table. -/
def tableTemplates : List TemplateFile := [
  ⟨"controller.js.tmpl", "src/controllers/\x7b\x7bentity\x7d\x7dController.js"⟩,
  ⟨"service.js.tmpl", "src/services/\x7b\x7bentity\x7d\x7dService.js"⟩,
  ⟨"repository.js.tmpl", "src/repositories/\x7b\x7bentity\x7d\x7dRepository.js"⟩,
  ⟨"routes.js.tmpl", "src/routes/\x7b\x7btable\x7d\x7d.js"⟩]

/-- The template of the connection pool, which all tables share. -/
def poolTemplate : TemplateFile :=
  ⟨"db.pool.js.tmpl", "src/db/pool.js"⟩

/-- The index in which the routes of all tables are registered. -/
def routesIndex : String :=
  "src/routes/index.js"

/-- The templates for the frame of a project. -/
def baseTemplates : List TemplateFile := [
  ⟨"server.js.tmpl", "server.js"⟩,
  ⟨"package.json.tmpl", "package.json"⟩,
  ⟨"README.md.tmpl", "README.md"⟩,
  ⟨"app.js.tmpl", "src/app.js"⟩,
  ⟨"routes.index.js.tmpl", routesIndex⟩,
  ⟨"middlewares.auth.js.tmpl", "src/middlewares/auth.js"⟩,
  ⟨"middlewares.errorHandler.js.tmpl", "src/middlewares/errorHandler.js"⟩,
  ⟨"middlewares.notFound.js.tmpl", "src/middlewares/notFound.js"⟩]

/-- Fail unless the directory of the templates is there. -/
def requireTemplates (directory : String) : Run m Unit := do
  if !(← isDirectory directory) then throw (.templatesNotFound directory)

/-- Fail unless a template is there. -/
def requireTemplate (directory name : String) : Run m Unit := do
  if !(← isFile (join directory name)) then throw (.templateMissing (join directory name))

/-- The text of a template. -/
def loadTemplate (directory name : String) : Run m String := do
  requireTemplate directory name
  readText (join directory name)

/-- Fail unless all templates for tables are there. -/
def checkTableTemplates (directory : String) : Run m Unit := do
  requireTemplates directory
  (tableTemplates ++ [poolTemplate]).forM fun file => requireTemplate directory file.template

/-- Register a table in an index, if there is one. The answer says whether the index has
changed. -/
def updateRoutes (path table : String) : Run m Bool := do
  if !(← isFile path) then return false
  let content ← readText path
  let patched := RoutesIndex.patch content table
  if patched = content then return false
  overwrite path patched
  return true

/-- Make a file from a template. -/
def makeFile (root directory : String) (tokens : List (String × String))
    (file : TemplateFile) : Run m (String × WriteResult) := do
  let template ← loadTemplate directory file.template
  let path := join root (Template.render file.destination tokens)
  return (path, ← writeFile path (Template.render template tokens) .skip)

/-- Make the files of a table. The template of the pool is taken as it is. -/
def makeTableFiles (root directory : String) (table : Table) :
    Run m (List (String × WriteResult)) := do
  let results ← tableTemplates.mapM
    (makeFile root directory (Template.entityTokens table.entityNames))
  let pool ← makeFile root directory [] poolTemplate
  return results ++ [pool]

/-- What became of a table: its files, and whether it was registered. -/
structure TableOutcome where
  files : List (String × WriteResult)
  registered : Bool
deriving DecidableEq, Repr

/-- Make the files of a table and register its routes. -/
def generateTable (root directory : String) (table : Table) : Run m TableOutcome := do
  requireTemplates directory
  let files ← makeTableFiles root directory table
  let registered ← updateRoutes (join root routesIndex) table.name
  return ⟨files, registered⟩

/-- Write a file of the frame. -/
def copyFile (root : String) (file : TemplateFile × String) :
    Run m (String × WriteResult) := do
  let path := join root file.1.destination
  return (path, ← writeFile path file.2 .skip)

/-- Make the frame of a project. All templates are read before the first file is written. -/
def generateFrame (root directory : String) : Run m (List (String × WriteResult)) := do
  requireTemplates directory
  let texts ← baseTemplates.mapM fun file => loadTemplate directory file.template
  (baseTemplates.zip texts).mapM (copyFile root)

end Project
end SchemaScaffold
