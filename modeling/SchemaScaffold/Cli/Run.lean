import SchemaScaffold.Cli.Arguments
import SchemaScaffold.Cli.Console
import SchemaScaffold.Project.ConfigFile
import SchemaScaffold.Project.Generate

/-!
# Running commands

What each command does, what it prints, and the code with which the program ends.
-/

namespace SchemaScaffold
namespace Cli

open Project (Summary)

variable {m : Type → Type} [Monad m] [MonadDisk m] [MonadConsole m]

/-- Commands that may fail with a message. -/
abbrev Action (m : Type → Type) := ExceptT String m

/-- The name and the version of the program. -/
def versionLine : String := "crudgen 0.1.0"

/-- How the program is used. -/
def usage : List String := [
  "Generate CRUD backend boilerplate from SQL CREATE TABLE scripts",
  "",
  "Usage: crudgen [-v] <COMMAND>",
  "",
  "Commands:",
  "  full [SQL] [--root DIR] [--config FILE] [--templates DIR] [--database NAME]",
  "  postman [SQL] [--root DIR] [--config FILE]",
  "  base [--root DIR] [--config FILE] [--templates DIR]",
  "  parse [SQL] [--with-report] [--format json|yaml|markdown|table]",
  "  help"]

/-- Print a text. -/
def print (text : String) : Action m Unit :=
  ExceptT.lift (MonadConsole.print text)

/-- Print a line. -/
def printLine (line : String) : Action m Unit :=
  print (line ++ "\n")

/-- Print lines. -/
def printLines (lines : List String) : Action m Unit :=
  lines.forM printLine

/-- Run a part of a command; its failure is told in words. -/
def attempt {α : Type} (describe : Failure → String) (program : Project.Run m α) :
    Action m α :=
  ExceptT.mk ((Except.mapError describe ·) <$> program.run)

/-- The configuration that the options ask for. -/
def loadConfig (options : ProjectOptions) : Action m Config := do
  let loaded ← match options.config with
    | none => pure {}
    | some path =>
      let describe (cause : Failure) : String :=
        String.join ["Failed to load config ", path, ": ", cause.message]
      attempt describe (Project.loadConfig path)
  match options.root with
  | none => return loaded
  | some root => return { loaded with projectRoot := root }

/-- A path of the command line, as seen from the root of the disk. -/
def fromHere (path : String) : Action m String := do
  return Disk.Path.absolute (← ExceptT.lift MonadDisk.workingDirectory) path

/-- A path that may be missing, as seen from the root of the disk. -/
def fromHere? : Option String → Action m (Option String)
  | none => return none
  | some path => return some (← fromHere path)

/-- Ask for the name of the database. -/
def askDatabase : m (Except Disk.Fault String) := do
  MonadConsole.print "Database name: "
  MonadConsole.readLine

/-- The lines that tell what a run did. -/
def summaryLines (root : String) (summary : Summary) : List String :=
  summary.written.map (fun path => "  wrote   " ++ Disk.Path.relativeTo root path) ++
    summary.skipped.map (fun path => "  exists  " ++ Disk.Path.relativeTo root path) ++
    summary.patched.map (fun table => "  routed  " ++ table)

def runFull (sql : Option String) (project : ProjectOptions)
    (templates database : Option String) : Action m Unit := do
  let loaded ← loadConfig project
  let config : Config := match ← fromHere? templates with
    | none => loaded
    | some directory => { loaded with templatesDir := directory }
  let path ← fromHere? sql
  let summary ← attempt Failure.message
    (Project.generateFull config path database askDatabase)
  printLines (summaryLines config.projectRoot summary)
  printLine ("Generated structure for tables: " ++ String.intercalate ", " summary.tables)

def runPostman (sql : Option String) (project : ProjectOptions) : Action m Unit := do
  let config ← loadConfig project
  let path ← fromHere? sql
  let summary ← attempt Failure.message (Project.generatePostman config path)
  printLines (summary.written.map ("Postman collection generated: " ++ ·))

def runBase (project : ProjectOptions) (templates : Option String) : Action m Unit := do
  let loaded ← loadConfig project
  let config : Config := match ← fromHere? templates with
    | none => loaded
    | some directory => { loaded with baseTemplatesDir := directory }
  let summary ← attempt Failure.message (Project.generateBase config)
  if summary.written.isEmpty then
    printLine "Base boilerplate already exists. No new files were generated."
  else
    printLine ("Base boilerplate generated: " ++ String.intercalate ", "
      (summary.written.map (Disk.Path.relativeTo config.projectRoot)))

/-- The text of a script, from a file or from the input. -/
def readScript : Option String → Action m String
  | some path => do
    match (← ExceptT.lift (Project.readText path : Project.Run m String).run) with
    | .ok text => return text
    | .error (.disk fault) =>
      throw (String.join ["Failed to read ", path, ": ", fault.message])
    | .error cause => throw (String.join ["Failed to read ", path, ": ", cause.message])
  | none => do
    match (← ExceptT.lift (MonadConsole.readAll : m (Except Disk.Fault String))) with
    | .ok text => return text
    | .error fault => throw ("Failed to read stdin: " ++ fault.message)

/-- A schema together with its report. -/
def printRun (run : Sql.ParseRun) : OutputFormat → Action m Unit
  | .json => printLine (Json.render run.toDocument)
  | .yaml => printLine (Yaml.render run.toDocument)
  | format => do
    print (run.schema.format format)
    print (run.report.format format)

def runParse (sql : Option String) (withReport : Bool) (format : OutputFormat) :
    Action m Unit := do
  let script ← readScript sql
  if withReport then printRun (Sql.parseWithReport script) format
  else printLine ((Sql.parse script).format format)

/-- Run a command. -/
def runCommand : Command → Action m Unit
  | .full sql project templates database => runFull sql project templates database
  | .postman sql project => runPostman sql project
  | .base project templates => runBase project templates
  | .parse sql withReport format => runParse sql withReport format
  | .version => printLine versionLine
  | .help => printLines usage

/-- Run the program on the words of a command line. The code at its end is 0 for success, 1 for
a failure, and 2 for a malformed command line. -/
def run (words : List String) : m UInt32 := do
  match Command.ofWords words with
  | .error fault =>
    MonadConsole.printError ("error: " ++ fault.message)
    return 2
  | .ok command =>
    match ← (runCommand command).run with
    | .ok () => return 0
    | .error message =>
      MonadConsole.printError ("error: " ++ message)
      return 1

end Cli
end SchemaScaffold
