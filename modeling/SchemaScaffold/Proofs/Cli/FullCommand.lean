import SchemaScaffold.Cli.Run
import SchemaScaffold.Proofs.Project.Asking

/-!
# The command for full runs

What a command line that asks for all files does on a console and a disk, once it names the schema,
the root, the templates and the database: it runs on absolute paths, asks nothing, and prints
either what the run did or why it failed.
-/

namespace SchemaScaffold
namespace Cli

open Project (FullRun Summary execute executeWith)

/-- Run the program on the words of a command line: its code, and the console and the disk that it
leaves behind. -/
def runOn (words : List String) (console : Console) (disk : Disk) : (UInt32 × Console) × Disk :=
  (((run words : StateT Console (StateM Disk) UInt32).run console).run disk).run

/-- Run a part of a command. -/
def perform {α : Type} (action : Action (StateT Console (StateM Disk)) α) (console : Console)
    (disk : Disk) : (Except String α × Console) × Disk :=
  ((action.run.run console).run disk).run

variable {α β : Type}

theorem perform_bind (action : Action (StateT Console (StateM Disk)) α)
    (next : α → Action (StateT Console (StateM Disk)) β) (console : Console) (disk : Disk) :
    perform (action >>= next) console disk =
      match perform action console disk with
      | ((.ok a, later), after) => perform (next a) later after
      | ((.error message, later), after) => ((.error message, later), after) := by
  simp only [perform, ExceptT.run_bind, StateT.run_bind, Id.run_bind]
  rcases ((action.run.run console).run disk).run with ⟨⟨answer | answer, later⟩, after⟩ <;> rfl

@[simp] theorem perform_pure (a : α) (console : Console) (disk : Disk) :
    perform (pure a) console disk = ((.ok a, console), disk) := rfl

theorem perform_attempt (describe : Failure → String)
    (program : Project.Run (StateT Console (StateM Disk)) α) (console : Console) (disk : Disk) :
    perform (attempt describe program) console disk =
      (((executeWith program console disk).1.1.mapError describe,
        (executeWith program console disk).1.2), (executeWith program console disk).2) := rfl

/-- The absolute path of the working directory. -/
def here (disk : Disk) : String :=
  "/" ++ String.intercalate "/" disk.workingDirectory

@[simp] theorem perform_fromHere (path : String) (console : Console) (disk : Disk) :
    perform (fromHere path) console disk =
      ((.ok (Disk.Path.absolute (here disk) path), console), disk) := rfl

/-- A console on which a line has been printed. -/
def printed (console : Console) (line : String) : Console :=
  { console with output := console.output ++ (line ++ "\n") }

theorem perform_printLine (line : String) (console : Console) (disk : Disk) :
    perform (printLine line) console disk = ((.ok (), printed console line), disk) := rfl

theorem perform_printLines (lines : List String) (console : Console) (disk : Disk) :
    perform (printLines lines) console disk = ((.ok (), lines.foldl printed console), disk) := by
  induction lines generalizing console with
  | nil => rfl
  | cons line lines ih =>
    change perform (printLine line >>= fun _ => printLines lines) console disk = _
    rw [perform_bind, perform_printLine]
    exact ih _

/-- The configuration that is loaded for a command, or why it cannot be. -/
def loadedConfig (disk : Disk) : Option String → Except String Config
  | none => .ok {}
  | some path =>
    let describe (cause : Failure) : String :=
      String.join ["Failed to load config ", path, ": ", cause.message]
    (execute (Project.loadConfig path) disk).1.mapError describe

/-- Loading a configuration does not ask. -/
theorem carries_loadConfig (path : String) :
    Project.Carries (Project.loadConfig path : Project.Run (StateT Console (StateM Disk)) Config)
      (Project.loadConfig path) := by
  refine Project.Carries.bind (fun _ _ => rfl) fun answer => ?_
  cases answer with
  | ok content =>
    dsimp only [Project.configOfBytes]
    cases Config.ofBytes content with
    | ok config => exact Project.Carries.pure config
    | error reason => exact Project.Carries.throw _
  | error fault => cases fault <;> exact Project.Carries.throw _

/-- Loading a configuration changes nothing. -/
theorem readsOnly_loadConfig (path : String) : Project.ReadsOnly (Project.loadConfig path) := by
  refine Project.Respects.bind Project.chains_eq (fun _ => rfl) fun answer disk => ?_
  cases answer with
  | ok content =>
    dsimp only [Project.configOfBytes]
    cases Config.ofBytes content <;> rfl
  | error fault => cases fault <;> rfl

theorem perform_loadConfig (config : Option String) (root : String) (console : Console)
    (disk : Disk) :
    perform (loadConfig ⟨some root, config⟩) console disk =
      (((loadedConfig disk config).map fun loaded => { loaded with projectRoot := root }, console),
        disk) := by
  cases config with
  | none => rfl
  | some path =>
    unfold loadConfig
    simp only [perform_bind, perform_attempt, carries_loadConfig path console disk,
      ← readsOnly_loadConfig path disk, loadedConfig]
    cases (execute (Project.loadConfig path) disk).1 <;> rfl

/-- The answer to the question for a name, and the console after it. -/
def answerOn (console : Console) : Except Disk.Fault String × Console :=
  let (line, rest) := Console.splitLine console.input
  (.ok (String.ofList line), ⟨rest, console.output ++ "Database name: ", console.errors⟩)

/-- A full run for which a database is given leaves the console alone. -/
theorem executeWith_generateFull (config : Config) (sqlPath : Option String) (database : String)
    (console : Console) (disk : Disk) :
    executeWith (Project.generateFull config sqlPath (some database)
        (askDatabase : StateT Console (StateM Disk) _)) console disk =
      let run : FullRun := ⟨config, sqlPath, some database, (answerOn console).1⟩
      (((execute run.program disk).1, console), (execute run.program disk).2) := by
  have asking : (askDatabase : StateT Console (StateM Disk) (Except Disk.Fault String)) =
      fun console => pure (answerOn console) := rfl
  obtain ⟨last, performed, -, silent⟩ := Project.AskingRun.exists_executeWith_program
    ⟨config, sqlPath, some database, answerOn⟩ console disk
  have quiet : ¬ Project.AskingRun.Asks ⟨config, sqlPath, some database, answerOn⟩ disk := by
    rintro ⟨schema, -, given, -⟩
    simp at given
  rw [silent quiet] at performed
  rw [asking]
  exact performed

/-- The run that a command line asks for, with a configuration that has been loaded. -/
def commandedRun (disk : Disk) (loaded : Config) (root sql templates database : String)
    (console : Console) : FullRun where
  config := { loaded with
    projectRoot := root
    templatesDir := Disk.Path.absolute (here disk) templates }
  sqlPath := some (Disk.Path.absolute (here disk) sql)
  database := some database
  answer := (answerOn console).1

/-- The lines that are printed after a full run. -/
def fullLines (root : String) (summary : Summary) : List String :=
  summaryLines root summary ++
    ["Generated structure for tables: " ++ String.intercalate ", " summary.tables]

/-- A console on which a failure has been told. -/
def failed (console : Console) (message : String) : Console :=
  { console with errors := String.join [console.errors, "error: " ++ message, "\n"] }

/-- What is left of a command once its run is over. -/
def concluded (root : String) (console : Console) :
    Except Failure Summary × Disk → (UInt32 × Console) × Disk
  | (.ok summary, after) => ((0, (fullLines root summary).foldl printed console), after)
  | (.error cause, after) => ((1, failed console cause.message), after)

/-- A command line that names the schema, the root, the templates and the database loads its
configuration and runs. -/
theorem runOn_full {words : List String} {sql root templates database : String}
    {config : Option String}
    (asked : Command.ofWords words =
      .ok (.full (some sql) ⟨some root, config⟩ (some templates) (some database)))
    (console : Console) (disk : Disk) :
    runOn words console disk =
      match loadedConfig disk config with
      | .error message => ((1, failed console message), disk)
      | .ok loaded =>
        let run := commandedRun disk loaded root sql templates database console
        concluded root console (execute run.program disk) := by
  have told : runOn words console disk =
      match perform (runFull (some sql) ⟨some root, config⟩ (some templates) (some database))
        console disk with
      | ((.ok (), later), after) => ((0, later), after)
      | ((.error message, later), after) => ((1, failed later message), after) := by
    unfold runOn run perform
    rw [asked]
    simp only [StateT.run_bind, Id.run_bind, runCommand]
    rcases (((runFull (some sql) ⟨some root, config⟩ (some templates) (some database) :
      Action (StateT Console (StateM Disk)) Unit).run.run console).run disk).run with
        ⟨⟨message | _, later⟩, after⟩ <;> rfl
  rw [told]
  unfold runFull
  rw [perform_bind, perform_loadConfig]
  cases loadedConfig disk config with
  | error message => rfl
  | ok loaded =>
    have ran := executeWith_generateFull
      { loaded with projectRoot := root, templatesDir := Disk.Path.absolute (here disk) templates }
      (some (Disk.Path.absolute (here disk) sql)) database console disk
    simp only [Except.map, fromHere?, perform_bind, perform_fromHere, perform_pure,
      perform_attempt, ran, commandedRun]
    rcases execute _ disk with ⟨cause | summary, after⟩
    · rfl
    · simp only [Project.mapError_ok, perform_printLines, perform_printLine, concluded, fullLines,
        List.foldl_append, List.foldl_cons, List.foldl_nil]

end Cli
end SchemaScaffold
