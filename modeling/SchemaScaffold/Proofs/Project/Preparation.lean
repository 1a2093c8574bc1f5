import SchemaScaffold.Proofs.Project.Execution
import SchemaScaffold.Proofs.Project.Outputs

/-!
# Preparation of full runs

A full run first reads and checks its inputs, which changes nothing, and then produces files.
This module takes the two parts apart and says when the checks pass.
-/

namespace SchemaScaffold
namespace Project

open Disk.Path (join)

/-- What a full run is started with. -/
structure FullRun where
  config : Config
  /-- The schema's path, if it is given. -/
  sqlPath : Option String
  /-- The name of the database, if it is given. -/
  database : Option String
  /-- The answer to the question for a name. -/
  answer : Except Disk.Fault String

namespace FullRun

/-- The run itself. -/
def program (run : FullRun) : Run (StateM Disk) Summary :=
  generateFull run.config run.sqlPath run.database (pure run.answer)

def root (run : FullRun) : String :=
  run.config.projectRoot

def templates (run : FullRun) : String :=
  run.config.templatesPath

/-- The path of the schema that is read. -/
def input (run : FullRun) : String :=
  inputPath run.config run.sqlPath

/-- Read and check the inputs. -/
def prepare (run : FullRun) : Run (StateM Disk) (Schema × String) := do
  let schema ← loadSchema run.input (some run.templates)
  let name ← databaseName run.database schema.database (pure run.answer)
  checkTableTemplates run.templates
  return (schema, name)

/-- What a run answers once everything has been written. -/
def summarize (schema : Schema) (name : String) (outcomes : List TableOutcome)
    (documents : List (String × WriteResult)) : Summary :=
  let files := Outcome.ofResults (outcomes.flatMap (·.files) ++ documents)
  { written := files.written
    skipped := files.skipped
    patched := ((schema.tableNames.zip outcomes).filter (·.2.registered)).map (·.1)
    tables := schema.tableNames
    database := some name }

/-- Write the files for a schema. -/
def produce (run : FullRun) (schema : Schema) (name : String) : Run (StateM Disk) Summary := do
  let outcomes ← schema.tables.mapM (generateTable run.root run.templates)
  let documents ← writeDocuments run.config schema name
  return summarize schema name outcomes documents

/-- A full run prepares and then produces. -/
theorem program_eq (run : FullRun) :
    run.program = run.prepare >>= fun inputs => run.produce inputs.1 inputs.2 := by
  simp only [program, generateFull, prepare, produce, bind_assoc, pure_bind]
  rfl

end FullRun

theorem execute_requireTemplates (directory : String) (disk : Disk) :
    execute (requireTemplates directory) disk =
      if disk.isDirectory directory then (.ok (), disk)
      else (.error (.templatesNotFound directory), disk) := by
  unfold requireTemplates
  cases found : disk.isDirectory directory <;> simp [execute_bind, found]

theorem execute_requireTemplate (directory name : String) (disk : Disk) :
    execute (requireTemplate directory name) disk =
      if disk.isFile (join directory name) then (.ok (), disk)
      else (.error (.templateMissing (join directory name)), disk) := by
  unfold requireTemplate
  cases found : disk.isFile (join directory name) <;> simp [execute_bind, found]

theorem readsOnly_requireTemplates (directory : String) :
    ReadsOnly (requireTemplates directory) := by
  intro disk
  rw [execute_requireTemplates]
  split <;> rfl

theorem readsOnly_requireTemplate (directory name : String) :
    ReadsOnly (requireTemplate directory name) := by
  intro disk
  rw [execute_requireTemplate]
  split <;> rfl

theorem readsOnly_readText (path : String) : ReadsOnly (readText path) := by
  intro disk
  rw [execute_readText]

theorem readsOnly_loadTemplate (directory name : String) :
    ReadsOnly (loadTemplate directory name) :=
  Respects.bind chains_eq (readsOnly_requireTemplate directory name) fun _ =>
    readsOnly_readText _

/-- A schema is read from a text that is not blank and has tables. -/
theorem execute_loadSchema_eq_ok {path directory : String} {disk after : Disk}
    {schema : Schema} :
    execute (loadSchema path (some directory)) disk = (.ok schema, after) ↔
      after = disk ∧ disk.isFile path = true ∧ disk.isDirectory directory = true ∧
        ∃ sql, textAt disk path = .ok sql ∧ Text.isAllBlank sql.toList = false ∧
          Sql.parse sql = schema ∧ schema.isEmpty = false := by
  unfold loadSchema
  cases isFile : disk.isFile path with
  | false => simp [execute_bind, isFile]
  | true =>
    cases isDirectory : disk.isDirectory directory with
    | false => simp [execute_bind, isFile, Option.forM, execute_requireTemplates, isDirectory]
    | true =>
      cases text : textAt disk path with
      | error cause =>
        simp [execute_bind, isFile, Option.forM, execute_requireTemplates, isDirectory, text]
      | ok sql =>
        simp only [execute_bind, execute_ite, execute_isFile, isFile, Option.forM,
          execute_requireTemplates, isDirectory, execute_readText, text, execute_pure,
          execute_throw, Bool.not_true, Bool.false_eq_true, if_false, if_true, true_and,
          Except.ok.injEq, exists_eq_left']
        cases blank : Text.isAllBlank sql.toList with
        | true => simp
        | false =>
          cases empty : (Sql.parse sql).isEmpty with
          | true =>
            simp only [Bool.false_eq_true, if_false, if_true, Prod.mk.injEq, reduceCtorEq,
              false_and, false_iff, not_and, true_and]
            rintro - rfl
            simp [empty]
          | false =>
            simp only [Bool.false_eq_true, if_false, Prod.mk.injEq, Except.ok.injEq, true_and]
            constructor
            · rintro ⟨rfl, rfl⟩
              exact ⟨rfl, rfl, empty⟩
            · rintro ⟨rfl, rfl, -⟩
              exact ⟨rfl, rfl⟩

theorem readsOnly_loadSchema (path : String) (templates : Option String) :
    ReadsOnly (loadSchema path templates) := by
  have failing {α : Type} (cause : Failure) (next : PUnit → Run (StateM Disk) α) :
      ReadsOnly (throw cause >>= next) := fun disk => rfl
  have reading : ReadsOnly (do
      let sql ← readText path
      if Text.isAllBlank sql.toList then throw Failure.emptySql
      let schema := Sql.parse sql
      if schema.isEmpty then throw Failure.noTables
      return schema) := by
    refine Respects.bind chains_eq (readsOnly_readText path) fun sql => ?_
    refine Respects.ite (failing _ _) (Respects.ite (failing _ _) ?_)
    exact Respects.pure chains_eq _
  refine Respects.bind chains_eq (fun disk => rfl) fun isFile => ?_
  refine Respects.ite (failing _ _) (Respects.bind chains_eq ?_ fun _ => reading)
  cases templates with
  | none => exact Respects.pure chains_eq _
  | some directory => exact readsOnly_requireTemplates directory

/-- The name that a run takes for the database. -/
def chosenName (given declared : Option String) (answer : Except Disk.Fault String) :
    Except Failure String :=
  match (given.or declared).elim answer .ok with
  | .error fault => .error (.disk fault)
  | .ok text =>
    if (String.ofList (Text.trim text.toList)).isEmpty then .error .missingDatabaseName
    else .ok (String.ofList (Text.trim text.toList))

theorem execute_databaseName (given declared : Option String)
    (answer : Except Disk.Fault String) (disk : Disk) :
    execute (databaseName given declared (pure answer)) disk =
      (chosenName given declared answer, disk) := by
  have asking : execute (onDisk (pure answer) : Run (StateM Disk) String) disk =
      (answer.mapError Failure.disk, disk) := rfl
  unfold databaseName chosenName
  cases given.or declared with
  | some name =>
    simp only [Option.elim, execute_bind, execute_pure]
    split <;> simp_all
  | none =>
    simp only [Option.elim, execute_bind, asking]
    cases answer with
    | error fault => rfl
    | ok text =>
      simp only [mapError_ok]
      split <;> simp_all

theorem execute_requireAll {directory : String} {files : List TemplateFile}
    {disk after : Disk} :
    execute (files.forM fun file => requireTemplate directory file.template) disk =
        (.ok (), after) ↔
      after = disk ∧ ∀ file ∈ files, disk.isFile (join directory file.template) = true := by
  induction files with
  | nil =>
    constructor
    · exact fun run => ⟨(Prod.mk.inj run).2.symm, by simp⟩
    · rintro ⟨rfl, -⟩
      rfl
  | cons file rest ih =>
    change execute (requireTemplate directory file.template >>= fun _ =>
      rest.forM fun file => requireTemplate directory file.template) disk = _ ↔ _
    rw [execute_bind, execute_requireTemplate]
    by_cases found : disk.isFile (join directory file.template) = true
    · simp only [found, if_true, ih, List.mem_cons, forall_eq_or_imp, true_and]
    · simp [found]

theorem execute_checkTableTemplates_eq_ok {directory : String} {disk after : Disk}
    {done : Unit} :
    execute (checkTableTemplates directory) disk = (.ok done, after) ↔
      after = disk ∧ disk.isDirectory directory = true ∧
        ∀ file ∈ tableTemplates ++ [poolTemplate],
          disk.isFile (join directory file.template) = true := by
  unfold checkTableTemplates
  rw [execute_bind, execute_requireTemplates]
  by_cases found : disk.isDirectory directory = true
  · simp only [found, if_true, true_and]
    exact execute_requireAll
  · simp [found]

theorem readsOnly_checkTableTemplates (directory : String) :
    ReadsOnly (checkTableTemplates directory) :=
  Respects.bind chains_eq (readsOnly_requireTemplates directory) fun _ =>
    Respects.forM chains_eq fun file _ => readsOnly_requireTemplate directory file.template

namespace FullRun

/-- All checks of a run pass, with the schema and the name that are read. -/
structure Prepared (run : FullRun) (disk : Disk) (schema : Schema) (name : String) : Prop where
  input : disk.isFile run.input = true
  directory : disk.isDirectory run.templates = true
  text : ∃ sql, textAt disk run.input = .ok sql ∧ Text.isAllBlank sql.toList = false ∧
    Sql.parse sql = schema
  tables : schema.isEmpty = false
  named : chosenName run.database schema.database run.answer = .ok name
  templates : ∀ file ∈ tableTemplates ++ [poolTemplate],
    disk.isFile (join run.templates file.template) = true

theorem readsOnly_prepare (run : FullRun) : ReadsOnly run.prepare := by
  refine Respects.bind chains_eq (readsOnly_loadSchema _ _) fun schema => ?_
  refine Respects.bind chains_eq ?_ fun name => ?_
  · intro disk
    rw [execute_databaseName]
  · exact Respects.bind chains_eq (readsOnly_checkTableTemplates _) fun _ =>
      Respects.pure chains_eq _

/-- Preparing succeeds exactly if all checks pass. -/
theorem execute_prepare_eq_ok {run : FullRun} {disk after : Disk} {schema : Schema}
    {name : String} :
    execute run.prepare disk = (.ok (schema, name), after) ↔
      after = disk ∧ run.Prepared disk schema name := by
  unfold prepare
  simp only [execute_bind_eq_ok, execute_loadSchema_eq_ok, execute_databaseName,
    execute_checkTableTemplates_eq_ok, execute_pure, Prod.mk.injEq, Except.ok.injEq]
  constructor
  · rintro ⟨schema', _, ⟨rfl, input, directory, sql, text, visible, parsed, tables⟩, name', _,
      ⟨named, rfl⟩, _, _, ⟨rfl, -, templates⟩, ⟨rfl, rfl⟩, rfl⟩
    exact ⟨rfl, input, directory, ⟨sql, text, visible, parsed⟩, tables, named, templates⟩
  · rintro ⟨rfl, prepared⟩
    obtain ⟨sql, text, visible, parsed⟩ := prepared.text
    exact ⟨schema, after,
      ⟨rfl, prepared.input, prepared.directory, sql, text, visible, parsed, prepared.tables⟩, name,
      after, ⟨prepared.named, rfl⟩, (), after, ⟨rfl, prepared.directory, prepared.templates⟩,
      ⟨rfl, rfl⟩, rfl⟩

/-- Only one schema and name can be prepared. -/
theorem Prepared.unique {run : FullRun} {disk : Disk} {schema other : Schema}
    {name otherName : String} (first : run.Prepared disk schema name)
    (second : run.Prepared disk other otherName) : other = schema ∧ otherName = name := by
  have one := execute_prepare_eq_ok.2 ⟨rfl, first⟩
  have two := execute_prepare_eq_ok.2 ⟨rfl, second⟩
  rw [one] at two
  simpa [eq_comm] using two

theorem Prepared.isNamed {run : FullRun} {disk : Disk} {schema : Schema} {name : String}
    (prepared : run.Prepared disk schema name) : ∀ table ∈ schema.tables, IsNamed table := by
  obtain ⟨sql, -, -, rfl⟩ := prepared.text
  exact fun table member => isNamed_of_mem_parse member

/-- A run that succeeds has prepared and then produced. -/
theorem execute_program_eq_ok {run : FullRun} {disk after : Disk} {summary : Summary} :
    execute run.program disk = (.ok summary, after) ↔
      ∃ schema name, run.Prepared disk schema name ∧
        execute (run.produce schema name) disk = (.ok summary, after) := by
  rw [program_eq, execute_bind_eq_ok]
  constructor
  · rintro ⟨⟨schema, name⟩, middle, first, second⟩
    obtain ⟨rfl, prepared⟩ := execute_prepare_eq_ok.1 first
    exact ⟨schema, name, prepared, second⟩
  · rintro ⟨schema, name, prepared, produced⟩
    exact ⟨(schema, name), disk, execute_prepare_eq_ok.2 ⟨rfl, prepared⟩, produced⟩

/-- A run that fails leaves the disk as it was, or fails while it produces. -/
theorem execute_program_eq_error {run : FullRun} {disk after : Disk} {cause : Failure} :
    execute run.program disk = (.error cause, after) →
      (after = disk ∧ ∀ schema name, ¬ run.Prepared disk schema name) ∨
        ∃ schema name, run.Prepared disk schema name ∧
          execute (run.produce schema name) disk = (.error cause, after) := by
  intro failed
  rw [program_eq] at failed
  rcases execute_bind_eq_error.1 failed with early | ⟨⟨schema, name⟩, middle, first, late⟩
  · refine .inl ⟨(run.readsOnly_prepare.of_execute early).symm, fun schema name prepared => ?_⟩
    rw [execute_prepare_eq_ok.2 ⟨rfl, prepared⟩] at early
    simp at early
  · obtain ⟨rfl, prepared⟩ := execute_prepare_eq_ok.1 first
    exact .inr ⟨schema, name, prepared, late⟩

end FullRun

end Project
end SchemaScaffold
