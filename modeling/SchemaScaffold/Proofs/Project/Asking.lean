import SchemaScaffold.Proofs.Project.Preparation
import SchemaScaffold.Proofs.Project.Writing

/-!
# Runs that ask

Full runs whose question for a name keeps a state of its own, as a console does. All other parts
of a run leave that state alone, so that the state tells whether the question was asked. On the
disk such a run does what a run with a fixed answer does.
-/

namespace SchemaScaffold
namespace Project

variable {σ α β : Type}

/-- Run a program that keeps a state of its own on a disk. -/
def executeWith (program : Run (StateT σ (StateM Disk)) α) (state : σ) (disk : Disk) :
    (Except Failure α × σ) × Disk :=
  ((program.run.run state).run disk).run

/-- A sequence runs its first part and goes on with what that part answers. -/
theorem executeWith_bind (program : Run (StateT σ (StateM Disk)) α)
    (next : α → Run (StateT σ (StateM Disk)) β) (state : σ) (disk : Disk) :
    executeWith (program >>= next) state disk =
      match executeWith program state disk with
      | ((.ok a, later), middle) => executeWith (next a) later middle
      | ((.error cause, later), middle) => ((.error cause, later), middle) := by
  simp only [executeWith, ExceptT.run_bind, StateT.run_bind, Id.run_bind]
  rcases ((program.run.run state).run disk).run with ⟨⟨answer | answer, later⟩, middle⟩ <;> rfl

/-- A program does on the disk what another one does, and leaves its own state alone. -/
def Carries (program : Run (StateT σ (StateM Disk)) α) (plain : Run (StateM Disk) α) : Prop :=
  ∀ state disk, executeWith program state disk =
    (((execute plain disk).1, state), (execute plain disk).2)

namespace Carries

theorem pure (a : α) : Carries (Pure.pure a : Run (StateT σ (StateM Disk)) α) (Pure.pure a) :=
  fun _ _ => rfl

theorem throw (cause : Failure) :
    Carries (MonadExcept.throw cause : Run (StateT σ (StateM Disk)) α)
      (MonadExcept.throw cause) :=
  fun _ _ => rfl

theorem bind {program : Run (StateT σ (StateM Disk)) α} {plain : Run (StateM Disk) α}
    {next : α → Run (StateT σ (StateM Disk)) β} {plainNext : α → Run (StateM Disk) β}
    (first : Carries program plain) (second : ∀ a, Carries (next a) (plainNext a)) :
    Carries (program >>= next) (plain >>= plainNext) := by
  intro state disk
  rw [executeWith_bind, first, execute_bind]
  rcases execute plain disk with ⟨cause | a, middle⟩
  · rfl
  · exact second a state middle

theorem ite {condition : Prop} [Decidable condition]
    {first second : Run (StateT σ (StateM Disk)) α} {plainFirst plainSecond : Run (StateM Disk) α}
    (left : Carries first plainFirst) (right : Carries second plainSecond) :
    Carries (if condition then first else second)
      (if condition then plainFirst else plainSecond) := by
  split
  · exact left
  · exact right

theorem mapM {program : α → Run (StateT σ (StateM Disk)) β} {plain : α → Run (StateM Disk) β}
    (each : ∀ a, Carries (program a) (plain a)) (list : List α) :
    Carries (list.mapM program) (list.mapM plain) := by
  induction list with
  | nil => exact pure []
  | cons a rest ih =>
    rw [List.mapM_cons, List.mapM_cons]
    exact bind (each a) fun b => bind ih fun others => pure _

theorem forM {program : α → Run (StateT σ (StateM Disk)) PUnit}
    {plain : α → Run (StateM Disk) PUnit} (each : ∀ a, Carries (program a) (plain a))
    (list : List α) : Carries (list.forM program) (list.forM plain) := by
  induction list with
  | nil => exact pure PUnit.unit
  | cons a rest ih => exact bind (each a) fun _ => ih

end Carries

section Programs

variable (σ)

/-- What follows a check that fails is not run. -/
theorem carries_throw_bind (cause : Failure) (next : PUnit → Run (StateT σ (StateM Disk)) α)
    (plainNext : PUnit → Run (StateM Disk) α) :
    Carries (throw cause >>= next) (throw cause >>= plainNext) :=
  fun _ _ => rfl

theorem carries_isFile (path : String) :
    Carries (isFile path : Run (StateT σ (StateM Disk)) Bool) (isFile path) :=
  fun _ _ => rfl

theorem carries_isDirectory (path : String) :
    Carries (isDirectory path : Run (StateT σ (StateM Disk)) Bool) (isDirectory path) :=
  fun _ _ => rfl

theorem carries_readText (path : String) :
    Carries (readText path : Run (StateT σ (StateM Disk)) String) (readText path) := by
  refine Carries.bind (fun _ _ => rfl) fun content => ?_
  cases String.fromUTF8? content with
  | none => exact Carries.throw _
  | some text => exact Carries.pure text

theorem carries_overwrite (path text : String) :
    Carries (overwrite path text : Run (StateT σ (StateM Disk)) Unit) (overwrite path text) :=
  fun _ _ => rfl

theorem carries_createParent (path : String) :
    Carries (createParent path : Run (StateT σ (StateM Disk)) Unit) (createParent path) := by
  unfold createParent
  cases Disk.Path.parent? path with
  | none => exact Carries.pure ()
  | some parent => exact Carries.ite (Carries.pure ()) fun _ _ => rfl

theorem carries_writeFile (path text : String) (policy : WritePolicy) :
    Carries (writeFile path text policy : Run (StateT σ (StateM Disk)) WriteResult)
      (writeFile path text policy) := by
  have put : Carries (do
      createParent path
      overwrite path text
      return .written : Run (StateT σ (StateM Disk)) WriteResult) (put path text) :=
    Carries.bind (carries_createParent σ path) fun _ =>
      Carries.bind (carries_overwrite σ path text) fun _ => Carries.pure _
  refine Carries.bind (carries_isFile σ path) fun isFile => ?_
  refine Carries.bind (carries_isDirectory σ path) fun isDirectory => ?_
  cases policy with
  | overwrite => exact put
  | skip =>
    cases isFile || isDirectory with
    | true => exact Carries.pure _
    | false => exact put
  | fail =>
    cases isFile || isDirectory with
    | true => exact Carries.throw _
    | false => exact put

theorem carries_requireTemplates (directory : String) :
    Carries (requireTemplates directory : Run (StateT σ (StateM Disk)) Unit)
      (requireTemplates directory) :=
  Carries.bind (carries_isDirectory σ directory) fun _ =>
    Carries.ite (Carries.throw _) (Carries.pure _)

theorem carries_requireTemplate (directory name : String) :
    Carries (requireTemplate directory name : Run (StateT σ (StateM Disk)) Unit)
      (requireTemplate directory name) :=
  Carries.bind (carries_isFile σ _) fun _ => Carries.ite (Carries.throw _) (Carries.pure _)

theorem carries_makeFile (root directory : String) (tokens : List (String × String))
    (file : TemplateFile) :
    Carries (makeFile root directory tokens file :
      Run (StateT σ (StateM Disk)) (String × WriteResult))
      (makeFile root directory tokens file) := by
  refine Carries.bind (Carries.bind (carries_requireTemplate σ _ _) fun _ =>
    carries_readText σ _) fun template => ?_
  exact Carries.bind (carries_writeFile σ _ _ _) fun _ => Carries.pure _

theorem carries_updateRoutes (path table : String) :
    Carries (updateRoutes path table : Run (StateT σ (StateM Disk)) Bool)
      (updateRoutes path table) := by
  refine Carries.bind (carries_isFile σ path) fun _ => Carries.ite (Carries.pure _) ?_
  refine Carries.bind (carries_readText σ path) fun content => Carries.ite (Carries.pure _) ?_
  exact Carries.bind (carries_overwrite σ _ _) fun _ => Carries.pure _

theorem carries_generateTable (root directory : String) (table : Table) :
    Carries (generateTable root directory table : Run (StateT σ (StateM Disk)) TableOutcome)
      (generateTable root directory table) := by
  refine Carries.bind (carries_requireTemplates σ _) fun _ => Carries.bind ?_ fun files =>
    Carries.bind (carries_updateRoutes σ _ _) fun _ => Carries.pure _
  refine Carries.bind (Carries.mapM (carries_makeFile σ _ _ _) _) fun own => ?_
  exact Carries.bind (carries_makeFile σ _ _ _ _) fun pool => Carries.pure _

theorem carries_writeDocument (root path text : String) :
    Carries (writeDocument root path text :
      Run (StateT σ (StateM Disk)) (String × WriteResult)) (writeDocument root path text) :=
  Carries.bind (carries_writeFile σ _ _ _) fun _ => Carries.pure _

theorem carries_renderPostman (schema : Schema) (api : ApiSettings) :
    Carries (renderPostman schema api : Run (StateT σ (StateM Disk)) String)
      (renderPostman schema api) := by
  unfold renderPostman
  cases Postman.render schema api with
  | ok text => exact Carries.pure text
  | error fault => exact Carries.throw _

theorem carries_writeDocuments (config : Config) (schema : Schema) (database : String) :
    Carries (writeDocuments config schema database :
      Run (StateT σ (StateM Disk)) (List (String × WriteResult)))
      (writeDocuments config schema database) := by
  refine Carries.bind (carries_writeDocument σ _ _ _) fun readme => ?_
  refine Carries.bind (carries_writeDocument σ _ _ _) fun openApi => ?_
  refine Carries.bind (carries_renderPostman σ _ _) fun collection => ?_
  refine Carries.bind (carries_writeDocument σ _ _ _) fun postman => ?_
  exact Carries.bind (carries_writeDocument σ _ _ _) fun env => Carries.pure _

theorem carries_loadSchema (path : String) (templates : Option String) :
    Carries (loadSchema path templates : Run (StateT σ (StateM Disk)) Schema)
      (loadSchema path templates) := by
  refine Carries.bind (carries_isFile σ path) fun isFile => ?_
  refine Carries.ite (carries_throw_bind σ _ _ _) (Carries.bind ?_ fun _ => ?_)
  · cases templates with
    | none => exact Carries.pure _
    | some directory => exact carries_requireTemplates σ directory
  · refine Carries.bind (carries_readText σ path) fun sql => ?_
    exact Carries.ite (carries_throw_bind σ _ _ _)
      (Carries.ite (carries_throw_bind σ _ _ _) (Carries.pure _))

theorem carries_checkTableTemplates (directory : String) :
    Carries (checkTableTemplates directory : Run (StateT σ (StateM Disk)) Unit)
      (checkTableTemplates directory) :=
  Carries.bind (carries_requireTemplates σ directory) fun _ =>
    Carries.forM (fun _ => carries_requireTemplate σ _ _) _

end Programs

/-- A full run with a question that keeps a state of its own. -/
structure AskingRun (σ : Type) where
  config : Config
  /-- The schema's path, if it is given. -/
  sqlPath : Option String
  /-- The name of the database, if it is given. -/
  database : Option String
  /-- The answer to the question, and the state once it has been asked. -/
  ask : σ → Except Disk.Fault String × σ

/-- A schema is read: its text and the templates are there, and it has tables. -/
structure Loads (disk : Disk) (sqlPath directory : String) (schema : Schema) : Prop where
  input : disk.isFile sqlPath = true
  templates : disk.isDirectory directory = true
  text : ∃ sql, textAt disk sqlPath = .ok sql ∧ Text.isAllBlank sql.toList = false ∧
    Sql.parse sql = schema
  tables : schema.isEmpty = false

theorem execute_loadSchema_eq_ok_iff_loads {sqlPath directory : String} {disk after : Disk}
    {schema : Schema} :
    execute (loadSchema sqlPath (some directory)) disk = (.ok schema, after) ↔
      after = disk ∧ Loads disk sqlPath directory schema := by
  rw [execute_loadSchema_eq_ok]
  constructor
  · rintro ⟨same, input, templates, sql, text, visible, parsed, tables⟩
    exact ⟨same, input, templates, ⟨sql, text, visible, parsed⟩, tables⟩
  · rintro ⟨same, input, templates, ⟨sql, text, visible, parsed⟩, tables⟩
    exact ⟨same, input, templates, sql, text, visible, parsed, tables⟩

/-- Only one schema can be read. -/
theorem Loads.unique {disk : Disk} {sqlPath directory : String} {schema other : Schema}
    (first : Loads disk sqlPath directory schema) (second : Loads disk sqlPath directory other) :
    schema = other := by
  obtain ⟨sql, text, -, rfl⟩ := first.text
  obtain ⟨otherSql, otherText, -, rfl⟩ := second.text
  rw [Except.ok.inj (text.symm.trans otherText)]

/-- What a full run does once it has its schema and the name of the database. -/
def finish {m : Type → Type} [Monad m] [MonadDisk m] (config : Config) (schema : Schema)
    (name : String) : Run m Summary := do
  checkTableTemplates config.templatesPath
  let outcomes ← schema.tables.mapM (generateTable config.projectRoot config.templatesPath)
  let documents ← writeDocuments config schema name
  return FullRun.summarize schema name outcomes documents

theorem generateFull_eq {m : Type → Type} [Monad m] [MonadDisk m] (config : Config)
    (sqlPath database : Option String) (ask : m (Except Disk.Fault String)) :
    generateFull config sqlPath database ask =
      loadSchema (inputPath config sqlPath) (some config.templatesPath) >>= fun schema =>
        databaseName database schema.database ask >>= finish config schema := rfl

theorem carries_finish (config : Config) (schema : Schema) (name : String) :
    Carries (finish config schema name : Run (StateT σ (StateM Disk)) Summary)
      (finish config schema name) := by
  refine Carries.bind (carries_checkTableTemplates σ _) fun _ => ?_
  refine Carries.bind (Carries.mapM (carries_generateTable σ _ _) _) fun outcomes => ?_
  exact Carries.bind (carries_writeDocuments σ _ _ _) fun documents => Carries.pure _

namespace AskingRun

/-- The run itself. -/
def program (run : AskingRun σ) : Run (StateT σ (StateM Disk)) Summary :=
  generateFull run.config run.sqlPath run.database fun state => pure (run.ask state)

/-- The run with the answer that is given in a state. -/
def answered (run : AskingRun σ) (state : σ) : FullRun :=
  ⟨run.config, run.sqlPath, run.database, (run.ask state).1⟩

/-- The path of the schema that is read. -/
def input (run : AskingRun σ) : String :=
  inputPath run.config run.sqlPath

def templates (run : AskingRun σ) : String :=
  run.config.templatesPath

/-- A schema is read in which no database is named, and none is given. -/
def Asks (run : AskingRun σ) (disk : Disk) : Prop :=
  ∃ schema, Loads disk run.input run.templates schema ∧ run.database = none ∧
    schema.database = none

/-- The question is asked once if no name is given or declared, and not at all otherwise. -/
theorem executeWith_databaseName (given declared : Option String)
    (ask : σ → Except Disk.Fault String × σ) (state : σ) (disk : Disk) :
    executeWith (databaseName given declared fun state => pure (ask state)) state disk =
      ((chosenName given declared (ask state).1,
        if (given.or declared).isNone then (ask state).2 else state), disk) := by
  have asking : executeWith (onDisk fun state => pure (ask state) :
      Run (StateT σ (StateM Disk)) String) state disk =
        (((ask state).1.mapError Failure.disk, (ask state).2), disk) := rfl
  have answering (name : String) : executeWith (pure name :
      Run (StateT σ (StateM Disk)) String) state disk = ((.ok name, state), disk) := rfl
  unfold databaseName chosenName
  cases given.or declared with
  | some name =>
    rw [executeWith_bind, answering]
    dsimp only [Option.elim]
    split <;> rfl
  | none =>
    rw [executeWith_bind, asking]
    cases (ask state).1 with
    | error fault => rfl
    | ok text =>
      dsimp only [Option.elim, mapError_ok]
      split <;> rfl

/-- Once a schema is read, it alone decides whether the question is asked. -/
theorem asks_iff {run : AskingRun σ} {disk : Disk} {schema : Schema}
    (loads : Loads disk run.input run.templates schema) :
    run.Asks disk ↔ (run.database.or schema.database).isNone = true := by
  rw [Option.isNone_iff_eq_none, Option.or_eq_none_iff]
  constructor
  · rintro ⟨other, otherLoads, given, declared⟩
    obtain rfl := loads.unique otherLoads
    exact ⟨given, declared⟩
  · rintro ⟨given, declared⟩
    exact ⟨schema, loads, given, declared⟩

/-- A run does on the disk what the run with its answer does, and asks if it has to. -/
theorem exists_executeWith_program (run : AskingRun σ) (state : σ) (disk : Disk) :
    ∃ last, executeWith run.program state disk =
        (((execute (run.answered state).program disk).1, last),
          (execute (run.answered state).program disk).2) ∧
      (run.Asks disk → last = (run.ask state).2) ∧ (¬ run.Asks disk → last = state) := by
  rw [program, answered, FullRun.program, generateFull_eq, generateFull_eq, executeWith_bind,
    carries_loadSchema, execute_bind]
  cases loading : execute (loadSchema (inputPath run.config run.sqlPath)
      (some run.config.templatesPath)) disk with
  | mk answer middle =>
    cases answer with
    | error cause =>
      have silent : ¬ run.Asks disk := by
        rintro ⟨schema, loads, -⟩
        have passes := execute_loadSchema_eq_ok_iff_loads.2 ⟨rfl, loads⟩
        exact absurd (loading.symm.trans passes) (by simp)
      exact ⟨state, rfl, fun asks => absurd asks silent, fun _ => rfl⟩
    | ok schema =>
      obtain ⟨rfl, loads⟩ := execute_loadSchema_eq_ok_iff_loads.1 loading
      rw [asks_iff loads]
      dsimp only
      rw [executeWith_bind, executeWith_databaseName, execute_bind, execute_databaseName]
      refine ⟨if (run.database.or schema.database).isNone then (run.ask state).2 else state, ?_,
        fun asks => if_pos asks, fun silent => if_neg silent⟩
      cases chosenName run.database schema.database (run.ask state).1 with
      | error cause => rfl
      | ok name => exact carries_finish run.config schema name _ middle

end AskingRun

end Project
end SchemaScaffold
