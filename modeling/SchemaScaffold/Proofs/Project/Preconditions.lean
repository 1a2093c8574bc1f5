import SchemaScaffold.Proofs.Project.Asking
import SchemaScaffold.Proofs.Project.Production

/-!
# Failed checks

The checks in front of a full run come in a fixed order, and the first one that fails gives the
cause. Each of these causes shows exactly that its check was the first one to fail: once files are
written, none of them can come up again, since what was found there stays there.
-/

namespace SchemaScaffold
namespace Project

open Disk (Grows)
open Disk.Path (join)

/-- The causes of failed checks. -/
inductive IsCheckFault : Failure → Prop where
  | inputNotFound (path : String) : IsCheckFault (.inputNotFound path)
  | templatesNotFound (path : String) : IsCheckFault (.templatesNotFound path)
  | emptySql : IsCheckFault .emptySql
  | noTables : IsCheckFault .noTables
  | missingDatabaseName : IsCheckFault .missingDatabaseName
  | templateMissing (path : String) : IsCheckFault (.templateMissing path)

theorem not_isCheckFault_disk (fault : Disk.Fault) : ¬ IsCheckFault (.disk fault) :=
  nofun

/-- A file that cannot be read is a fault of the disk. -/
theorem exists_fault_of_textAt {disk : Disk} {path : String} {cause : Failure}
    (unread : textAt disk path = .error cause) : ∃ fault, cause = .disk fault := by
  unfold textAt at unread
  split at unread
  · split at unread
    · simp at unread
    · exact ⟨_, (Except.error.inj unread).symm⟩
  · exact ⟨_, (Except.error.inj unread).symm⟩

/-- A template is not there. -/
def lacksTemplate (disk : Disk) (directory : String) (file : TemplateFile) : Bool :=
  !disk.isFile (join directory file.template)

/-- The first check that fails when a schema is read, with its cause. -/
inductive LoadFails (disk : Disk) (sqlPath directory : String) : Failure → Prop where
  | input (missing : disk.isFile sqlPath = false) :
      LoadFails disk sqlPath directory (.inputNotFound sqlPath)
  | templates (input : disk.isFile sqlPath = true)
      (missing : disk.isDirectory directory = false) :
      LoadFails disk sqlPath directory (.templatesNotFound directory)
  | unreadable {cause : Failure} (input : disk.isFile sqlPath = true)
      (templates : disk.isDirectory directory = true)
      (unread : textAt disk sqlPath = .error cause) : LoadFails disk sqlPath directory cause
  | blank {sql : String} (input : disk.isFile sqlPath = true)
      (templates : disk.isDirectory directory = true) (text : textAt disk sqlPath = .ok sql)
      (blank : Text.isAllBlank sql.toList = true) : LoadFails disk sqlPath directory .emptySql
  | tables {sql : String} (input : disk.isFile sqlPath = true)
      (templates : disk.isDirectory directory = true) (text : textAt disk sqlPath = .ok sql)
      (visible : Text.isAllBlank sql.toList = false) (empty : (Sql.parse sql).isEmpty = true) :
      LoadFails disk sqlPath directory .noTables

/-- The first check of a run that fails, with its cause. -/
inductive FullRun.FailsCheck (run : FullRun) (disk : Disk) : Failure → Prop where
  | load {cause : Failure} (fails : LoadFails disk run.input run.templates cause) :
      FailsCheck run disk cause
  | name {schema : Schema} {cause : Failure}
      (loads : Loads disk run.input run.templates schema)
      (unnamed : chosenName run.database schema.database run.answer = .error cause) :
      FailsCheck run disk cause
  | template {schema : Schema} {name : String} {file : TemplateFile}
      (loads : Loads disk run.input run.templates schema)
      (named : chosenName run.database schema.database run.answer = .ok name)
      (first : (tableTemplates ++ [poolTemplate]).find? (lacksTemplate disk run.templates) =
        some file) :
      FailsCheck run disk (.templateMissing (join run.templates file.template))

section Checks

variable {sqlPath directory : String} {run : FullRun} {disk after : Disk} {cause : Failure}

/-- The first check that fails ends the reading of a schema. -/
theorem LoadFails.execute_loadSchema (fails : LoadFails disk sqlPath directory cause) :
    execute (loadSchema sqlPath (some directory)) disk = (.error cause, disk) := by
  unfold loadSchema
  cases fails with
  | input missing => simp [execute_bind, missing]
  | templates input missing =>
    simp [execute_bind, input, Option.forM, execute_requireTemplates, missing]
  | unreadable input templates unread =>
    simp [execute_bind, input, Option.forM, execute_requireTemplates, templates, unread]
  | blank input templates text blank =>
    simp only [execute_bind, execute_isFile, input, Option.forM,
      execute_requireTemplates, templates, execute_readText, text, execute_throw, blank,
      Bool.not_true, Bool.false_eq_true, if_false, if_true]
  | tables input templates text visible empty =>
    simp only [execute_bind, execute_isFile, input, Option.forM,
      execute_requireTemplates, templates, execute_readText, text, execute_throw, visible, empty,
      Bool.not_true, Bool.false_eq_true, if_false, if_true]

/-- A schema is read or a check fails. -/
theorem loads_or_loadFails (disk : Disk) (sqlPath directory : String) :
    (∃ schema, Loads disk sqlPath directory schema) ∨
      ∃ cause, LoadFails disk sqlPath directory cause := by
  cases input : disk.isFile sqlPath with
  | false => exact .inr ⟨_, .input input⟩
  | true =>
    cases templates : disk.isDirectory directory with
    | false => exact .inr ⟨_, .templates input templates⟩
    | true =>
      cases text : textAt disk sqlPath with
      | error cause => exact .inr ⟨cause, .unreadable input templates text⟩
      | ok sql =>
        cases blank : Text.isAllBlank sql.toList with
        | true => exact .inr ⟨_, .blank input templates text blank⟩
        | false =>
          cases empty : (Sql.parse sql).isEmpty with
          | true => exact .inr ⟨_, .tables input templates text blank empty⟩
          | false =>
            exact .inl ⟨Sql.parse sql, input, templates, ⟨sql, text, blank, rfl⟩, empty⟩

/-- The first template that is not there is missing. -/
theorem execute_forM_requireTemplate (directory : String) (files : List TemplateFile)
    (disk : Disk) :
    execute (files.forM fun file => requireTemplate directory file.template) disk =
      ((files.find? (lacksTemplate disk directory)).elim (.ok ()) fun file =>
        .error (.templateMissing (join directory file.template)), disk) := by
  induction files with
  | nil => rfl
  | cons file rest ih =>
    change execute (requireTemplate directory file.template >>= fun _ =>
      rest.forM fun file => requireTemplate directory file.template) disk = _
    rw [execute_bind, execute_requireTemplate, List.find?_cons, lacksTemplate]
    cases disk.isFile (join directory file.template) with
    | true => exact ih
    | false => rfl

/-- The first check that fails ends the preparation of a run. -/
theorem FullRun.FailsCheck.execute_prepare (fails : run.FailsCheck disk cause) :
    execute run.prepare disk = (.error cause, disk) := by
  unfold prepare
  cases fails with
  | load fails => rw [execute_bind, fails.execute_loadSchema]
  | name loads unnamed =>
    rw [execute_bind, execute_loadSchema_eq_ok_iff_loads.2 ⟨rfl, loads⟩]
    dsimp only
    rw [execute_bind, execute_databaseName, unnamed]
  | template loads named first =>
    rw [execute_bind, execute_loadSchema_eq_ok_iff_loads.2 ⟨rfl, loads⟩]
    dsimp only
    rw [execute_bind, execute_databaseName, named]
    dsimp only
    rw [checkTableTemplates, execute_bind, execute_bind, execute_requireTemplates,
      if_pos loads.templates]
    dsimp only
    rw [execute_forM_requireTemplate, first]
    rfl

/-- A run is prepared or a check fails. -/
theorem FullRun.prepared_or_failsCheck (run : FullRun) (disk : Disk) :
    (∃ schema name, run.Prepared disk schema name) ∨ ∃ cause, run.FailsCheck disk cause := by
  rcases loads_or_loadFails disk run.input run.templates with ⟨schema, loads⟩ | ⟨cause, fails⟩
  · cases named : chosenName run.database schema.database run.answer with
    | error cause => exact .inr ⟨cause, .name loads named⟩
    | ok name =>
      cases first : (tableTemplates ++ [poolTemplate]).find?
          (lacksTemplate disk run.templates) with
      | some file => exact .inr ⟨_, .template loads named first⟩
      | none =>
        refine .inl ⟨schema, name, loads.input, loads.templates, loads.text, loads.tables, named,
          fun file member => ?_⟩
        simpa [lacksTemplate] using List.find?_eq_none.1 first file member
  · exact .inr ⟨cause, .load fails⟩

/-- The preparation of a run fails exactly with the cause of the first check that fails. -/
theorem FullRun.execute_prepare_eq_error :
    execute run.prepare disk = (.error cause, after) ↔
      after = disk ∧ run.FailsCheck disk cause := by
  constructor
  · intro failed
    rcases run.prepared_or_failsCheck disk with ⟨schema, name, prepared⟩ | ⟨other, fails⟩
    · exact absurd (failed.symm.trans (execute_prepare_eq_ok.2 ⟨rfl, prepared⟩)) (by simp)
    · obtain ⟨rfl, rfl⟩ : cause = other ∧ after = disk := by
        simpa using failed.symm.trans fails.execute_prepare
      exact ⟨rfl, fails⟩
  · rintro ⟨rfl, fails⟩
    exact fails.execute_prepare

end Checks

/-- The templates for tables are in place. -/
def HasTemplates (directory : String) (disk : Disk) : Prop :=
  disk.isDirectory directory = true ∧ ∀ file ∈ tableTemplates ++ [poolTemplate],
    disk.isFile (join directory file.template) = true

theorem HasTemplates.grows {directory : String} {before after : Disk}
    (templates : HasTemplates directory before) (grows : Grows before after) :
    HasTemplates directory after :=
  ⟨grows.isDirectory templates.1, fun file member => grows.isFile (templates.2 file member)⟩

/-- While the templates are in place, a program does not fail with the cause of a check. -/
def PassesChecks {α : Type} (directory : String) (program : Run (StateM Disk) α) : Prop :=
  ∀ disk after cause, HasTemplates directory disk →
    execute program disk = (.error cause, after) → ¬ IsCheckFault cause

namespace PassesChecks

variable {α β : Type} {directory : String}

theorem of_failsOnly {kind : Failure → Prop} {program : Run (StateM Disk) α}
    (fails : FailsOnly kind program) (other : ∀ cause, kind cause → ¬ IsCheckFault cause) :
    PassesChecks directory program :=
  fun disk after cause _ failed => other cause (fails disk after cause failed)

theorem pure (a : α) : PassesChecks directory (Pure.pure a) := by
  intro disk after cause _ failed
  simp at failed

theorem bind {program : Run (StateM Disk) α} {next : α → Run (StateM Disk) β}
    (first : PassesChecks directory program) (grows : Respects Grows program)
    (second : ∀ a, PassesChecks directory (next a)) :
    PassesChecks directory (program >>= next) := by
  intro disk after cause templates failed
  rcases execute_bind_eq_error.1 failed with early | ⟨a, middle, done, late⟩
  · exact first disk after cause templates early
  · exact second a middle after cause (templates.grows (grows.of_execute done)) late

theorem mapM {program : α → Run (StateM Disk) β} {list : List α}
    (each : ∀ a ∈ list, PassesChecks directory (program a))
    (grows : ∀ a, Respects Grows (program a)) : PassesChecks directory (list.mapM program) := by
  induction list with
  | nil => exact pure []
  | cons a rest ih =>
    obtain ⟨own, others⟩ := List.forall_mem_cons.1 each
    rw [List.mapM_cons]
    refine bind own (grows a) fun b => bind (ih others) ?_ fun results => pure _
    exact Respects.mapM chains_grows fun other _ => grows other

end PassesChecks

section Producing

variable {directory : String}

theorem not_isCheckFault_of_isWriteFault {cause : Failure} (write : IsWriteFault cause) :
    ¬ IsCheckFault cause := by
  obtain ⟨fault, rfl, -⟩ := write
  exact not_isCheckFault_disk fault

theorem passesChecks_readText (path : String) : PassesChecks directory (readText path) := by
  intro disk after cause _ failed
  rw [execute_readText] at failed
  obtain ⟨fault, rfl⟩ := exists_fault_of_textAt (Prod.mk.inj failed).1
  exact not_isCheckFault_disk fault

theorem passesChecks_requireTemplates : PassesChecks directory (requireTemplates directory) := by
  intro disk after cause templates failed
  rw [execute_requireTemplates, if_pos templates.1] at failed
  simp at failed

theorem passesChecks_makeFile (root : String) (tokens : List (String × String))
    {file : TemplateFile} (member : file ∈ tableTemplates ++ [poolTemplate]) :
    PassesChecks directory (makeFile root directory tokens file) := by
  have present : PassesChecks directory (requireTemplate directory file.template) := by
    intro disk after cause templates failed
    rw [execute_requireTemplate, if_pos (templates.2 file member)] at failed
    simp at failed
  have loaded : PassesChecks directory (loadTemplate directory file.template) :=
    present.bind ((readsOnly_requireTemplate _ _).respects chains_grows) fun _ =>
      passesChecks_readText _
  refine loaded.bind ((readsOnly_loadTemplate _ _).respects chains_grows) fun template => ?_
  have written (path text : String) : PassesChecks directory (writeFile path text .skip) :=
    .of_failsOnly (failsOnly_writeFile_skip path text) fun _ => not_isCheckFault_of_isWriteFault
  exact (written _ _).bind (fun disk => (respects_writeFile_skip _ _ disk).grows) fun outcome =>
    PassesChecks.pure _

theorem passesChecks_updateRoutes (path table : String) :
    PassesChecks directory (updateRoutes path table) := by
  intro disk after cause _ failed
  rw [execute_updateRoutes] at failed
  split at failed
  · split at failed
    · next unread =>
      obtain ⟨fault, rfl⟩ := exists_fault_of_textAt unread
      rw [← Except.error.inj (Prod.mk.inj failed).1]
      exact not_isCheckFault_disk fault
    · split at failed
      · simp at failed
      · split at failed
        · simp at failed
        · rw [← Except.error.inj (Prod.mk.inj failed).1]
          exact not_isCheckFault_disk _
  · simp at failed

theorem passesChecks_generateTable (root : String) (table : Table) :
    PassesChecks directory (generateTable root directory table) := by
  refine passesChecks_requireTemplates.bind
    ((readsOnly_requireTemplates _).respects chains_grows) fun _ => ?_
  have made : PassesChecks directory (makeTableFiles root directory table) := by
    refine (PassesChecks.mapM (fun file member => ?_) fun file => ?_).bind ?_ fun own => ?_
    · exact passesChecks_makeFile root _ (List.mem_append_left _ member)
    · exact grows_makeFile _ _ _ file
    · exact Respects.mapM chains_grows fun file _ => grows_makeFile _ _ _ file
    · exact (passesChecks_makeFile root _ (by simp)).bind (grows_makeFile _ _ _ _) fun pool =>
        PassesChecks.pure _
  refine made.bind (grows_makeTableFiles _ _ _) fun files => ?_
  exact (passesChecks_updateRoutes _ _).bind (grows_updateRoutes _ _) fun registered =>
    PassesChecks.pure _

theorem passesChecks_writeDocuments (config : Config) (schema : Schema) (name : String) :
    PassesChecks directory (writeDocuments config schema name) := by
  have document (path text : String) : FailsOnly (fun cause => ¬ IsCheckFault cause)
      (writeDocument config.projectRoot path text) :=
    FailsOnly.bind ((failsOnly_writeFile_overwrite _ _).mono fun _ =>
      not_isCheckFault_of_isWriteFault) fun _ => FailsOnly.pure _
  have rendering : FailsOnly (fun cause => ¬ IsCheckFault cause)
      (renderPostman schema config.api) := by
    intro disk after cause failed
    rw [execute_renderPostman] at failed
    cases rendered : Postman.render schema config.api with
    | ok text => simp [rendered] at failed
    | error fault =>
      rw [rendered] at failed
      rw [← Except.error.inj (Prod.mk.inj failed).1]
      exact nofun
  refine .of_failsOnly ?_ fun _ other => other
  refine FailsOnly.bind (document _ _) fun readme => FailsOnly.bind (document _ _) fun openApi => ?_
  refine FailsOnly.bind rendering fun collection => ?_
  exact FailsOnly.bind (document _ _) fun postman =>
    FailsOnly.bind (document _ _) fun env => FailsOnly.pure _

/-- Once the checks have passed, no file that is written brings one of their causes up. -/
theorem FullRun.not_isCheckFault_of_produce {run : FullRun} {disk after : Disk} {schema : Schema}
    {name : String} {cause : Failure} (prepared : run.Prepared disk schema name)
    (failed : execute (run.produce schema name) disk = (.error cause, after)) :
    ¬ IsCheckFault cause := by
  have passes : PassesChecks run.templates (run.produce schema name) := by
    refine (PassesChecks.mapM (fun table _ => passesChecks_generateTable _ table) fun table =>
      grows_generateTable _ _ table).bind (grows_generateTables _ _ _) fun outcomes => ?_
    exact (passesChecks_writeDocuments _ _ _).bind (grows_writeDocuments _ _ _) fun documents =>
      PassesChecks.pure _
  exact passes disk after cause ⟨prepared.directory, prepared.templates⟩ failed

end Producing

/-! ## Exact causes -/

/-- The text that is taken for the name of the database: the one that is given, also if it is
blank, or else the one that is declared, or else the answer. -/
def nameText (given declared : Option String) (answer : Except Disk.Fault String) :
    Except Disk.Fault String :=
  (given.or declared).elim answer .ok

theorem chosenName_eq_error {given declared : Option String}
    {answer : Except Disk.Fault String} {cause : Failure} :
    chosenName given declared answer = .error cause ↔
      (∃ fault, nameText given declared answer = .error fault ∧ cause = .disk fault) ∨
        ∃ text, nameText given declared answer = .ok text ∧ Text.trim text.toList = [] ∧
          cause = .missingDatabaseName := by
  unfold chosenName nameText
  cases (given.or declared).elim answer .ok with
  | error fault =>
    have same : Failure.disk fault = cause ↔ cause = .disk fault := eq_comm
    simp [same]
  | ok text =>
    have same : Failure.missingDatabaseName = cause ↔ cause = .missingDatabaseName := eq_comm
    by_cases blank : Text.trim text.toList = []
    · simp [blank, same]
    · simp [blank]

theorem chosenName_eq_ok {given declared : Option String} {answer : Except Disk.Fault String} :
    (∃ name, chosenName given declared answer = .ok name) ↔
      ∃ text, nameText given declared answer = .ok text ∧ Text.trim text.toList ≠ [] := by
  unfold chosenName nameText
  cases (given.or declared).elim answer .ok with
  | error fault => simp
  | ok text =>
    by_cases blank : Text.trim text.toList = []
    · simp [blank]
    · simp [blank]

namespace FullRun

variable {run : FullRun} {disk after : Disk} {cause : Failure}

/-- A run ends with the cause of a check exactly if that check is the first one to fail. -/
theorem execute_program_of_checkFault (isCheck : IsCheckFault cause) :
    execute run.program disk = (.error cause, after) ↔
      after = disk ∧ run.FailsCheck disk cause := by
  rw [program_eq, execute_bind_eq_error]
  constructor
  · rintro (early | ⟨⟨schema, name⟩, middle, first, late⟩)
    · exact execute_prepare_eq_error.1 early
    · obtain ⟨rfl, prepared⟩ := execute_prepare_eq_ok.1 first
      exact absurd isCheck (not_isCheckFault_of_produce prepared late)
  · exact fun fails => .inl (execute_prepare_eq_error.2 fails)

/-- A schema that cannot be read is no failed check. -/
theorem not_isCheckFault_of_unread {path : String} (unread : textAt disk path = .error cause) :
    ¬ IsCheckFault cause := by
  obtain ⟨fault, rfl⟩ := exists_fault_of_textAt unread
  exact not_isCheckFault_disk fault

/-- A check of the name fails because the name is blank. -/
theorem blank_of_chosenName {given declared : Option String} {answer : Except Disk.Fault String}
    (isCheck : IsCheckFault cause) (unnamed : chosenName given declared answer = .error cause) :
    cause = .missingDatabaseName ∧
      ∃ text, nameText given declared answer = .ok text ∧ Text.trim text.toList = [] := by
  rcases chosenName_eq_error.1 unnamed with ⟨fault, -, rfl⟩ | ⟨text, taken, blank, rfl⟩
  · exact absurd isCheck (not_isCheckFault_disk fault)
  · exact ⟨rfl, text, taken, blank⟩

namespace FailsCheck

theorem inputNotFound_iff {path : String} : run.FailsCheck disk (.inputNotFound path) ↔
    disk.isFile run.input = false ∧ path = run.input := by
  constructor
  · intro fails
    cases fails with
    | load fails =>
      cases fails with
      | input missing => exact ⟨missing, rfl⟩
      | unreadable _ _ unread =>
        exact absurd (.inputNotFound path) (not_isCheckFault_of_unread unread)
    | name _ unnamed => simpa using (blank_of_chosenName (.inputNotFound path) unnamed).1
  · rintro ⟨missing, rfl⟩
    exact .load (.input missing)

theorem templatesNotFound_iff {path : String} : run.FailsCheck disk (.templatesNotFound path) ↔
    disk.isFile run.input = true ∧ disk.isDirectory run.templates = false ∧
      path = run.templates := by
  constructor
  · intro fails
    cases fails with
    | load fails =>
      cases fails with
      | templates input missing => exact ⟨input, missing, rfl⟩
      | unreadable _ _ unread =>
        exact absurd (.templatesNotFound path) (not_isCheckFault_of_unread unread)
    | name _ unnamed => simpa using (blank_of_chosenName (.templatesNotFound path) unnamed).1
  · rintro ⟨input, missing, rfl⟩
    exact .load (.templates input missing)

theorem emptySql_iff : run.FailsCheck disk .emptySql ↔
    disk.isFile run.input = true ∧ disk.isDirectory run.templates = true ∧
      ∃ sql, textAt disk run.input = .ok sql ∧ Text.isAllBlank sql.toList = true := by
  constructor
  · intro fails
    cases fails with
    | load fails =>
      cases fails with
      | unreadable _ _ unread => exact absurd .emptySql (not_isCheckFault_of_unread unread)
      | blank input templates text blank => exact ⟨input, templates, _, text, blank⟩
    | name _ unnamed => simpa using (blank_of_chosenName .emptySql unnamed).1
  · rintro ⟨input, templates, sql, text, blank⟩
    exact .load (.blank input templates text blank)

theorem noTables_iff : run.FailsCheck disk .noTables ↔
    disk.isFile run.input = true ∧ disk.isDirectory run.templates = true ∧
      ∃ sql, textAt disk run.input = .ok sql ∧ Text.isAllBlank sql.toList = false ∧
        (Sql.parse sql).tables = [] := by
  constructor
  · intro fails
    cases fails with
    | load fails =>
      cases fails with
      | unreadable _ _ unread => exact absurd .noTables (not_isCheckFault_of_unread unread)
      | tables input templates text visible empty =>
        exact ⟨input, templates, _, text, visible, List.isEmpty_iff.1 empty⟩
    | name _ unnamed => simpa using (blank_of_chosenName .noTables unnamed).1
  · rintro ⟨input, templates, sql, text, visible, empty⟩
    exact .load (.tables input templates text visible (List.isEmpty_iff.2 empty))

theorem missingDatabaseName_iff : run.FailsCheck disk .missingDatabaseName ↔
    ∃ schema text, Loads disk run.input run.templates schema ∧
      nameText run.database schema.database run.answer = .ok text ∧
      Text.trim text.toList = [] := by
  constructor
  · intro fails
    cases fails with
    | load fails =>
      cases fails with
      | unreadable _ _ unread =>
        exact absurd .missingDatabaseName (not_isCheckFault_of_unread unread)
    | name loads unnamed =>
      obtain ⟨-, text, taken, blank⟩ := blank_of_chosenName .missingDatabaseName unnamed
      exact ⟨_, text, loads, taken, blank⟩
  · rintro ⟨schema, text, loads, taken, blank⟩
    exact .name loads (chosenName_eq_error.2 (.inr ⟨text, taken, blank, rfl⟩))

theorem templateMissing_iff {path : String} : run.FailsCheck disk (.templateMissing path) ↔
    ∃ schema text file, Loads disk run.input run.templates schema ∧
      nameText run.database schema.database run.answer = .ok text ∧
      Text.trim text.toList ≠ [] ∧
      (tableTemplates ++ [poolTemplate]).find? (lacksTemplate disk run.templates) = some file ∧
      path = join run.templates file.template := by
  constructor
  · intro fails
    cases fails with
    | load fails =>
      cases fails with
      | unreadable _ _ unread =>
        exact absurd (.templateMissing path) (not_isCheckFault_of_unread unread)
    | name _ unnamed => simpa using (blank_of_chosenName (.templateMissing path) unnamed).1
    | template loads named first =>
      obtain ⟨text, taken, visible⟩ := chosenName_eq_ok.1 ⟨_, named⟩
      exact ⟨_, text, _, loads, taken, visible, first, rfl⟩
  · rintro ⟨schema, text, file, loads, taken, visible, first, rfl⟩
    obtain ⟨name, named⟩ := chosenName_eq_ok.2 ⟨text, taken, visible⟩
    exact .template loads named first

end FailsCheck

end FullRun

/-- The checks of a full run are exact and come in order: the schema's file, the templates, a
text that is not blank, a table, a name for the database, and the templates for tables in their
order with that of the pool at the end. The question for a name is asked if it is the only source
of one, once, and not otherwise; an answer that fails is a fault of the disk. A failed check leaves
the disk as it was, and ends the run while it only reads: what it writes later never fails with the
cause of a check. -/
theorem checks_are_exact (run : AskingRun σ) (state : σ) (disk : Disk) :
    ∃ outcome last after, executeWith run.program state disk = ((outcome, last), after) ∧
      (∀ path, outcome = .error (.inputNotFound path) ↔
        disk.isFile run.input = false ∧ path = run.input) ∧
      (∀ path, outcome = .error (.templatesNotFound path) ↔
        disk.isFile run.input = true ∧ disk.isDirectory run.templates = false ∧
          path = run.templates) ∧
      (outcome = .error .emptySql ↔
        disk.isFile run.input = true ∧ disk.isDirectory run.templates = true ∧
          ∃ sql, textAt disk run.input = .ok sql ∧ Text.isAllBlank sql.toList = true) ∧
      (outcome = .error .noTables ↔
        disk.isFile run.input = true ∧ disk.isDirectory run.templates = true ∧
          ∃ sql, textAt disk run.input = .ok sql ∧ Text.isAllBlank sql.toList = false ∧
            (Sql.parse sql).tables = []) ∧
      (outcome = .error .missingDatabaseName ↔
        ∃ schema text, Loads disk run.input run.templates schema ∧
          nameText run.database schema.database (run.ask state).1 = .ok text ∧
          Text.trim text.toList = []) ∧
      (∀ path, outcome = .error (.templateMissing path) ↔
        ∃ schema text file, Loads disk run.input run.templates schema ∧
          nameText run.database schema.database (run.ask state).1 = .ok text ∧
          Text.trim text.toList ≠ [] ∧
          (tableTemplates ++ [poolTemplate]).find? (lacksTemplate disk run.templates) =
            some file ∧
          path = join run.templates file.template) ∧
      (∀ schema fault, Loads disk run.input run.templates schema →
        nameText run.database schema.database (run.ask state).1 = .error fault →
        outcome = .error (.disk fault) ∧ after = disk) ∧
      (run.Asks disk → last = (run.ask state).2) ∧ (¬ run.Asks disk → last = state) ∧
      (∀ cause, IsCheckFault cause → outcome = .error cause → after = disk ∧
        execute (run.answered state).prepare disk = (.error cause, disk)) ∧
      ReadsOnly (run.answered state).prepare ∧
      ∀ schema name cause written, (run.answered state).Prepared disk schema name →
        execute ((run.answered state).produce schema name) disk = (.error cause, written) →
        ¬ IsCheckFault cause := by
  obtain ⟨last, ran, asks, silent⟩ := run.exists_executeWith_program state disk
  have exactly {cause : Failure} (isCheck : IsCheckFault cause) :
      (execute (run.answered state).program disk).1 = .error cause ↔
        (run.answered state).FailsCheck disk cause := by
    constructor
    · intro failed
      obtain ⟨after, same⟩ := exists_execute_eq failed
      exact (FullRun.execute_program_of_checkFault isCheck).1 same |>.2
    · intro fails
      rw [(FullRun.execute_program_of_checkFault isCheck).2 ⟨rfl, fails⟩]
  refine ⟨_, last, _, ran, fun path => ?_, fun path => ?_, ?_, ?_, ?_, fun path => ?_,
    fun schema fault loads failed => ?_, asks, silent, fun cause isCheck failed => ?_,
    FullRun.readsOnly_prepare _, fun schema name cause written prepared failed => ?_⟩
  · exact (exactly (.inputNotFound path)).trans FullRun.FailsCheck.inputNotFound_iff
  · exact (exactly (.templatesNotFound path)).trans FullRun.FailsCheck.templatesNotFound_iff
  · exact (exactly .emptySql).trans FullRun.FailsCheck.emptySql_iff
  · exact (exactly .noTables).trans FullRun.FailsCheck.noTables_iff
  · exact (exactly .missingDatabaseName).trans FullRun.FailsCheck.missingDatabaseName_iff
  · exact (exactly (.templateMissing path)).trans FullRun.FailsCheck.templateMissing_iff
  · have fails : (run.answered state).FailsCheck disk (.disk fault) :=
      .name loads (chosenName_eq_error.2 (.inl ⟨fault, failed, rfl⟩))
    rw [FullRun.program_eq, execute_bind, fails.execute_prepare]
    exact ⟨rfl, rfl⟩
  · have fails := (exactly isCheck).1 failed
    rw [(FullRun.execute_program_of_checkFault isCheck).2 ⟨rfl, fails⟩]
    exact ⟨rfl, fails.execute_prepare⟩
  · exact FullRun.not_isCheckFault_of_produce prepared failed

end Project
end SchemaScaffold
