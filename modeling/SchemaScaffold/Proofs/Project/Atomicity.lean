import SchemaScaffold.Proofs.Project.Production

/-!
# Failed runs

What a failed full run leaves behind when its inputs already showed the cause of the failure. A
run whose checks fail, or that cannot read its first template, has changed nothing. Any other
run has made the first file of the first table before it meets the cause.
-/

namespace SchemaScaffold
namespace Project

open Disk (Grows SameFiles)
open Disk.Path (IsInside join names)

/-- A cause for a failure that the inputs of a run show before it starts. -/
inductive FullRun.InputFault (run : FullRun) (disk : Disk) : Failure → Prop where
  | inputNotFound (missing : disk.isFile run.input = false) :
      InputFault run disk (.inputNotFound run.input)
  | directoryNotFound (missing : disk.isDirectory run.templates = false) :
      InputFault run disk (.templatesNotFound run.templates)
  | inputUnreadable {cause : Failure} (unread : textAt disk run.input = .error cause) :
      InputFault run disk cause
  | inputBlank {sql : String} (text : textAt disk run.input = .ok sql)
      (blank : Text.isAllBlank sql.toList = true) : InputFault run disk .emptySql
  | noTables {sql : String} (text : textAt disk run.input = .ok sql)
      (empty : (Sql.parse sql).isEmpty = true) : InputFault run disk .noTables
  | noName {sql : String} {cause : Failure} (text : textAt disk run.input = .ok sql)
      (unnamed : chosenName run.database (Sql.parse sql).database run.answer = .error cause) :
      InputFault run disk cause
  | templateMissing {file : TemplateFile} (member : file ∈ tableTemplates ++ [poolTemplate])
      (missing : disk.isFile (join run.templates file.template) = false) :
      InputFault run disk (.templateMissing (join run.templates file.template))
  | templateUnreadable {file : TemplateFile} {cause : Failure}
      (member : file ∈ tableTemplates ++ [poolTemplate])
      (unread : textAt disk (join run.templates file.template) = .error cause) :
      InputFault run disk cause
  | indexUnreadable {cause : Failure} (isFile : disk.isFile (join run.root routesIndex) = true)
      (unread : textAt disk (join run.root routesIndex) = .error cause) :
      InputFault run disk cause
  | invalidBaseUrl {fault : Url.Fault} (invalid : Url.parse run.config.api.baseUrl = .error fault) :
      InputFault run disk (.invalidBaseUrl run.config.api.baseUrl fault)

/-- A cause that is no failed check and no failed write. -/
def IsLate (cause : Failure) : Prop :=
  cause = .disk .notText ∨ ∃ url fault, cause = .invalidBaseUrl url fault

/-- A file that is there fails to be read only because it is no text. -/
theorem eq_of_textAt_eq_error {disk : Disk} {path : String} {cause : Failure}
    (isFile : disk.isFile path = true) (unread : textAt disk path = .error cause) :
    cause = .disk .notText := by
  obtain ⟨content, -, read⟩ := Disk.read_of_isFile isFile
  unfold textAt at unread
  rw [read] at unread
  dsimp only at unread
  split at unread
  · simp at unread
  · exact (Except.error.inj unread).symm

/-- If all checks pass, only late causes are left in the inputs. -/
theorem FullRun.InputFault.isLate {run : FullRun} {disk : Disk} {schema : Schema}
    {name : String} {cause : Failure} (prepared : run.Prepared disk schema name)
    (faulty : run.InputFault disk cause) : IsLate cause := by
  obtain ⟨sql, text, visible, parsed⟩ := prepared.text
  cases faulty with
  | inputNotFound missing => simp [prepared.input] at missing
  | directoryNotFound missing => simp [prepared.directory] at missing
  | inputUnreadable unread => simp [text] at unread
  | inputBlank given blank =>
    obtain rfl := Except.ok.inj (text.symm.trans given)
    simp [visible] at blank
  | noTables given empty =>
    obtain rfl := Except.ok.inj (text.symm.trans given)
    simp [parsed, prepared.tables] at empty
  | noName given unnamed =>
    obtain rfl := Except.ok.inj (text.symm.trans given)
    simp [parsed, prepared.named] at unnamed
  | templateMissing member missing => simp [prepared.templates _ member] at missing
  | templateUnreadable member unread =>
    exact .inl (eq_of_textAt_eq_error (prepared.templates _ member) unread)
  | indexUnreadable isFile unread => exact .inl (eq_of_textAt_eq_error isFile unread)
  | invalidBaseUrl invalid => exact .inr ⟨_, _, rfl⟩

theorem IsWriteFault.not_isLate {cause : Failure} (write : IsWriteFault cause) :
    ¬ IsLate cause := by
  obtain ⟨fault, rfl, isText⟩ := write
  rintro (same | ⟨url, invalid, same⟩)
  · exact isText (Failure.disk.inj same)
  · simp at same

/-- The run that makes the first file. -/
def FullRun.makeFirst (run : FullRun) (table : Table) :
    Run (StateM Disk) (String × WriteResult) :=
  makeFile run.root run.templates (Template.entityTokens table.entityNames) controllerTemplate

/-- Once the checks have passed, a run starts with the first file. -/
theorem FullRun.produce_startsWith {run : FullRun} {disk : Disk} {schema : Schema}
    {name : String} (prepared : run.Prepared disk schema name) {table : Table}
    {others : List Table} (shape : schema.tables = table :: others) :
    StartsWith disk (run.makeFirst table) (run.produce schema name) := by
  have passes : execute (requireTemplates run.templates) disk = (.ok (), disk) := by
    rw [execute_requireTemplates, if_pos prepared.directory]
  have files : StartsWith disk (run.makeFirst table)
      (makeTableFiles run.root run.templates table) := by
    unfold makeTableFiles
    have shape : tableTemplates = controllerTemplate :: tableTemplates.tail := rfl
    rw [shape, List.mapM_cons]
    refine StartsWith.bind (StartsWith.sequence fun first => ?_) fun own => ?_
    · refine Respects.bind chains_grows ?_ fun rest => Respects.pure chains_grows _
      exact Respects.mapM chains_grows fun file _ => grows_makeFile _ _ _ file
    · exact Respects.bind chains_grows (grows_makeFile _ _ _ _) fun pool =>
        Respects.pure chains_grows _
  have first : StartsWith disk (run.makeFirst table)
      (generateTable run.root run.templates table) := by
    refine StartsWith.behind passes (files.bind fun made => ?_)
    exact Respects.bind chains_grows (grows_updateRoutes _ _) fun registered =>
      Respects.pure chains_grows _
  unfold produce
  rw [shape, List.mapM_cons]
  refine StartsWith.bind (first.bind fun outcome => ?_) fun outcomes => ?_
  · exact Respects.bind chains_grows (grows_generateTables _ _ _) fun rest =>
      Respects.pure chains_grows _
  · exact Respects.bind chains_grows (grows_writeDocuments _ _ _) fun documents =>
      Respects.pure chains_grows _

/-- A first file that is not made leaves the disk as it was, or its write has failed. -/
theorem FullRun.makeFirst_eq_error {run : FullRun} {table : Table} {disk after : Disk}
    {cause : Failure} (failed : execute (run.makeFirst table) disk = (.error cause, after)) :
    (after = disk ∧
      ∀ text, textAt disk (join run.templates controllerTemplate.template) ≠ .ok text) ∨
        IsWriteFault cause := by
  rcases execute_bind_eq_error.1 failed with unread | ⟨template, _, -, late⟩
  · refine .inl ⟨((readsOnly_loadTemplate _ _).of_execute unread).symm, fun text given => ?_⟩
    rw [execute_loadTemplate_eq_ok.2 ⟨rfl, given⟩] at unread
    simp at unread
  · rcases execute_bind_eq_error.1 late with unwritten | ⟨outcome, _, -, done⟩
    · exact .inr (failsOnly_writeFile_skip _ _ _ _ _ unwritten)
    · simp at done

/-- A cause that is not an invalid address. -/
def IsOther (cause : Failure) : Prop :=
  ∀ url fault, cause ≠ .invalidBaseUrl url fault

theorem IsWriteFault.isOther {cause : Failure} (write : IsWriteFault cause) : IsOther cause := by
  obtain ⟨fault, rfl, -⟩ := write
  intro url invalid
  simp

theorem isOther_of_textAt {disk : Disk} {path : String} {cause : Failure}
    (unread : textAt disk path = .error cause) : IsOther cause := by
  intro url invalid
  unfold textAt at unread
  split at unread
  · split at unread
    · simp at unread
    · simp [← Except.error.inj unread]
  · simp [← Except.error.inj unread]

theorem failsOnly_requireTemplates (directory : String) :
    FailsOnly IsOther (requireTemplates directory) := by
  intro disk after cause failed
  rw [execute_requireTemplates] at failed
  split at failed
  · simp at failed
  · intro url invalid
    simp [← Except.error.inj (Prod.mk.inj failed).1]

theorem failsOnly_requireTemplate (directory name : String) :
    FailsOnly IsOther (requireTemplate directory name) := by
  intro disk after cause failed
  rw [execute_requireTemplate] at failed
  split at failed
  · simp at failed
  · intro url invalid
    simp [← Except.error.inj (Prod.mk.inj failed).1]

theorem failsOnly_readText (path : String) : FailsOnly IsOther (readText path) := by
  intro disk after cause failed
  rw [execute_readText] at failed
  exact isOther_of_textAt (Prod.mk.inj failed).1

theorem failsOnly_makeFile (root directory : String) (tokens : List (String × String))
    (file : TemplateFile) : FailsOnly IsOther (makeFile root directory tokens file) := by
  refine FailsOnly.bind (FailsOnly.bind (failsOnly_requireTemplate _ _) fun _ =>
    failsOnly_readText _) fun text => ?_
  exact FailsOnly.bind ((failsOnly_writeFile_skip _ _).mono fun _ => IsWriteFault.isOther)
    fun outcome => FailsOnly.pure _

theorem failsOnly_updateRoutes (path table : String) :
    FailsOnly IsOther (updateRoutes path table) := by
  intro disk after cause failed
  rw [execute_updateRoutes] at failed
  split at failed
  · split at failed
    · next unread =>
      rw [← Except.error.inj (Prod.mk.inj failed).1]
      exact isOther_of_textAt unread
    · split at failed
      · simp at failed
      · split at failed
        · simp at failed
        · intro url invalid
          simp [← Except.error.inj (Prod.mk.inj failed).1]
  · simp at failed

theorem failsOnly_generateTable (root directory : String) (table : Table) :
    FailsOnly IsOther (generateTable root directory table) := by
  refine FailsOnly.bind (failsOnly_requireTemplates _) fun _ => FailsOnly.bind ?_ fun files =>
    FailsOnly.bind (failsOnly_updateRoutes _ _) fun registered => FailsOnly.pure _
  refine FailsOnly.bind (FailsOnly.mapM (failsOnly_makeFile _ _ _) _) fun own => ?_
  exact FailsOnly.bind (failsOnly_makeFile _ _ _ _) fun pool => FailsOnly.pure _

theorem failsOnly_writeDocument (root path text : String) :
    FailsOnly IsOther (writeDocument root path text) :=
  FailsOnly.bind ((failsOnly_writeFile_overwrite _ _).mono fun _ => IsWriteFault.isOther)
    fun _ => FailsOnly.pure _

/-- An address that turns out to be invalid does so after two documents have been written. -/
theorem writeDocuments_of_invalidBaseUrl {config : Config} {schema : Schema} {database : String}
    {disk after : Disk} {url : String} {fault : Url.Fault}
    (failed : execute (writeDocuments config schema database) disk =
      (.error (.invalidBaseUrl url fault), after)) :
    after.read (join config.projectRoot readmePath) = .ok (Readme.render schema).toUTF8 ∧
      after.read (join config.projectRoot openApiPath) =
        .ok (OpenApi.render schema config.api).toUTF8 := by
  have other {path text : String} {before last : Disk}
      (early : execute (writeDocument config.projectRoot path text) before =
        (.error (.invalidBaseUrl url fault), last)) : False :=
    failsOnly_writeDocument _ _ _ _ _ _ early url fault rfl
  rcases execute_bind_eq_error.1 failed with early | ⟨readme, first, readmeWritten, failed⟩
  · exact (other early).elim
  rcases execute_bind_eq_error.1 failed with early | ⟨openApi, second, openApiWritten, failed⟩
  · exact (other early).elim
  have unchanged : second = after := by
    rcases execute_bind_eq_error.1 failed with early | ⟨text, third, -, failed⟩
    · exact (readsOnly_renderPostman _ _).of_execute early
    rcases execute_bind_eq_error.1 failed with early | ⟨postman, fourth, -, failed⟩
    · exact (other early).elim
    rcases execute_bind_eq_error.1 failed with early | ⟨env, fifth, -, failed⟩
    · exact (other early).elim
    · simp at failed
  subst unchanged
  have putReadme := (execute_writeDocument_eq_ok.1 readmeWritten).1
  have putOpenApi := (execute_writeDocument_eq_ok.1 openApiWritten).1
  refine ⟨?_, (read_of_put putOpenApi).2⟩
  have touched := (respects_put _ _).of_execute putOpenApi
  have apart : first.destination (join config.projectRoot readmePath) ≠
      first.destination (join config.projectRoot openApiPath) :=
    destination_shared_ne (by simp [sharedPaths]) (by simp [sharedPaths]) (by decide) _ _
  rw [touched.grows.read (read_of_put putReadme).1 (touched.file?_of_ne apart),
    (read_of_put putReadme).2]

/-- A run gets as far as its first file: all checks pass, and the first template is a text. -/
def FullRun.StartsWriting (run : FullRun) (disk : Disk) (schema : Schema) : Prop :=
  (∃ name, run.Prepared disk schema name) ∧
    ∃ text, textAt disk (join run.templates controllerTemplate.template) = .ok text

section Leavings

variable {run : FullRun} {disk after : Disk} {schema : Schema} {name : String} {cause : Failure}

/-- The first file stands once it has been made, also where nothing stood before. -/
theorem stands_of_makeFirst {table : Table} (named : IsNamed table) {middle : Disk}
    {result : String × WriteResult}
    (made : execute (run.makeFirst table) disk = (.ok result, middle))
    (larger : Grows middle after) :
    after.hasEntry (join run.root (tablePath table controllerTemplate)) = true ∧
      (disk.node? (disk.destination (join run.root (tablePath table controllerTemplate))) =
        none → ¬ SameFiles disk after) := by
  have member : controllerTemplate ∈ tableTemplates := List.mem_cons_self
  have inside := isInside_tablePath named member
  obtain ⟨template, outcome, -, written, -⟩ := execute_makeFile_table_eq_ok.1 made
  refine ⟨larger.hasEntry (hasEntry_of_writeFile written), fun empty same => ?_⟩
  have missing : disk.hasEntry (join run.root (tablePath table controllerTemplate)) ≠ true :=
    fun found => inside.node?_of_hasEntry (names_tablePath_ne_nil named member) found empty
  rw [execute_writeFile_skip, if_neg missing] at written
  obtain ⟨newer, stays⟩ :=
    larger.file _ _ (Disk.file?_eq_some.1 (file?_of_put written))
  have kept := same (disk.destination (join run.root (tablePath table controllerTemplate)))
  rw [Disk.file?_eq_some.2 stays] at kept
  simp [Disk.file?, empty] at kept

/-- An invalid address shows up after the first two documents have been written. -/
theorem FullRun.produce_of_invalidBaseUrl {url : String} {fault : Url.Fault}
    (failed : execute (run.produce schema name) disk =
      (.error (.invalidBaseUrl url fault), after)) :
    after.read (join run.root readmePath) = .ok (Readme.render schema).toUTF8 ∧
      after.read (join run.root openApiPath) =
        .ok (OpenApi.render schema run.config.api).toUTF8 := by
  rcases execute_bind_eq_error.1 failed with early | ⟨outcomes, middle, -, failed⟩
  · exact absurd rfl
      (FailsOnly.mapM (failsOnly_generateTable _ _) _ _ _ _ early url fault)
  rcases execute_bind_eq_error.1 failed with early | ⟨documents, last, -, done⟩
  · exact writeDocuments_of_invalidBaseUrl early
  · simp at done

end Leavings

/-- A failed run whose inputs showed the cause has changed nothing if it did not get as far as
its first file. Otherwise the first file of the first table stands, also where nothing stood
before, and in front of an invalid address two of the documents have been replaced. -/
theorem failed_run_leaves {run : FullRun} {disk after : Disk} {cause : Failure}
    (failed : execute run.program disk = (.error cause, after))
    (faulty : run.InputFault disk cause) :
    ((∀ schema, ¬ run.StartsWriting disk schema) → after = disk) ∧
      ∀ schema, run.StartsWriting disk schema →
        (∃ table ∈ schema.tables.head?,
          after.hasEntry (join run.root (tablePath table controllerTemplate)) = true ∧
            (disk.node? (disk.destination (join run.root (tablePath table controllerTemplate))) =
              none → ¬ SameFiles disk after)) ∧
        ∀ url fault, cause = .invalidBaseUrl url fault →
          after.read (join run.root readmePath) = .ok (Readme.render schema).toUTF8 ∧
            after.read (join run.root openApiPath) =
              .ok (OpenApi.render schema run.config.api).toUTF8 := by
  rcases run.execute_program_eq_error failed with ⟨same, unprepared⟩ |
    ⟨schema, name, prepared, produced⟩
  · refine ⟨fun _ => same, fun schema starts => ?_⟩
    obtain ⟨⟨name, prepared⟩, -⟩ := starts
    exact absurd prepared (unprepared schema name)
  obtain ⟨table, others, shape⟩ : ∃ table others, schema.tables = table :: others := by
    have hasTables := prepared.tables
    cases tables : schema.tables with
    | nil => simp [Schema.isEmpty, tables] at hasTables
    | cons table others => exact ⟨table, others, rfl⟩
  -- A failed write is excluded by the cause, so the first file is made or cannot be read.
  have first : (after = disk ∧ ∀ text,
        textAt disk (join run.templates controllerTemplate.template) ≠ .ok text) ∨
      ∃ result middle, execute (run.makeFirst table) disk = (.ok result, middle) ∧
        Grows middle after := by
    rcases run.produce_startsWith prepared shape with ⟨other, last, early, whole⟩ |
      ⟨result, middle, made, larger⟩
    · rw [produced] at whole
      obtain ⟨rfl, rfl⟩ : cause = other ∧ after = last := by simpa using whole
      exact (FullRun.makeFirst_eq_error early).imp_right fun write =>
        absurd (faulty.isLate prepared) write.not_isLate
    · rw [produced] at larger
      exact .inr ⟨result, middle, made, larger⟩
  rcases first with ⟨same, unread⟩ | ⟨result, middle, made, larger⟩
  · refine ⟨fun _ => same, fun other starts => ?_⟩
    obtain ⟨-, text, given⟩ := starts
    exact absurd given (unread text)
  · obtain ⟨template, -, text, -, -⟩ := execute_makeFile_eq_ok.1 made
    refine ⟨fun never => absurd ⟨⟨name, prepared⟩, template, text⟩ (never schema), ?_⟩
    rintro other ⟨⟨otherName, otherPrepared⟩, -⟩
    obtain ⟨rfl, -⟩ := prepared.unique otherPrepared
    refine ⟨⟨table, by simp [shape], ?_⟩, ?_⟩
    · exact stands_of_makeFirst (prepared.isNamed table (by simp [shape])) made larger
    · rintro url fault rfl
      exact FullRun.produce_of_invalidBaseUrl produced

/-- The text of a schema with one table. -/
def usersSql : String :=
  "CREATE DATABASE shop; CREATE TABLE users (id INT) ENGINE=InnoDB;"

/-- The schema of the text. -/
def usersSchema : Schema where
  database := some "shop"
  tables := [⟨"users", [.ofDefinition "id" "INT"]⟩]

theorem parse_usersSql : Sql.parse usersSql = usersSchema := by
  rw [Sql.parse_eq, usersSql, String.toList_ofList]
  decide

theorem isAllBlank_usersSql : Text.isAllBlank usersSql.toList = false := by
  rw [usersSql, String.toList_ofList]
  decide

/-- An empty working directory, beside a schema and the templates for tables. -/
def usersDisk : Disk where
  workingDirectory := ["out"]
  nodes := [(["out"], .directory), (["tpl"], .directory),
      (["schema.sql"], .file usersSql.toUTF8)] ++
    (tableTemplates ++ [poolTemplate]).map fun file =>
      (["tpl", file.template], .file "class \x7b\x7bEntity\x7d\x7d".toUTF8)

/-- A run for an address that is none. -/
def unaddressedRun : FullRun where
  config := { projectRoot := ".", templatesDir := "/tpl", api := { baseUrl := "not a url" } }
  sqlPath := some "/schema.sql"
  database := none
  answer := .error .noSuchEntry

/-- The cause with which the run fails, which its configuration shows. -/
def noAddress : Failure :=
  .invalidBaseUrl "not a url" .noScheme

theorem inputFault_unaddressedRun : unaddressedRun.InputFault usersDisk noAddress :=
  .invalidBaseUrl (by decide)

theorem execute_unaddressedRun :
    (execute unaddressedRun.program usersDisk).1 = .error noAddress ∧
      (execute unaddressedRun.program usersDisk).2.file? ["out", "README.md"] ≠ none := by
  decide +kernel

/-- The run fails for a cause that its configuration shows, and leaves a document behind. -/
theorem unaddressedRun_leaves_readme :
    (execute unaddressedRun.program usersDisk).1 = .error noAddress ∧
      unaddressedRun.InputFault usersDisk noAddress ∧
      usersDisk.file? ["out", "README.md"] = none ∧
      (execute unaddressedRun.program usersDisk).2.file? ["out", "README.md"] ≠ none := by
  exact ⟨execute_unaddressedRun.1, inputFault_unaddressedRun, by decide,
    execute_unaddressedRun.2⟩

/-- The same run leaves the controller of its only table behind. -/
theorem unaddressedRun_leaves_controller :
    ∃ after, execute unaddressedRun.program usersDisk = (.error noAddress, after) ∧
      unaddressedRun.InputFault usersDisk noAddress ∧
      unaddressedRun.StartsWriting usersDisk (Sql.parse usersSql) ∧
      ¬ SameFiles usersDisk after := by
  have named : chosenName unaddressedRun.database (Sql.parse usersSql).database
      unaddressedRun.answer = .ok "shop" := by
    rw [parse_usersSql]
    decide
  have starts : unaddressedRun.StartsWriting usersDisk (Sql.parse usersSql) :=
    ⟨⟨"shop", by decide, by decide,
      ⟨usersSql, by decide, isAllBlank_usersSql, rfl⟩, by rw [parse_usersSql]; rfl,
      named, by decide⟩,
      "class \x7b\x7bEntity\x7d\x7d", by decide⟩
  obtain ⟨after, failed⟩ := exists_execute_eq execute_unaddressedRun.1
  refine ⟨after, failed, inputFault_unaddressedRun, starts, ?_⟩
  obtain ⟨⟨table, first, -, changed⟩, -⟩ :=
    (failed_run_leaves failed inputFault_unaddressedRun).2 _ starts
  have fresh : ∀ table ∈ (Sql.parse usersSql).tables.head?,
      usersDisk.node? (usersDisk.destination
        (join unaddressedRun.root (tablePath table controllerTemplate))) = none := by
    rw [parse_usersSql]
    decide
  exact changed (fresh table first)

end Project
end SchemaScaffold
