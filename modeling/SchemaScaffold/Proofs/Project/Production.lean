import SchemaScaffold.Proofs.Project.Preparation
import SchemaScaffold.Proofs.Project.Writing

/-!
# Production of files

What the parts of a run do that write files: what each of them has done when it succeeds, and
which writes a relation between disks has to allow so that a whole run respects it.
-/

namespace SchemaScaffold
namespace Project

open Disk (Grows)
open Disk.Path (IsInside join)

variable {root directory : String}

theorem execute_loadTemplate_eq_ok {name text : String} {disk after : Disk} :
    execute (loadTemplate directory name) disk = (.ok text, after) ↔
      after = disk ∧ textAt disk (join directory name) = .ok text := by
  unfold loadTemplate
  rw [execute_bind, execute_requireTemplate]
  by_cases found : disk.isFile (join directory name) = true
  · simp only [found, if_true, execute_readText, Prod.mk.injEq]
    exact ⟨fun run => ⟨run.2.symm, run.1⟩, fun run => ⟨run.2, run.1.symm⟩⟩
  · have unread : ∀ text, textAt disk (join directory name) ≠ .ok text :=
      fun text given => found (isFile_of_textAt given)
    simp [found, unread]

/-- A file is made from the text of its template by a careful write. -/
theorem execute_makeFile_eq_ok {tokens : List (String × String)} {file : TemplateFile}
    {result : String × WriteResult} {disk after : Disk} :
    execute (makeFile root directory tokens file) disk = (.ok result, after) ↔
      ∃ template outcome, textAt disk (join directory file.template) = .ok template ∧
        execute (writeFile (join root (Template.render file.destination tokens))
          (Template.render template tokens) .skip) disk = (.ok outcome, after) ∧
        result = (join root (Template.render file.destination tokens), outcome) := by
  unfold makeFile
  simp only [execute_bind_eq_ok, execute_loadTemplate_eq_ok, execute_pure, Prod.mk.injEq,
    Except.ok.injEq]
  constructor
  · rintro ⟨template, _, ⟨rfl, text⟩, outcome, _, written, rfl, rfl⟩
    exact ⟨template, outcome, text, written, rfl⟩
  · rintro ⟨template, outcome, text, written, rfl⟩
    exact ⟨template, disk, ⟨rfl, text⟩, outcome, after, written, rfl, rfl⟩

theorem execute_makeFile_table_eq_ok {table : Table} {file : TemplateFile}
    {result : String × WriteResult} {disk after : Disk} :
    execute (makeFile root directory (Template.entityTokens table.entityNames) file) disk =
        (.ok result, after) ↔
      ∃ template outcome, textAt disk (join directory file.template) = .ok template ∧
        execute (writeFile (join root (tablePath table file))
          (Template.render template (Template.entityTokens table.entityNames)) .skip) disk =
            (.ok outcome, after) ∧
        result = (join root (tablePath table file), outcome) :=
  execute_makeFile_eq_ok

/-- The files of a table are made one after another, and the pool at the end. -/
theorem execute_makeTableFiles_eq_ok {table : Table} {files : List (String × WriteResult)}
    {disk after : Disk} :
    execute (makeTableFiles root directory table) disk = (.ok files, after) ↔
      ∃ own pool middle,
        execute (tableTemplates.mapM
          (makeFile root directory (Template.entityTokens table.entityNames))) disk =
            (.ok own, middle) ∧
        execute (makeFile root directory [] poolTemplate) middle = (.ok pool, after) ∧
        files = own ++ [pool] := by
  unfold makeTableFiles
  simp only [execute_bind_eq_ok, execute_pure, Prod.mk.injEq, Except.ok.injEq]
  constructor
  · rintro ⟨own, middle, first, pool, _, second, rfl, rfl⟩
    exact ⟨own, pool, middle, first, second, rfl⟩
  · rintro ⟨own, pool, middle, first, second, rfl⟩
    exact ⟨own, middle, first, pool, after, second, rfl, rfl⟩

/-- A table is registered after its files have been made. -/
theorem execute_generateTable_eq_ok {table : Table} {outcome : TableOutcome}
    {disk after : Disk} :
    execute (generateTable root directory table) disk = (.ok outcome, after) ↔
      disk.isDirectory directory = true ∧ ∃ middle,
        execute (makeTableFiles root directory table) disk = (.ok outcome.files, middle) ∧
        execute (updateRoutes (join root routesIndex) table.name) middle =
          (.ok outcome.registered, after) := by
  unfold generateTable
  rw [execute_bind, execute_requireTemplates]
  by_cases found : disk.isDirectory directory = true
  · simp only [found, if_true, execute_bind_eq_ok, execute_pure, Prod.mk.injEq,
      Except.ok.injEq, true_and]
    constructor
    · rintro ⟨files, middle, made, registered, _, updated, rfl, rfl⟩
      exact ⟨middle, made, updated⟩
    · rintro ⟨middle, made, updated⟩
      exact ⟨outcome.files, middle, made, outcome.registered, after, updated, rfl, rfl⟩
  · simp [found]

/-- An index is changed if it is there and a table is not registered in it. -/
theorem execute_updateRoutes (path table : String) (disk : Disk) :
    execute (updateRoutes path table) disk =
      if disk.isFile path then
        match textAt disk path with
        | .error cause => (.error cause, disk)
        | .ok content =>
          if RoutesIndex.patch content table = content then (.ok false, disk)
          else
            match disk.write path (RoutesIndex.patch content table) with
            | .ok after => (.ok true, after)
            | .error fault => (.error (.disk fault), disk)
      else (.ok false, disk) := by
  unfold updateRoutes
  cases isFile : disk.isFile path with
  | false => simp [execute_bind, isFile]
  | true =>
    cases text : textAt disk path with
    | error cause => simp [execute_bind, isFile, text]
    | ok content =>
      by_cases same : RoutesIndex.patch content table = content
      · simp [execute_bind, isFile, text, same]
      · cases written : disk.write path (RoutesIndex.patch content table) with
        | error fault =>
          simp [-bind_pure_comp, execute_bind, isFile, text, same, execute_overwrite, written]
        | ok after =>
          simp [-bind_pure_comp, execute_bind, isFile, text, same, execute_overwrite, written]

/-- A document that is written is put. -/
theorem execute_writeDocument_eq_ok {root path text : String} {result : String × WriteResult}
    {disk after : Disk} :
    execute (writeDocument root path text) disk = (.ok result, after) ↔
      execute (put (join root path) text) disk = (.ok .written, after) ∧
        result = (join root path, .written) := by
  unfold writeDocument
  rw [execute_bind_eq_ok]
  constructor
  · rintro ⟨outcome, middle, written, done⟩
    rw [execute_writeFile_overwrite] at written
    obtain ⟨rfl, -⟩ := execute_put_eq_ok.1 written
    obtain ⟨rfl, rfl⟩ : (join root path, WriteResult.written) = result ∧ middle = after := by
      simpa using done
    exact ⟨written, rfl⟩
  · rintro ⟨written, rfl⟩
    exact ⟨.written, after, by rwa [execute_writeFile_overwrite], rfl⟩

/-- What is on the disk does not matter to the collection of requests. -/
theorem execute_renderPostman (schema : Schema) (api : ApiSettings) (disk : Disk) :
    execute (renderPostman schema api) disk =
      ((Postman.render schema api).mapError (.invalidBaseUrl api.baseUrl), disk) := by
  unfold renderPostman
  cases Postman.render schema api <;> rfl

theorem execute_renderPostman_eq_ok {schema : Schema} {api : ApiSettings} {collection : String}
    {disk after : Disk} :
    execute (renderPostman schema api) disk = (.ok collection, after) ↔
      Postman.render schema api = .ok collection ∧ disk = after := by
  rw [execute_renderPostman]
  cases Postman.render schema api <;> simp [Except.mapError]

/-- Producing files succeeds if all tables can be generated and then all documents written. -/
theorem FullRun.execute_produce_eq_ok {run : FullRun} {schema : Schema} {name : String}
    {summary : Summary} {disk after : Disk} :
    execute (run.produce schema name) disk = (.ok summary, after) ↔
      ∃ outcomes documents middle,
        execute (schema.tables.mapM (generateTable run.root run.templates)) disk =
          (.ok outcomes, middle) ∧
        execute (writeDocuments run.config schema name) middle = (.ok documents, after) ∧
        summary = summarize schema name outcomes documents := by
  unfold produce
  simp only [execute_bind_eq_ok, execute_pure, Prod.mk.injEq, Except.ok.injEq]
  constructor
  · rintro ⟨outcomes, middle, first, documents, _, second, rfl, rfl⟩
    exact ⟨outcomes, documents, middle, first, second, rfl⟩
  · rintro ⟨outcomes, documents, middle, first, second, rfl⟩
    exact ⟨outcomes, middle, first, documents, after, second, rfl, rfl⟩

/-- No table is reported as registered if none has been registered. -/
theorem FullRun.patched_summarize_eq_nil {schema : Schema} {outcomes : List TableOutcome}
    (length : outcomes.length = schema.tables.length) (name : String)
    (documents : List (String × WriteResult)) :
    (summarize schema name outcomes documents).patched = [] ↔
      ∀ outcome ∈ outcomes, outcome.registered = false := by
  have all : (schema.tableNames.zip outcomes).map (·.2) = outcomes :=
    List.map_snd_zip (by simp [Schema.tableNames, length])
  simp only [summarize, List.map_eq_nil_iff, List.filter_eq_nil_iff, Bool.not_eq_true]
  constructor
  · intro quiet outcome member
    rw [← all] at member
    obtain ⟨pair, inside, rfl⟩ := List.mem_map.1 member
    exact quiet pair inside
  · intro quiet pair inside
    exact quiet _ (all ▸ List.mem_map_of_mem inside)

/-- The checks of a run pass again after changes at places from which its schema is not read. -/
theorem FullRun.Prepared.changes {run : FullRun} {schema : Schema} {name : String}
    {before after : Disk} (prepared : run.Prepared before schema name) {paths : List String}
    (apart : ∀ path ∈ paths, before.destination run.input ≠ before.destination (join run.root path))
    (changes : ChangesOnly run.root paths before after) : run.Prepared after schema name := by
  obtain ⟨sql, text, visible, parsed⟩ := prepared.text
  refine ⟨changes.1.isFile prepared.input, changes.1.isDirectory prepared.directory,
    ⟨sql, ?_, visible, parsed⟩, prepared.tables, prepared.named,
    fun file member => changes.1.isFile (prepared.templates file member)⟩
  rw [changes.textAt_eq prepared.input apart]
  exact text

/-! ## Relations that runs respect -/

/-- The paths of the files that are made with care when a table is generated. -/
def carefulPaths (table : Table) : List String :=
  tableTemplates.map (tablePath table) ++ [poolTemplate.destination]

/-- The paths of the documents. -/
def documentPaths : List String :=
  [readmePath, openApiPath, postmanPath, envPath]

/-- The documents are written if the collection of requests can be made: one is put after another,
and all are reported as written. -/
theorem execute_writeDocuments_eq_ok {config : Config} {schema : Schema} {database : String}
    {documents : List (String × WriteResult)} {disk after : Disk} :
    execute (writeDocuments config schema database) disk = (.ok documents, after) ↔
      ∃ collection first second third, Postman.render schema config.api = .ok collection ∧
        execute (put (join config.projectRoot readmePath) (Readme.render schema)) disk =
          (.ok .written, first) ∧
        execute (put (join config.projectRoot openApiPath) (OpenApi.render schema config.api))
          first = (.ok .written, second) ∧
        execute (put (join config.projectRoot postmanPath) collection) second =
          (.ok .written, third) ∧
        execute (put (join config.projectRoot envPath) (EnvFile.render database config.env)) third =
          (.ok .written, after) ∧
        documents = documentPaths.map fun path => (join config.projectRoot path, .written) := by
  constructor
  · intro run
    obtain ⟨_, first, readmeMade, later⟩ := execute_bind_eq_ok.1 run
    obtain ⟨_, second, openApiMade, later⟩ := execute_bind_eq_ok.1 later
    obtain ⟨collection, _, rendered, later⟩ := execute_bind_eq_ok.1 later
    obtain ⟨made, rfl⟩ := execute_renderPostman_eq_ok.1 rendered
    obtain ⟨_, third, postmanMade, later⟩ := execute_bind_eq_ok.1 later
    obtain ⟨_, fourth, envMade, done⟩ := execute_bind_eq_ok.1 later
    obtain ⟨readme, rfl⟩ := execute_writeDocument_eq_ok.1 readmeMade
    obtain ⟨openApi, rfl⟩ := execute_writeDocument_eq_ok.1 openApiMade
    obtain ⟨postman, rfl⟩ := execute_writeDocument_eq_ok.1 postmanMade
    obtain ⟨env, rfl⟩ := execute_writeDocument_eq_ok.1 envMade
    obtain ⟨reported, rfl⟩ := Prod.mk.inj done
    exact ⟨collection, first, second, third, made, readme, openApi, postman, env,
      (Except.ok.inj reported).symm⟩
  · rintro ⟨collection, first, second, third, made, readme, openApi, postman, env, rfl⟩
    refine execute_bind_eq_ok.2 ⟨_, first, execute_writeDocument_eq_ok.2 ⟨readme, rfl⟩, ?_⟩
    refine execute_bind_eq_ok.2 ⟨_, second, execute_writeDocument_eq_ok.2 ⟨openApi, rfl⟩, ?_⟩
    refine execute_bind_eq_ok.2 ⟨collection, second, execute_renderPostman_eq_ok.2 ⟨made, rfl⟩, ?_⟩
    refine execute_bind_eq_ok.2 ⟨_, third, execute_writeDocument_eq_ok.2 ⟨postman, rfl⟩, ?_⟩
    exact execute_bind_eq_ok.2 ⟨_, after, execute_writeDocument_eq_ok.2 ⟨env, rfl⟩, rfl⟩

theorem mem_sharedPaths_of_document {path : String} (document : path ∈ documentPaths) :
    path ∈ sharedPaths :=
  List.mem_cons_of_mem _ (List.mem_cons_of_mem _ document)

theorem ne_routesIndex_of_document : ∀ {path : String}, path ∈ documentPaths →
    path ≠ routesIndex := by
  decide

theorem isInside_of_mem_carefulPaths {table : Table} (named : IsNamed table) :
    ∀ path ∈ carefulPaths table, IsInside path := by
  intro path member
  rcases List.mem_append.1 member with own | pool
  · obtain ⟨file, isTemplate, rfl⟩ := List.mem_map.1 own
    exact isInside_tablePath named isTemplate
  · obtain rfl := List.mem_singleton.1 pool
    exact isInside_of_mem_sharedPaths _ List.mem_cons_self

theorem mem_outputs_of_careful {schema : Schema} {table : Table} (member : table ∈ schema.tables)
    {path : String} (careful : path ∈ carefulPaths table) : path ∈ outputs schema := by
  rcases List.mem_append.1 careful with own | pool
  · exact List.mem_append_left _ (List.mem_flatMap.2 ⟨table, member, own⟩)
  · obtain rfl := List.mem_singleton.1 pool
    exact List.mem_append_right _ List.mem_cons_self

section Relations

variable {related : Disk → Disk → Prop}

theorem respects_makeFile (chains : Chains related) {tokens : List (String × String)}
    {file : TemplateFile}
    (careful : ∀ text, Respects related
      (writeFile (join root (Template.render file.destination tokens)) text .skip)) :
    Respects related (makeFile root directory tokens file) := by
  refine Respects.bind chains ((readsOnly_loadTemplate _ _).respects chains) fun template => ?_
  exact Respects.bind chains (careful _) fun outcome => Respects.pure chains _

theorem respects_pool (chains : Chains related)
    (careful : ∀ text, Respects related
      (writeFile (join root poolTemplate.destination) text .skip)) :
    Respects related (makeFile root directory [] poolTemplate) :=
  respects_makeFile chains careful

theorem respects_updateRoutes (chains : Chains related) {path : String}
    (replaces : ∀ disk, disk.isFile path = true → ∀ text,
      related disk (execute (overwrite path text) disk).2) (table : String) :
    Respects related (updateRoutes path table) := by
  intro disk
  rw [execute_updateRoutes]
  split
  · next isFile =>
    split
    · exact chains.refl disk
    · next content text =>
      split
      · exact chains.refl disk
      · have step := replaces disk isFile (RoutesIndex.patch content table)
        rw [execute_overwrite] at step
        split <;> simp_all
  · exact chains.refl disk

theorem respects_makeTableFiles (chains : Chains related) {table : Table}
    (careful : ∀ path ∈ carefulPaths table, ∀ text,
      Respects related (writeFile (join root path) text .skip)) :
    Respects related (makeTableFiles root directory table) := by
  refine Respects.bind chains ?_ fun own => Respects.bind chains ?_ fun pool =>
    Respects.pure chains _
  · refine Respects.mapM chains fun file member => ?_
    exact respects_makeFile chains
      (careful _ (List.mem_append_left _ (List.mem_map_of_mem member)))
  · exact respects_pool chains (careful _ (List.mem_append_right _ (List.mem_singleton.2 rfl)))

/-- Generating a table makes files with care and changes the index if it is there. -/
theorem respects_generateTable (chains : Chains related) {table : Table}
    (careful : ∀ path ∈ carefulPaths table, ∀ text,
      Respects related (writeFile (join root path) text .skip))
    (index : ∀ disk, disk.isFile (join root routesIndex) = true → ∀ text,
      related disk (execute (overwrite (join root routesIndex) text) disk).2) :
    Respects related (generateTable root directory table) := by
  refine Respects.bind chains ((readsOnly_requireTemplates _).respects chains) fun _ => ?_
  refine Respects.bind chains (respects_makeTableFiles chains careful) fun files => ?_
  exact Respects.bind chains (respects_updateRoutes chains index _) fun registered =>
    Respects.pure chains _

theorem respects_writeDocument (chains : Chains related) {path : String}
    (replaces : ∀ text, Respects related (writeFile (join root path) text .overwrite))
    (text : String) : Respects related (writeDocument root path text) :=
  Respects.bind chains (replaces text) fun _ => Respects.pure chains _

theorem readsOnly_renderPostman (schema : Schema) (api : ApiSettings) :
    ReadsOnly (renderPostman schema api) := by
  intro disk
  rw [execute_renderPostman]

theorem respects_writeDocuments (chains : Chains related) {config : Config}
    (replaces : ∀ path ∈ documentPaths, ∀ text,
      Respects related (writeFile (join config.projectRoot path) text .overwrite))
    (schema : Schema) (database : String) :
    Respects related (writeDocuments config schema database) := by
  have document {path : String} (member : path ∈ documentPaths) (text : String) :=
    respects_writeDocument chains (replaces path member) text
  refine Respects.bind chains (document (by simp [documentPaths]) _) fun readme => ?_
  refine Respects.bind chains (document (by simp [documentPaths]) _) fun openApi => ?_
  refine Respects.bind chains ((readsOnly_renderPostman _ _).respects chains) fun text => ?_
  refine Respects.bind chains (document (by simp [documentPaths]) _) fun postman => ?_
  refine Respects.bind chains (document (by simp [documentPaths]) _) fun env => ?_
  exact Respects.pure chains _

/-- Producing files makes those of every table and replaces the documents. -/
theorem FullRun.respects_produce (chains : Chains related) {run : FullRun} {schema : Schema}
    (careful : ∀ table ∈ schema.tables, ∀ path ∈ carefulPaths table, ∀ text,
      Respects related (writeFile (join run.root path) text .skip))
    (index : ∀ disk, disk.isFile (join run.root routesIndex) = true → ∀ text,
      related disk (execute (overwrite (join run.root routesIndex) text) disk).2)
    (replaces : ∀ path ∈ documentPaths, ∀ text,
      Respects related (writeFile (join run.root path) text .overwrite))
    (name : String) : Respects related (run.produce schema name) := by
  refine Respects.bind chains ?_ fun outcomes => ?_
  · exact Respects.mapM chains fun table member =>
      respects_generateTable chains (careful table member) index
  · exact Respects.bind chains (respects_writeDocuments chains replaces schema name)
      fun documents => Respects.pure chains _

/-- The turn of one file of one table in a run that succeeds: what comes before the file respects
one relation, and what comes behind it another one. -/
theorem FullRun.exists_execute_makeFile {early late : Disk → Disk → Prop}
    (chainsEarly : Chains early) (chainsLate : Chains late) {run : FullRun} {schema : Schema}
    {front back : List Table} {table : Table} (tables : schema.tables = front ++ table :: back)
    {before behind : List TemplateFile} {file : TemplateFile}
    (files : tableTemplates = before ++ file :: behind)
    (frontEarly : ∀ other ∈ front, Respects early (generateTable run.root run.templates other))
    (beforeEarly : ∀ other ∈ before, Respects early
      (makeFile run.root run.templates (Template.entityTokens table.entityNames) other))
    (behindLate : ∀ other ∈ behind, Respects late
      (makeFile run.root run.templates (Template.entityTokens table.entityNames) other))
    (poolLate : Respects late (makeFile run.root run.templates [] poolTemplate))
    (indexLate : Respects late (updateRoutes (join run.root routesIndex) table.name))
    (backLate : ∀ other ∈ back, Respects late (generateTable run.root run.templates other))
    {name : String} (documentsLate : Respects late (writeDocuments run.config schema name))
    {summary : Summary} {disk after : Disk}
    (produced : execute (run.produce schema name) disk = (.ok summary, after)) :
    ∃ middle result last, early disk middle ∧
      execute (makeFile run.root run.templates (Template.entityTokens table.entityNames) file)
        middle = (.ok result, last) ∧ late last after := by
  obtain ⟨_, _, tablesDone, tablesMade, documentsMade, -⟩ := execute_produce_eq_ok.1 produced
  rw [tables] at tablesMade
  obtain ⟨_, _, start, frontMade, restMade, -⟩ := execute_mapM_append_eq_ok.1 tablesMade
  obtain ⟨_, _, next, tableMade, backMade, -⟩ := execute_mapM_cons_eq_ok.1 restMade
  obtain ⟨-, settled, filesMade, updated⟩ := execute_generateTable_eq_ok.1 tableMade
  obtain ⟨_, _, ownDone, ownMade, poolMade, -⟩ := execute_makeTableFiles_eq_ok.1 filesMade
  rw [files] at ownMade
  obtain ⟨_, _, middle, beforeMade, laterMade, -⟩ := execute_mapM_append_eq_ok.1 ownMade
  obtain ⟨result, _, last, fileMade, behindMade, -⟩ := execute_mapM_cons_eq_ok.1 laterMade
  refine ⟨middle, result, last, ?_, fileMade, ?_⟩
  · exact chainsEarly.trans ((Respects.mapM chainsEarly frontEarly).of_execute frontMade)
      ((Respects.mapM chainsEarly beforeEarly).of_execute beforeMade)
  · have filesLate := chainsLate.trans
      ((Respects.mapM chainsLate behindLate).of_execute behindMade) (poolLate.of_execute poolMade)
    have tableLate := chainsLate.trans filesLate (indexLate.of_execute updated)
    have tablesLate := chainsLate.trans tableLate
      ((Respects.mapM chainsLate backLate).of_execute backMade)
    exact chainsLate.trans tablesLate (documentsLate.of_execute documentsMade)

/-- A full run respects what its productions for named tables respect. -/
theorem FullRun.respects_program (chains : Chains related) {run : FullRun}
    (each : ∀ schema, (∀ table ∈ schema.tables, IsNamed table) → ∀ name,
      Respects related (run.produce schema name)) : Respects related run.program := by
  intro disk
  have reads := run.readsOnly_prepare disk
  rw [program_eq, execute_bind]
  cases prepared : execute run.prepare disk with
  | mk answer middle =>
    rw [prepared] at reads
    obtain rfl : disk = middle := reads
    cases answer with
    | error cause => exact chains.refl disk
    | ok inputs =>
      obtain ⟨schema, name⟩ := inputs
      exact each schema (execute_prepare_eq_ok.1 prepared).2.isNamed name disk

/-- A run for the collection of requests replaces it. -/
theorem respects_generatePostman (chains : Chains related) {config : Config}
    (replaces : ∀ text, Respects related
      (writeFile (join config.projectRoot postmanPath) text .overwrite))
    (sqlPath : Option String) : Respects related (generatePostman config sqlPath) := by
  refine Respects.bind chains ((readsOnly_loadSchema _ _).respects chains) fun schema => ?_
  refine Respects.bind chains ((readsOnly_renderPostman _ _).respects chains) fun text => ?_
  exact Respects.bind chains (respects_writeDocument chains replaces text) fun outcome =>
    Respects.pure chains _

/-- A run for the frame of a project makes its files with care. -/
theorem respects_generateBase (chains : Chains related) {config : Config}
    (careful : ∀ file ∈ baseTemplates, ∀ text,
      Respects related (writeFile (join config.projectRoot file.destination) text .skip)) :
    Respects related (generateBase config) := by
  refine Respects.bind chains ?_ fun results => Respects.pure chains _
  refine Respects.bind chains ((readsOnly_requireTemplates _).respects chains) fun _ => ?_
  refine Respects.bind chains ?_ fun texts => ?_
  · exact Respects.mapM chains fun file _ => (readsOnly_loadTemplate _ _).respects chains
  · refine Respects.mapM chains fun pair member => ?_
    exact Respects.bind chains (careful _ (List.of_mem_zip (a := pair.1) (b := pair.2) member).1 _)
      fun outcome => Respects.pure chains _

end Relations

section Growth

variable (root directory : String)

theorem grows_makeFile (tokens : List (String × String)) (file : TemplateFile) :
    Respects Grows (makeFile root directory tokens file) :=
  respects_makeFile chains_grows fun text disk => (respects_writeFile_skip _ text disk).grows

theorem grows_makeTableFiles (table : Table) :
    Respects Grows (makeTableFiles root directory table) :=
  respects_makeTableFiles chains_grows fun _ _ text disk =>
    (respects_writeFile_skip _ text disk).grows

theorem grows_updateRoutes (path table : String) : Respects Grows (updateRoutes path table) :=
  respects_updateRoutes chains_grows (fun disk _ text => (respects_overwrite _ text disk).grows) _

theorem grows_generateTable (table : Table) :
    Respects Grows (generateTable root directory table) :=
  respects_generateTable chains_grows
    (fun _ _ text disk => (respects_writeFile_skip _ text disk).grows)
    fun disk _ text => (respects_overwrite _ text disk).grows

theorem grows_generateTables (tables : List Table) :
    Respects Grows (tables.mapM (generateTable root directory)) :=
  Respects.mapM chains_grows fun table _ => grows_generateTable root directory table

theorem grows_writeDocuments (config : Config) (schema : Schema) (name : String) :
    Respects Grows (writeDocuments config schema name) :=
  respects_writeDocuments chains_grows
    (fun _ _ text disk => (respects_writeFile_overwrite _ text disk).grows) schema name

theorem FullRun.grows_produce (run : FullRun) (schema : Schema) (name : String) :
    Respects Grows (run.produce schema name) :=
  Respects.bind chains_grows (grows_generateTables _ _ _) fun _ =>
    Respects.bind chains_grows (grows_writeDocuments _ _ _) fun _ => Respects.pure chains_grows _

theorem FullRun.grows_program (run : FullRun) : Respects Grows run.program :=
  FullRun.respects_program chains_grows fun schema _ name => run.grows_produce schema name

theorem keepsTree_generateTable (table : Table) :
    Respects KeepsTree (generateTable root directory table) :=
  respects_generateTable chains_keepsTree (fun _ _ text => keepsTree_writeFile_skip _ text)
    fun disk _ text => keepsTree_overwrite _ text disk

theorem FullRun.keepsTree_program (run : FullRun) : Respects KeepsTree run.program :=
  FullRun.respects_program chains_keepsTree fun _ _ name =>
    FullRun.respects_produce chains_keepsTree
      (fun _ _ _ _ text => keepsTree_writeFile_skip _ text)
      (fun disk _ text => keepsTree_overwrite _ text disk)
      (fun _ _ text => keepsTree_writeFile_overwrite _ text) name

end Growth

section Outputs

variable {schema : Schema}

theorem changesOnly_careful {table : Table} (member : table ∈ schema.tables) {path : String}
    (careful : path ∈ carefulPaths table) (text : String) :
    Respects (ChangesOnly root (outputs schema)) (writeFile (join root path) text .skip) :=
  fun disk => (respects_writeFile_skip _ text disk).changesOnly
    (mem_outputs_of_careful member careful)

theorem changesOnly_index (text : String) :
    Respects (ChangesOnly root (outputs schema)) (overwrite (join root routesIndex) text) :=
  fun disk => (respects_overwrite _ text disk).changesOnly
    (List.mem_append_right _ (by simp [sharedPaths]))

theorem changesOnly_generateTable {table : Table} (member : table ∈ schema.tables) :
    Respects (ChangesOnly root (outputs schema)) (generateTable root directory table) :=
  respects_generateTable (chains_changesOnly _ _)
    (fun _ careful => changesOnly_careful member careful) fun disk _ text =>
      changesOnly_index text disk

theorem changesOnly_writeDocuments {config : Config} (name : String) :
    Respects (ChangesOnly config.projectRoot documentPaths)
      (writeDocuments config schema name) :=
  respects_writeDocuments (chains_changesOnly _ _)
    (fun _ member text disk => (respects_writeFile_overwrite _ text disk).changesOnly member) _ _

end Outputs

end Project
end SchemaScaffold
