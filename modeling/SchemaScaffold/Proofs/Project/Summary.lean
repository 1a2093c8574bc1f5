import SchemaScaffold.Proofs.Project.Atomicity
import SchemaScaffold.Proofs.Project.IndexMaking
import SchemaScaffold.Proofs.Project.Reporting

/-!
# Summaries of full runs

A full run reports the files of its tables one after another, and then its documents. The report
tells which files have changed but for the routes index, whose changes show in the tables that are
reported as registered.
-/

namespace SchemaScaffold
namespace Project

open Disk (Grows)
open Disk.Path (IsInside join names)
open RoutesIndex (Registered)

section Tables

variable {root directory : String} {schema : Schema} {changing : List String}
  {before after : Disk}

theorem mem_allPaths_of_careful {table : Table} (member : table ∈ schema.tables) {path : String}
    (careful : path ∈ carefulPaths table) : path ∈ allPaths schema :=
  List.mem_append_left _ (mem_outputs_of_careful member careful)

theorem controller_mem_carefulPaths (table : Table) :
    tablePath table controllerTemplate ∈ carefulPaths table :=
  List.mem_append_left _ List.mem_cons_self

/-- The update of an index is not reported. -/
theorem reports_updateRoutes {table : String} {registered : Bool}
    (run : execute (updateRoutes (join root routesIndex) table) before = (.ok registered, after)) :
    Reports root schema [routesIndex] [] before after := by
  rw [execute_updateRoutes] at run
  split at run
  · next isFile =>
    split at run
    · simp at run
    · next content text =>
      split at run
      · obtain rfl : before = after := (Prod.mk.inj run).2
        exact .nil before
      · cases written : before.write (join root routesIndex)
            (RoutesIndex.patch content table) with
        | error fault => simp [written] at run
        | ok last =>
          obtain ⟨-, rfl⟩ : true = registered ∧ last = after := by simpa [written] using run
          have overwritten : execute (overwrite (join root routesIndex)
              (RoutesIndex.patch content table)) before = (.ok (), last) := by
            rw [execute_overwrite, written]
          have touched := (respects_overwrite _ _).of_execute overwritten
          obtain ⟨-, rfl⟩ := Disk.write_eq_ok.1 written
          refine ⟨touched.grows, (keepsTree_overwrite _ _).of_execute overwritten,
            fun place differs => .inr ⟨routesIndex, by simp, ?_⟩, by simp, by simp,
            List.nodup_nil, by simp, fun _ _ => ⟨by simp, by simp, fun path _ standing => .inl ?_⟩⟩
          · by_contra apart
            exact differs (touched.file?_of_ne apart)
          · by_cases here : before.destination (join root path) =
                before.destination (join root routesIndex)
            · rw [here]
              exact isInside_routesIndex.node?_of_hasEntry (by decide)
                (by simp [Disk.hasEntry, isFile])
            · exact fun empty => standing ((Disk.node?_set_of_ne here _).trans empty)
  · obtain rfl : before = after := (Prod.mk.inj run).2
    exact .nil before

section Named

variable (named : ∀ table ∈ schema.tables, IsNamed table)

include named

theorem reports_makeFile {tokens : List (String × String)} {file : TemplateFile}
    (output : Template.render file.destination tokens ∈ allPaths schema)
    {result : String × WriteResult}
    (run : execute (makeFile root directory tokens file) before = (.ok result, after)) :
    Reports root schema changing [result] before after := by
  obtain ⟨template, outcome, -, written, rfl⟩ := execute_makeFile_eq_ok.1 run
  exact reports_writeFile_skip named output written

/-- The files of a table are reported, of which the controller is the first one. -/
theorem exists_reports_makeTableFiles (changing : List String) {table : Table}
    (member : table ∈ schema.tables) {files : List (String × WriteResult)}
    (run : execute (makeTableFiles root directory table) before = (.ok files, after)) :
    ∃ text result later middle,
      execute (writeFile (join root (tablePath table controllerTemplate)) text .skip) before =
        (.ok result, middle) ∧
      Reports root schema changing later middle after ∧
      files = (join root (tablePath table controllerTemplate), result) :: later := by
  obtain ⟨own, pool, last, ownMade, poolMade, rfl⟩ := execute_makeTableFiles_eq_ok.1 run
  have shape : tableTemplates = controllerTemplate :: tableTemplates.tail := rfl
  rw [shape] at ownMade
  obtain ⟨first, others, middle, firstMade, othersMade, rfl⟩ := execute_mapM_cons_eq_ok.1 ownMade
  obtain ⟨template, result, -, written, rfl⟩ := execute_makeFile_table_eq_ok.1 firstMade
  have othersReport : Reports root schema changing (others.flatMap ([·])) middle last :=
    reports_mapM (fun file isTemplate _ _ _ made => reports_makeFile named
      (mem_allPaths_of_careful member (List.mem_append_left _
        (List.mem_map_of_mem (List.mem_of_mem_tail isTemplate)))) made) othersMade
  have poolReport : Reports root schema changing [pool] last after :=
    reports_makeFile named (mem_allPaths_of_careful member
      (List.mem_append_right _ (List.mem_singleton.2 rfl))) poolMade
  rw [List.flatMap_singleton'] at othersReport
  exact ⟨_, result, others ++ [pool], middle, written, othersReport.trans poolReport, rfl⟩

/-- A table is reported with its files. -/
theorem reports_generateTable {table : Table} (member : table ∈ schema.tables)
    {outcome : TableOutcome}
    (run : execute (generateTable root directory table) before = (.ok outcome, after)) :
    Reports root schema [routesIndex] outcome.files before after := by
  obtain ⟨-, middle, made, updated⟩ := execute_generateTable_eq_ok.1 run
  obtain ⟨text, result, later, last, written, report, files⟩ :=
    exists_reports_makeTableFiles named [routesIndex] member made
  have output := mem_allPaths_of_careful member (controller_mem_carefulPaths table)
  have whole := ((reports_writeFile_skip named output written).trans report).trans
    (reports_updateRoutes updated)
  rwa [List.append_nil, List.singleton_append, ← files] at whole

end Named

/-- The files of a table are reported in order. -/
theorem map_fst_of_makeTableFiles {table : Table} {files : List (String × WriteResult)}
    (run : execute (makeTableFiles root directory table) before = (.ok files, after)) :
    files.map (·.1) = (carefulPaths table).map (join root) := by
  obtain ⟨own, pool, last, ownMade, poolMade, rfl⟩ := execute_makeTableFiles_eq_ok.1 run
  obtain ⟨_, _, -, -, rfl⟩ := execute_makeFile_eq_ok.1 poolMade
  have poolPath : Template.render poolTemplate.destination [] = poolTemplate.destination := rfl
  have paths : own.flatMap (fun result => [result.1]) =
      tableTemplates.flatMap fun file => [join root (tablePath table file)] := by
    refine flatMap_of_execute_mapM (fun file _ _ _ _ fileMade => ?_) ownMade
    obtain ⟨_, _, -, -, rfl⟩ := execute_makeFile_table_eq_ok.1 fileMade
    simp only
  rw [← List.map_eq_flatMap, ← List.map_eq_flatMap] at paths
  simp only [List.map_append, paths, carefulPaths, List.map_map, Function.comp_def, List.map_cons,
    List.map_nil, poolPath]

theorem map_fst_of_generateTables {tables : List Table} {outcomes : List TableOutcome}
    (run : execute (tables.mapM (generateTable root directory)) before = (.ok outcomes, after)) :
    (outcomes.flatMap (·.files)).map (·.1) = (tables.flatMap carefulPaths).map (join root) := by
  rw [List.map_flatMap, List.map_flatMap]
  refine flatMap_of_execute_mapM (fun table _ _ _ _ generated => ?_) run
  obtain ⟨-, middle, made, -⟩ := execute_generateTable_eq_ok.1 generated
  exact map_fst_of_makeTableFiles made

end Tables

/-- All documents are reported as written. -/
theorem eq_of_writeDocuments {config : Config} {schema : Schema} {name : String}
    {documents : List (String × WriteResult)} {before after : Disk}
    (run : execute (writeDocuments config schema name) before = (.ok documents, after)) :
    documents = documentPaths.map fun path => (join config.projectRoot path, .written) := by
  obtain ⟨_, _, _, _, -, -, -, -, -, reported⟩ := execute_writeDocuments_eq_ok.1 run
  exact reported

/-- Documents are reported behind the files of tables, and never as skipped. -/
theorem ofResults_append_documents (results : List (String × WriteResult)) (root : String) :
    Outcome.ofResults (results ++ documentPaths.map fun path => (join root path, .written)) =
      ⟨(Outcome.ofResults results).written ++ documentPaths.map (join root),
        (Outcome.ofResults results).skipped⟩ := by
  simp [Outcome.ofResults, List.filter_map, Function.comp_def]

/-- A document is not a file of a table. -/
theorem ne_document_of_careful {table : Table} (named : IsNamed table) {path document : String}
    (careful : path ∈ carefulPaths table) (isDocument : document ∈ documentPaths)
    (root : String) : join root path ≠ join root document := by
  intro same
  have shared := mem_sharedPaths_of_document isDocument
  have destinations := congrArg (Disk.destination ⟨[], []⟩) same
  rw [(isInside_of_mem_carefulPaths named path careful).destination_join,
    (isInside_of_mem_sharedPaths document shared).destination_join] at destinations
  have equal := List.append_cancel_left destinations
  rcases List.mem_append.1 careful with own | pool
  · obtain ⟨file, member, rfl⟩ := List.mem_map.1 own
    exact ne_routesIndex_of_document isDocument
      (names_tablePath_shared named member shared equal).1
  · obtain rfl := List.mem_singleton.1 pool
    have known : ∀ path ∈ documentPaths, names poolTemplate.destination ≠ names path := by decide
    exact known document isDocument equal

/-! ## Reports of full runs -/

/-- How a full run comes to its report. The controller of the first table is written, perhaps behind
a detour, then the other files of tables, and at the end the documents. -/
structure IsReported (root : String) (schema : Schema) (table : Table) (text : String)
    (result : WriteResult) (later results : List (String × WriteResult))
    (before middle last after : Disk) (summary : Summary) : Prop where
  first : execute (writeFile (join root (tablePath table controllerTemplate)) text .skip) before =
    (.ok result, middle)
  others : Reports root schema [routesIndex] later middle last
  documents : ChangesOnly root documentPaths last after
  shape : results = (join root (tablePath table controllerTemplate), result) :: later
  paths : results.map (·.1) = (schema.tables.flatMap carefulPaths).map (join root)
  written : summary.written =
    (Outcome.ofResults results).written ++ documentPaths.map (join root)
  skipped : summary.skipped = (Outcome.ofResults results).skipped

theorem FullRun.exists_isReported {run : FullRun} {schema : Schema} {name : String}
    {summary : Summary} {before after : Disk} {table : Table} {rest : List Table}
    (named : ∀ table ∈ schema.tables, IsNamed table) (tables : schema.tables = table :: rest)
    (produced : execute (run.produce schema name) before = (.ok summary, after)) :
    ∃ text result later results middle last,
      IsReported run.root schema table text result later results before middle last after
        summary := by
  obtain ⟨outcomes, documents, last, generated, documented, rfl⟩ :=
    execute_produce_eq_ok.1 produced
  have paths := map_fst_of_generateTables generated
  rw [tables] at generated
  obtain ⟨own, others, next, ownMade, othersMade, rfl⟩ := execute_mapM_cons_eq_ok.1 generated
  obtain ⟨-, filesDone, made, updated⟩ := execute_generateTable_eq_ok.1 ownMade
  obtain ⟨text, result, later, middle, first, report, files⟩ :=
    exists_reports_makeTableFiles named [routesIndex] (tables ▸ List.mem_cons_self) made
  have othersReport : Reports run.root schema [routesIndex] (others.flatMap (·.files)) next last :=
    reports_mapM (fun other member _ _ _ => reports_generateTable named
      (tables ▸ List.mem_cons_of_mem _ member)) othersMade
  have whole := (report.trans (reports_updateRoutes updated)).trans othersReport
  rw [List.append_nil] at whole
  have root : run.config.projectRoot = run.root := rfl
  have sorted : Outcome.ofResults ((own :: others).flatMap (·.files) ++ documents) =
      ⟨(Outcome.ofResults ((own :: others).flatMap (·.files))).written ++
          documentPaths.map (join run.root),
        (Outcome.ofResults ((own :: others).flatMap (·.files))).skipped⟩ := by
    rw [eq_of_writeDocuments documented, root, ofResults_append_documents]
  have written := congrArg Outcome.written sorted
  have skipped := congrArg Outcome.skipped sorted
  refine ⟨text, result, later ++ others.flatMap (·.files), _, middle, last, first, whole,
    (changesOnly_writeDocuments name).of_execute documented, ?_, paths, written, skipped⟩
  rw [List.flatMap_cons, files, List.cons_append]

theorem length_flatMap_carefulPaths (tables : List Table) :
    (tables.flatMap carefulPaths).length = 5 * tables.length := by
  induction tables with
  | nil => rfl
  | cons table rest ih =>
    have own : (carefulPaths table).length = 5 := rfl
    rw [List.flatMap_cons, List.length_append, own, ih, List.length_cons]
    omega

theorem nodup_documents (root : String) : (documentPaths.map (join root)).Nodup := by
  have distinct : documentPaths.Nodup := by decide
  refine List.pairwise_map.2 (distinct.imp_of_mem fun member otherMember apart same => ?_)
  exact destination_shared_ne (mem_sharedPaths_of_document member)
    (mem_sharedPaths_of_document otherMember) apart ⟨[], []⟩ root (by rw [same])

namespace IsReported

variable {root text path : String} {schema : Schema} {table : Table} {result : WriteResult}
  {later results : List (String × WriteResult)} {before middle last after : Disk}
  {summary : Summary} (reported : IsReported root schema table text result later results before
    middle last after summary)

include reported

theorem count :
    summary.written.length + summary.skipped.length = 5 * schema.tables.length + 4 := by
  have sorted := length_ofResults results
  have lengths := congrArg List.length reported.paths
  rw [List.length_map, List.length_map, length_flatMap_carefulPaths] at lengths
  have four : (documentPaths.map (join root)).length = 4 := rfl
  rw [reported.written, reported.skipped, List.length_append, four]
  omega

variable (named : ∀ table ∈ schema.tables, IsNamed table) (member : table ∈ schema.tables)

include named member

/-- The files of all tables are reported together. -/
theorem whole : Reports root schema [routesIndex] results before last := by
  have output := mem_allPaths_of_careful member (controller_mem_carefulPaths table)
  rw [reported.shape]
  exact (reports_writeFile_skip named output reported.first).trans reported.others

theorem nodup : summary.written.Nodup := by
  rw [reported.written, List.nodup_append]
  refine ⟨(reported.whole named member).nodup, nodup_documents root, ?_⟩
  rintro path inside _ document rfl
  have listed := List.mem_map_of_mem (f := (·.1)) (mem_written_ofResults.1 inside)
  rw [reported.paths] at listed
  obtain ⟨inner, careful, rfl⟩ := List.mem_map.1 listed
  obtain ⟨other, isTable, own⟩ := List.mem_flatMap.1 careful
  obtain ⟨document, isDocument, same⟩ := List.mem_map.1 document
  exact ne_document_of_careful (named other isTable) own isDocument root same.symm

/-- What has changed is a document, or was changed when the files of tables were made. -/
theorem changed {place : Location} (differs : after.file? place ≠ before.file? place) :
    (∃ path ∈ summary.written, place = before.destination path) ∨
      place = before.destination (join root routesIndex) := by
  have whole := reported.whole named member
  rw [reported.written]
  by_cases early : last.file? place = before.file? place
  · obtain ⟨path, isDocument, rfl⟩ : ∃ path ∈ documentPaths,
        place = last.destination (join root path) := by
      by_contra apart
      refine differs ((reported.documents.2 place fun path isDocument here => ?_).trans early)
      exact apart ⟨path, isDocument, here⟩
    rw [whole.grows.destination]
    exact .inl ⟨_, List.mem_append_right _ (List.mem_map_of_mem isDocument), rfl⟩
  · refine (whole.changed place early).imp ?_ ?_
    · rintro ⟨path, inside, here⟩
      exact ⟨path, List.mem_append_left _ (mem_written_ofResults.2 inside), here⟩
    · simp

variable (tree : before.IsTree)

include tree

theorem fresh (inside : path ∈ summary.written)
    (own : path ∉ documentPaths.map (join root)) :
    before.node? (before.destination path) = none ∨
      ¬ before.Direct root ∧ path = join root (tablePath table controllerTemplate) := by
  rw [reported.written] at inside
  have inTables := mem_written_ofResults.1 ((List.mem_append.1 inside).resolve_right own)
  rw [reported.shape] at inTables
  exact node?_of_written named tree (mem_allPaths_of_careful member
    (controller_mem_carefulPaths table)) reported.first reported.others inTables

/-- Only files of tables are skipped. -/
theorem skipped_there {front back : List (String × WriteResult)}
    (shape : (results ++ documentPaths.map fun path => (join root path, .written)) =
      front ++ (path, .skipped) :: back) :
    before.node? (before.destination path) ≠ none ∨ (path, .written) ∈ front ∨
      ¬ before.Direct root ∧ before.destination path ∈ before.wayOf root := by
  have noDocument : (path, WriteResult.skipped) ∉
      documentPaths.map fun path => (join root path, .written) := by simp
  rcases List.append_eq_append_iff.1 shape with ⟨inner, -, behind⟩ | ⟨inner, files, behind⟩
  · exact absurd (by simp [behind]) noDocument
  · cases inner with
    | nil =>
      rw [List.nil_append] at behind
      exact absurd (by simp [← behind]) noDocument
    | cons head tail =>
      obtain ⟨rfl, -⟩ := List.cons_eq_cons.1 behind
      rw [reported.shape] at files
      exact node?_of_skipped named tree (mem_allPaths_of_careful member
        (controller_mem_carefulPaths table)) reported.first reported.others files

theorem detour (behind : ¬ before.Direct root) :
    join root (tablePath table controllerTemplate) ∈ summary.written := by
  have isTemplate : controllerTemplate ∈ tableTemplates := List.mem_cons_self
  have made := (written_iff (isInside_of_mem_carefulPaths (named table member) _
    (controller_mem_carefulPaths table)) (names_tablePath_ne_nil (named table member) isTemplate)
    tree reported.first).2 (.inl behind)
  rw [reported.written, reported.shape]
  exact List.mem_append_left _ (mem_written_ofResults.2 (by simp [made]))

end IsReported

section Registering

variable {root directory : String} {tables : List Table} {disk after : Disk}
  {outcomes : List TableOutcome}

/-- A table that is registered is not reported. -/
theorem registered_eq_false_of_updateRoutes {table : Table} (named : IsNamed table)
    (known : IsRegistered root disk table) {registered : Bool}
    (run : execute (updateRoutes (join root routesIndex) table.name) disk =
      (.ok registered, after)) : registered = false := by
  cases isFile : disk.isFile (join root routesIndex) with
  | false =>
    rw [execute_updateRoutes_of_missing isFile] at run
    exact (Except.ok.inj (Prod.mk.inj run).1).symm
  | true =>
    obtain ⟨content, text, present⟩ := known isFile
    rw [execute_updateRoutes_of_registered named.2 isFile text present] at run
    exact (Except.ok.inj (Prod.mk.inj run).1).symm

/-- An index in which a table has been registered is a text. -/
theorem exists_textAt_of_updateRoutes {path table : String} {registered : Bool}
    (isFile : disk.isFile path = true)
    (run : execute (updateRoutes path table) disk = (.ok registered, after)) :
    ∃ content, textAt disk path = .ok content := by
  cases text : textAt disk path with
  | ok content => exact ⟨content, rfl⟩
  | error cause => simp [execute_updateRoutes, isFile, text] at run

/-- No table is reported if the index is not there in the end. -/
theorem registered_eq_false_of_missing (missing : after.isFile (join root routesIndex) = false)
    (generated : execute (tables.mapM (generateTable root directory)) disk =
      (.ok outcomes, after)) : ∀ outcome ∈ outcomes, outcome.registered = false := by
  refine forall_of_execute_mapM chains_grows (fun table _ => grows_generateTable _ _ table)
    (fun table _ before last outcome _ own late => ?_) generated
  obtain ⟨-, middle, -, updated⟩ := execute_generateTable_eq_ok.1 own
  have grows := ((grows_updateRoutes _ _).of_execute updated).trans late
  have unseen : middle.isFile (join root routesIndex) = false := by
    rw [← Bool.not_eq_true] at missing ⊢
    exact fun found => missing (grows.isFile found)
  rw [execute_updateRoutes_of_missing unseen] at updated
  exact (Except.ok.inj (Prod.mk.inj updated).1).symm

/-- No table is reported if all are registered at the beginning. -/
theorem registered_eq_false_of_known (named : ∀ table ∈ tables, IsNamed table)
    (isFile : disk.isFile (join root routesIndex) = true)
    (known : ∀ table ∈ tables, IsRegistered root disk table)
    (generated : execute (tables.mapM (generateTable root directory)) disk =
      (.ok outcomes, after)) : ∀ outcome ∈ outcomes, outcome.registered = false := by
  refine forall_of_execute_mapM (chains_patchesIndex root tables)
    (fun table member => patchesIndex_generateTable (named table member) member)
    (fun table member before last outcome early own _ => ?_) generated
  obtain ⟨-, middle, made, updated⟩ := execute_generateTable_eq_ok.1 own
  have files : PatchesIndex root tables before middle :=
    (patchesIndex_makeTableFiles (named table member)).of_execute made
  have patches := (chains_patchesIndex root tables).trans early files
  exact registered_eq_false_of_updateRoutes (named table member)
    (patches.isRegistered (named table member) isFile (known table member)) updated

/-- Careful writes without detours change no file. -/
theorem Reports.file?_eq_some {schema : Schema} {results : List (String × WriteResult)}
    (report : Reports root schema [] results disk after) (tree : disk.IsTree)
    (direct : disk.Direct root) {place : Location} {content : ByteArray}
    (standing : disk.file? place = some content) : after.file? place = some content := by
  by_contra differs
  rw [← standing] at differs
  rcases report.changed place differs with ⟨path, written, rfl⟩ | ⟨path, member, -⟩
  · have empty := (report.exact tree direct).empty path written
    rw [Disk.file?_eq_some.1 standing] at empty
    simp at empty
  · simp at member

/-- When a table gets its files, an index that is there is not changed. -/
theorem file?_routesIndex_of_makeTableFiles {schema : Schema}
    (named : ∀ table ∈ schema.tables, IsNamed table) (tree : disk.IsTree) {table : Table}
    (member : table ∈ schema.tables) {files : List (String × WriteResult)}
    (made : execute (makeTableFiles root directory table) disk = (.ok files, after))
    {content : ByteArray}
    (standing : disk.file? (disk.destination (join root routesIndex)) = some content) :
    after.file? (disk.destination (join root routesIndex)) = some content := by
  obtain ⟨text, result, later, middle, written, report, -⟩ :=
    exists_reports_makeTableFiles named [] member made
  have careful := controller_mem_carefulPaths table
  have inside := isInside_of_mem_carefulPaths (named table member) _ careful
  have isTemplate : controllerTemplate ∈ tableTemplates := List.mem_cons_self
  obtain ⟨stillTree, direct⟩ := direct_of_writeFile inside
    (names_tablePath_ne_nil (named table member) isTemplate) tree written
  refine report.file?_eq_some stillTree direct ?_
  rw [((respects_writeFile_skip _ _).of_execute written).file?_of_ne, standing]
  rw [isInside_routesIndex.destination_join, inside.destination_join]
  intro same
  have routes := (names_tablePath_shared (named table member) isTemplate (by simp [sharedPaths])
    (List.append_cancel_left same).symm).2.1
  exact absurd routes (by decide)

end Registering

/-- If a table is reported as registered, then the index has changed. -/
theorem FullRun.index_changed {run : FullRun} {schema : Schema} {name : String}
    {summary : Summary} {disk after : Disk} (tree : disk.IsTree)
    (prepared : run.Prepared disk schema name)
    (produced : execute (run.produce schema name) disk = (.ok summary, after))
    (patched : summary.patched ≠ []) :
    after.file? (disk.destination (join run.root routesIndex)) ≠
      disk.file? (disk.destination (join run.root routesIndex)) := by
  intro same
  have named := prepared.isNamed
  obtain ⟨outcomes, documents, last, generated, documented, rfl⟩ :=
    execute_produce_eq_ok.1 produced
  have length := length_of_execute_mapM generated
  refine patched ((patched_summarize_eq_nil length name documents).2 ?_)
  obtain ⟨table, rest, tables⟩ : ∃ table rest, schema.tables = table :: rest :=
    List.exists_cons_of_ne_nil (by simpa [Schema.isEmpty] using prepared.tables)
  rw [tables] at generated
  obtain ⟨own, others, next, ownMade, othersMade, rfl⟩ := execute_mapM_cons_eq_ok.1 generated
  obtain ⟨-, middle, made, updated⟩ := execute_generateTable_eq_ok.1 ownMade
  have tablesNamed : ∀ other ∈ table :: rest, IsNamed other := by rwa [tables] at named
  have finishes : PatchesIndex run.root [] last after :=
    (patchesIndex_writeDocuments schema name).of_execute documented
  by_cases found : last.isFile (join run.root routesIndex) = true
  · -- The index stood there from the beginning, and what the run registers in it stays.
    have grows : Grows middle last := ((grows_updateRoutes _ _).of_execute updated).trans
      ((grows_generateTables _ _ _).of_execute othersMade)
    have later := finishes.1.isFile found
    have destination := ((run.grows_produce schema name).of_execute produced).destination
      (join run.root routesIndex)
    obtain ⟨bytes, standing⟩ : ∃ bytes,
        disk.file? (disk.destination (join run.root routesIndex)) = some bytes := by
      rw [← same, ← destination]
      exact Option.ne_none_iff_exists'.1 (Disk.file?_of_isFile later)
    have middleFile := isFile_of_makeTableFiles tree made grows found (.inl (by simp [standing]))
    have kept := file?_routesIndex_of_makeTableFiles named tree (tables ▸ List.mem_cons_self) made
      standing
    obtain ⟨content, text⟩ := exists_textAt_of_updateRoutes middleFile updated
    have again : textAt after (join run.root routesIndex) = .ok content := by
      have growsAll := grows.trans finishes.1
      rw [← text, textAt, textAt, growsAll.read middleFile]
      rw [← growsAll.destination, destination, same, standing, kept]
    have known : ∀ other ∈ table :: rest, IsRegistered run.root middle other := by
      intro other member _
      have complete := isRegistered_of_first tablesNamed made middleFile generated other member
      obtain ⟨final, finalText, present⟩ :=
        finishes.isRegistered (tablesNamed other member) found complete later
      obtain rfl : content = final := Except.ok.inj (again.symm.trans finalText)
      exact ⟨content, text, present⟩
    obtain ⟨ownKnown, restKnown⟩ := List.forall_mem_cons.1 known
    obtain ⟨ownNamed, restNamed⟩ := List.forall_mem_cons.1 tablesNamed
    have patches : PatchesIndex run.root [table] middle next :=
      (patchesIndex_updateRoutes ownNamed List.mem_cons_self).of_execute updated
    refine List.forall_mem_cons.2
      ⟨registered_eq_false_of_updateRoutes ownNamed ownKnown updated, ?_⟩
    exact registered_eq_false_of_known restNamed (patches.1.isFile middleFile)
      (fun other member => patches.isRegistered (restNamed other member) middleFile
        (restKnown other member)) othersMade
  · exact registered_eq_false_of_missing (by simpa using found) generated

/-- A summary tells what a full run for a schema has done. -/
structure TellsRun (root : String) (schema : Schema) (before after : Disk) (summary : Summary) :
    Prop where
  tables : summary.tables = schema.tableNames
  nodup : summary.written.Nodup
  /-- Five files for each table, and four documents. -/
  count : summary.written.length + summary.skipped.length = 5 * schema.tables.length + 4
  /-- All files that have changed are reported, but for the index. -/
  changed : ∀ place, after.file? place ≠ before.file? place →
    (∃ path ∈ summary.written, place = before.destination path) ∨
      place = before.destination (join root routesIndex)
  /-- Nothing was where a file is written that is no document. Behind a detour the first controller
  is not seen. -/
  fresh : ∀ path ∈ summary.written, path ∉ documentPaths.map (join root) →
    before.node? (before.destination path) = none ∨
      ¬ before.Direct root ∧ ∃ table rest, schema.tables = table :: rest ∧
        path = join root (tablePath table controllerTemplate)
  /-- What was skipped had been there or had been written before. On the way behind a detour
  directories are made. -/
  skipped : ∃ results : List (String × WriteResult),
    results.map (·.1) = (schema.tables.flatMap carefulPaths ++ documentPaths).map (join root) ∧
      summary.written = (Outcome.ofResults results).written ∧
      summary.skipped = (Outcome.ofResults results).skipped ∧
      ∀ front path back, results = front ++ (path, .skipped) :: back →
        before.node? (before.destination path) ≠ none ∨ (path, .written) ∈ front ∨
          ¬ before.Direct root ∧ before.destination path ∈ before.wayOf root
  /-- Behind a detour the first controller is written, also if it was there. -/
  detour : ¬ before.Direct root → ∀ table rest, schema.tables = table :: rest →
    join root (tablePath table controllerTemplate) ∈ summary.written
  patched : summary.patched.Sublist summary.tables
  /-- If a table is reported as registered, then the index has changed. -/
  index : summary.patched ≠ [] →
    after.file? (before.destination (join root routesIndex)) ≠
      before.file? (before.destination (join root routesIndex))

section Summaries

variable {schema : Schema} {name : String}

/-- All tables are reported, and as registered some of them in order. -/
theorem sublist_patched {run : FullRun} {summary : Summary} {disk after : Disk}
    (produced : execute (run.produce schema name) disk = (.ok summary, after)) :
    summary.tables = schema.tableNames ∧ summary.patched.Sublist summary.tables := by
  obtain ⟨outcomes, documents, _, generated, -, rfl⟩ := FullRun.execute_produce_eq_ok.1 produced
  have length := length_of_execute_mapM generated
  have whole : (schema.tableNames.zip outcomes).map (·.1) = schema.tableNames :=
    List.map_fst_zip (by simp [Schema.tableNames, length])
  have chosen := (List.filter_sublist (p := fun pair : String × TableOutcome =>
    pair.2.registered) (l := schema.tableNames.zip outcomes)).map (·.1)
  rw [whole] at chosen
  exact ⟨rfl, chosen⟩

/-- The summary of a full run tells what it has done. -/
theorem tellsRun_of_produce {run : FullRun} {summary : Summary} {disk after : Disk}
    (tree : disk.IsTree) (prepared : run.Prepared disk schema name)
    (produced : execute (run.produce schema name) disk = (.ok summary, after)) :
    TellsRun run.root schema disk after summary := by
  have named := prepared.isNamed
  obtain ⟨table, rest, tables⟩ : ∃ table rest, schema.tables = table :: rest :=
    List.exists_cons_of_ne_nil (by simpa [Schema.isEmpty] using prepared.tables)
  have member : table ∈ schema.tables := tables ▸ List.mem_cons_self
  obtain ⟨text, result, later, results, middle, last, reported⟩ :=
    FullRun.exists_isReported named tables produced
  obtain ⟨allTables, sublist⟩ := sublist_patched produced
  refine ⟨allTables, reported.nodup named member, reported.count,
    fun place => reported.changed named member, fun path inside own => ?_, ?_,
    fun behind other others shape => ?_, sublist, FullRun.index_changed tree prepared produced⟩
  · have outcome := reported.fresh named member tree inside own
    exact outcome.imp_right fun behind => ⟨behind.1, table, rest, tables, behind.2⟩
  · refine ⟨results ++ documentPaths.map fun path => (join run.root path, .written), ?_, ?_, ?_,
      fun front path back => reported.skipped_there named member tree⟩
    · rw [List.map_append, reported.paths, List.map_append, List.map_map]
      rfl
    · rw [reported.written, ofResults_append_documents]
    · rw [reported.skipped, ofResults_append_documents]
  · obtain ⟨rfl, -⟩ := List.cons_eq_cons.1 (tables.symm.trans shape)
    exact reported.detour named member tree behind

end Summaries

/-- The summary of a full run that succeeds tells exactly what has happened. Each file of a table
and each document is written or skipped, no path is written twice, and all files that have changed
are written ones but for the routes index. Files that are written were not there, unless they are
documents, and those that are skipped were there or had been written before; behind a detour the
first controller is written in any case. Tables that are reported as registered are some of those of
the schema in order, and if there are any, the index has changed. -/
theorem summary_tells_full_run {run : FullRun} {summary : Summary} {disk after : Disk}
    (tree : disk.IsTree) (succeeded : execute run.program disk = (.ok summary, after)) :
    ∃ schema name, run.Prepared disk schema name ∧
      TellsRun run.root schema disk after summary := by
  obtain ⟨schema, name, prepared, produced⟩ := FullRun.execute_program_eq_ok.1 succeeded
  exact ⟨schema, name, prepared, tellsRun_of_produce tree prepared produced⟩

/-- The run that makes an index for one of its tables tells that the index has changed. -/
theorem summary_tells_sharingRun : sharingDisk.IsTree ∧ ∃ summary after,
    execute sharingRun.program sharingDisk = (.ok summary, after) ∧ ∃ schema name,
      sharingRun.Prepared sharingDisk schema name ∧
        TellsRun sharingRun.root schema sharingDisk after summary := by
  obtain ⟨summary, after, run⟩ := exists_execute_sharingRun
  exact ⟨isTree_sharingDisk, summary, after, run, summary_tells_full_run isTree_sharingDisk run⟩

/-- A working directory with a controller of its own, beside a schema and templates. -/
def ownedDisk : Disk where
  workingDirectory := []
  nodes := [(["src"], .directory), (["src", "controllers"], .directory),
      (["src", "controllers", "userController.js"], .file "mine".toUTF8), (["tpl"], .directory),
      (["schema.sql"], .file usersSql.toUTF8)] ++
    (tableTemplates ++ [poolTemplate]).map fun file =>
      (["tpl", file.template], .file "theirs".toUTF8)

/-- A full run for the schema that reaches the working directory by a detour. -/
def detourRun : FullRun where
  config := { projectRoot := "new/..", templatesDir := "/tpl" }
  sqlPath := some "/schema.sql"
  database := none
  answer := .error .noSuchEntry

/-- The place of the controller in the project. -/
def ownController : String :=
  join detourRun.root "src/controllers/userController.js"

theorem isTree_ownedDisk : ownedDisk.IsTree := by
  decide

theorem textAt_ownedDisk : ∀ file ∈ tableTemplates ++ [poolTemplate],
    textAt ownedDisk (join detourRun.templates file.template) = .ok "theirs" := by
  decide +kernel

theorem prepared_detourRun : detourRun.Prepared ownedDisk usersSchema "shop" where
  input := by decide
  directory := by decide
  text := ⟨usersSql, textAt_of_read (by rfl), isAllBlank_usersSql, parse_usersSql.symm⟩
  tables := rfl
  named := by decide
  templates file isTemplate := isFile_of_textAt (textAt_ownedDisk file isTemplate)

theorem isRunnable_detourRun : detourRun.IsRunnable ownedDisk usersSchema "shop" :=
  .of_short prepared_detourRun (by decide) (by decide) (by decide)
    (fun path output => destination_top_ne prepared_detourRun.isNamed output "schema.sql"
      (by decide) (by decide))
    (fun file isTemplate => ⟨_, textAt_ownedDisk file isTemplate⟩) Postman.isOk_parse_baseUrl

/-- The controller that is there is the only file at a place of the project. -/
theorem opens_ownedDisk : Opens ownedDisk detourRun.root (allPaths usersSchema) ownedDisk :=
  opens_of_nodes isRunnable_detourRun.apart (by decide +kernel) (by decide +kernel)
    (by decide +kernel)

/-- Behind a detour the controller was there, and yet it is reported as written and replaced. -/
theorem controller_replaced : ownedDisk.IsTree ∧
    ownedDisk.file? (ownedDisk.destination ownController) = some "mine".toUTF8 ∧
    ownController ∉ documentPaths.map (join detourRun.root) ∧
    ∃ summary after, execute detourRun.program ownedDisk = (.ok summary, after) ∧
      ownController ∈ summary.written ∧
      after.file? (ownedDisk.destination ownController) ≠ some "mine".toUTF8 := by
  obtain ⟨summary, after, run, -⟩ :=
    isRunnable_detourRun.succeeds_program ownedDisk opens_ownedDisk
  obtain ⟨schema, name, prepared, produced⟩ := FullRun.execute_program_eq_ok.1 run
  obtain ⟨rfl, -⟩ := prepared.unique prepared_detourRun
  have told := tellsRun_of_produce isTree_ownedDisk prepared produced
  have detour : ¬ ownedDisk.Direct detourRun.root := by decide
  have path : join detourRun.root (tablePath ⟨"users", [.ofDefinition "id" "INT"]⟩
      controllerTemplate) = ownController := by
    decide +kernel
  refine ⟨isTree_ownedDisk, by decide, by decide, summary, after, run,
    path ▸ told.detour detour _ _ rfl, fun kept => ?_⟩
  -- The controller was made from its template, which gives another text.
  have shape : usersSchema.tables = [] ++ ⟨"users", [.ofDefinition "id" "INT"]⟩ :: [] := rfl
  obtain ⟨template, given, isFile, read⟩ :=
    read_of_detour prepared produced shape rfl isTree_ownedDisk detour
  rw [textAt_ownedDisk controllerTemplate (List.mem_append_left _ List.mem_cons_self)] at given
  obtain rfl := Except.ok.inj given
  obtain ⟨bytes, found, same⟩ := Disk.read_of_isFile isFile
  obtain rfl := Except.ok.inj (same.symm.trans read)
  have grows : Grows ownedDisk after :=
    (detourRun.grows_produce _ name).of_execute produced
  rw [grows.destination, path, kept] at found
  revert found
  decide +kernel

end Project
end SchemaScaffold
