import SchemaScaffold.Proofs.Project.IndexMaking

/-!
# Second runs

A full run that is repeated at once finds its files in place. It skips the files of tables,
writes every document as it was, and changes the routes index exactly if the first run has left
a table in it unregistered.
-/

namespace SchemaScaffold
namespace Project

open Disk (Grows SameFiles)
open Disk.Path (IsInside join names)
open RoutesIndex (Registered)

/-- The template of a file is a text, and something is at the path of the file. -/
def IsMade (root directory : String) (disk : Disk) (tokens : List (String × String))
    (file : TemplateFile) : Prop :=
  (∃ template, textAt disk (join directory file.template) = .ok template) ∧
    disk.hasEntry (join root (Template.render file.destination tokens)) = true

/-- All files of a table are in place. -/
def IsSettled (root directory : String) (disk : Disk) (table : Table) : Prop :=
  disk.isDirectory directory = true ∧
    (∀ file ∈ tableTemplates,
      IsMade root directory disk (Template.entityTokens table.entityNames) file) ∧
    IsMade root directory disk [] poolTemplate

section Again

variable {root directory : String} {disk : Disk}

/-- A file that is in place is skipped. -/
theorem execute_makeFile_again {tokens : List (String × String)} {file : TemplateFile}
    (made : IsMade root directory disk tokens file) :
    ∃ result, execute (makeFile root directory tokens file) disk = (.ok result, disk) := by
  obtain ⟨⟨template, text⟩, there⟩ := made
  refine ⟨_, execute_makeFile_eq_ok.2 ⟨template, .skipped, text, ?_, rfl⟩⟩
  rw [execute_writeFile_skip, if_pos there]

/-- A program that leaves a disk as it is for each member of a list does so for all of them. -/
theorem execute_mapM_again {α β : Type} {program : α → Run (StateM Disk) β} {list : List α}
    (each : ∀ a ∈ list, ∃ b, execute (program a) disk = (.ok b, disk)) :
    ∃ results, execute (list.mapM program) disk = (.ok results, disk) := by
  induction list with
  | nil => exact ⟨[], execute_mapM_nil program disk⟩
  | cons a rest ih =>
    obtain ⟨b, first⟩ := each a List.mem_cons_self
    obtain ⟨others, later⟩ := ih fun other member => each other (List.mem_cons_of_mem _ member)
    exact ⟨b :: others, execute_mapM_cons_eq_ok.2 ⟨b, others, disk, first, later, rfl⟩⟩

theorem execute_makeTableFiles_again {table : Table}
    (settled : IsSettled root directory disk table) :
    ∃ files, execute (makeTableFiles root directory table) disk = (.ok files, disk) := by
  obtain ⟨own, first⟩ := execute_mapM_again fun file member =>
    execute_makeFile_again (settled.2.1 file member)
  obtain ⟨pool, second⟩ := execute_makeFile_again settled.2.2
  exact ⟨_, execute_makeTableFiles_eq_ok.2 ⟨own, pool, disk, first, second, rfl⟩⟩

/-- For a table whose files are in place only the routes are updated. -/
theorem execute_generateTable_again {table : Table} {registered : Bool} {after : Disk}
    (settled : IsSettled root directory disk table)
    (updated : execute (updateRoutes (join root routesIndex) table.name) disk =
      (.ok registered, after)) :
    ∃ outcome, execute (generateTable root directory table) disk = (.ok outcome, after) ∧
      outcome.registered = registered := by
  obtain ⟨files, made⟩ := execute_makeTableFiles_again settled
  exact ⟨⟨files, registered⟩,
    execute_generateTable_eq_ok.2 ⟨settled.1, disk, made, updated⟩, rfl⟩

end Again

/-- Files stay in place when outputs change. -/
theorem IsMade.changes {root directory : String} {schema : Schema} {before after : Disk}
    {tokens : List (String × String)} {file : TemplateFile}
    (made : IsMade root directory before tokens file)
    (named : ∀ table ∈ schema.tables, IsNamed table)
    (member : file ∈ tableTemplates ++ [poolTemplate])
    (changes : ChangesOnly root (outputs schema) before after) :
    IsMade root directory after tokens file := by
  obtain ⟨⟨template, text⟩, there⟩ := made
  refine ⟨⟨template, ?_⟩, changes.1.hasEntry there⟩
  rw [changes.textAt_eq (isFile_of_textAt text) fun path output =>
    destination_template_ne named output member _ _ _]
  exact text

theorem IsSettled.changes {root directory : String} {schema : Schema} {before after : Disk}
    {table : Table} (settled : IsSettled root directory before table)
    (named : ∀ table ∈ schema.tables, IsNamed table)
    (changes : ChangesOnly root (outputs schema) before after) :
    IsSettled root directory after table := by
  refine ⟨changes.1.isDirectory settled.1, fun file member => ?_, ?_⟩
  · exact (settled.2.1 file member).changes named (List.mem_append_left _ member) changes
  · exact settled.2.2.changes named (List.mem_append_right _ (List.mem_singleton.2 rfl)) changes

section Tables

variable {root directory : String} {disk : Disk}

/-- For a settled table at most the index changes, namely if the table is not registered. -/
theorem exists_execute_generateTable {table : Table} (named : IsNamed table)
    (settled : IsSettled root directory disk table) (readable : IsReadable root disk) :
    ∃ outcome after, execute (generateTable root directory table) disk = (.ok outcome, after) ∧
      ChangesOnly root [routesIndex] disk after ∧ IsReadable root after ∧
      (outcome.registered = false ↔ IsRegistered root disk table) ∧
      (outcome.registered = false → after = disk) := by
  have unchanged := (chains_changesOnly root [routesIndex]).refl disk
  cases isFile : disk.isFile (join root routesIndex) with
  | false =>
    obtain ⟨outcome, run, answer⟩ := execute_generateTable_again settled
      (execute_updateRoutes_of_missing isFile table.name)
    have vacuous : IsRegistered root disk table := fun found => by simp [isFile] at found
    exact ⟨outcome, disk, run, unchanged, readable, by simp [answer, vacuous], fun _ => rfl⟩
  | true =>
    obtain ⟨content, text⟩ := readable isFile
    by_cases present : Registered content table.name
    · obtain ⟨outcome, run, answer⟩ := execute_generateTable_again settled
        (execute_updateRoutes_of_registered named.2 isFile text present)
      have registered : IsRegistered root disk table := fun _ => ⟨content, text, present⟩
      exact ⟨outcome, disk, run, unchanged, readable, by simp [answer, registered], fun _ => rfl⟩
    · obtain ⟨after, updated, written, patched⟩ :=
        execute_updateRoutes_of_unregistered named.2 isFile text present
      obtain ⟨outcome, run, answer⟩ := execute_generateTable_again settled updated
      have touched := (respects_overwrite _ _).of_execute written
      refine ⟨outcome, after, run, touched.changesOnly List.mem_cons_self,
        fun _ => ⟨_, patched⟩, ?_, by simp [answer]⟩
      simp only [answer, Bool.true_eq_false, false_iff]
      intro registered
      obtain ⟨other, given, found⟩ := registered isFile
      obtain rfl : content = other := Except.ok.inj (text.symm.trans given)
      exact present found

/-- For settled tables nothing changes if all of them are registered, and otherwise one of them
gets registered. -/
theorem exists_execute_tables {schema : Schema} (named : ∀ table ∈ schema.tables, IsNamed table)
    {tables : List Table} (within : tables ⊆ schema.tables)
    (settled : ∀ table ∈ tables, IsSettled root directory disk table)
    (readable : IsReadable root disk) :
    ∃ outcomes after,
      execute (tables.mapM (generateTable root directory)) disk = (.ok outcomes, after) ∧
      ChangesOnly root [routesIndex] disk after ∧
      ((∀ outcome ∈ outcomes, outcome.registered = false) ↔
        ∀ table ∈ tables, IsRegistered root disk table) ∧
      ((∀ outcome ∈ outcomes, outcome.registered = false) → after = disk) := by
  have chains := chains_changesOnly root [routesIndex]
  induction tables generalizing disk with
  | nil => exact ⟨[], disk, execute_mapM_nil _ disk, chains.refl disk, by simp, fun _ => rfl⟩
  | cons table rest ih =>
    obtain ⟨outcome, middle, first, changes, stillReadable, answer, same⟩ :=
      exists_execute_generateTable (named table (within List.mem_cons_self))
        (settled table List.mem_cons_self) readable
    have index : [routesIndex] ⊆ outputs schema := by simp [outputs, sharedPaths]
    obtain ⟨outcomes, after, later, laterChanges, laterAnswer, laterSame⟩ :=
      ih (List.cons_subset.1 within).2
        (fun other member => (settled other (List.mem_cons_of_mem _ member)).changes named
          (changes.mono index)) stillReadable
    refine ⟨outcome :: outcomes, after,
      execute_mapM_cons_eq_ok.2 ⟨outcome, outcomes, middle, first, later, rfl⟩,
      chains.trans changes laterChanges, ?_, fun quiet => ?_⟩
    · simp only [List.forall_mem_cons]
      constructor
      · rintro ⟨quiet, others⟩
        obtain rfl := same quiet
        exact ⟨answer.1 quiet, laterAnswer.1 others⟩
      · rintro ⟨registered, others⟩
        have quiet := answer.2 registered
        obtain rfl := same quiet
        exact ⟨quiet, laterAnswer.2 others⟩
    · rw [laterSame (List.forall_mem_cons.1 quiet).2, same (List.forall_mem_cons.1 quiet).1]

end Tables

/-- All shared paths but one. -/
def otherPaths (path : String) : List String :=
  sharedPaths.filter (· ≠ path)

section Documents

variable {disk middle after : Disk}

/-- A document that has not been touched since it was put is put again as it is. -/
theorem execute_put_document_again {root path text : String} (document : path ∈ documentPaths)
    (written : execute (put (join root path) text) disk = (.ok .written, middle))
    (changes : ChangesOnly root (otherPaths path) middle after) :
    execute (put (join root path) text) after = (.ok .written, after) := by
  have member := mem_sharedPaths_of_document document
  obtain ⟨isFile, read⟩ := read_of_put written
  have stays : after.read (join root path) = .ok text.toUTF8 := by
    rw [changes.read_eq isFile, read]
    intro other apart
    obtain ⟨otherMember, ne⟩ := List.mem_filter.1 apart
    exact destination_shared_ne member otherMember (fun same => by simp [same] at ne) _ _
  exact execute_put_again written changes.1 stays

/-- The documents are written again as they are if only the index has changed since. -/
theorem execute_writeDocuments_again {config : Config} {schema : Schema} {database : String}
    {documents : List (String × WriteResult)}
    (written : execute (writeDocuments config schema database) disk = (.ok documents, middle))
    (changes : ChangesOnly config.projectRoot [routesIndex] middle after) :
    execute (writeDocuments config schema database) after = (.ok documents, after) := by
  obtain ⟨collection, first, second, third, made, readme, openApi, postman, env, reported⟩ :=
    execute_writeDocuments_eq_ok.1 written
  -- Each document is followed by writes to other paths only.
  have chains := chains_changesOnly config.projectRoot
  have writes {path other content : String} {before last : Disk} (member : other ∈ otherPaths path)
      (run : execute (put (join config.projectRoot other) content) before = (.ok .written, last)) :
      ChangesOnly config.projectRoot (otherPaths path) before last :=
    ((respects_put _ _).of_execute run).changesOnly member
  have envStays : ChangesOnly config.projectRoot (otherPaths envPath) middle after :=
    changes.mono (by decide)
  have postmanStays : ChangesOnly config.projectRoot (otherPaths postmanPath) third after :=
    (chains _).trans (writes (by decide) env) (changes.mono (by decide))
  have openApiStays : ChangesOnly config.projectRoot (otherPaths openApiPath) second after :=
    (chains _).trans (writes (by decide) postman) <|
      (chains _).trans (writes (by decide) env) (changes.mono (by decide))
  have readmeStays : ChangesOnly config.projectRoot (otherPaths readmePath) first after :=
    (chains _).trans (writes (by decide) openApi) <|
      (chains _).trans (writes (by decide) postman) <|
        (chains _).trans (writes (by decide) env) (changes.mono (by decide))
  refine execute_writeDocuments_eq_ok.2 ⟨collection, after, after, after, made, ?_, ?_, ?_, ?_,
    reported⟩
  · exact execute_put_document_again (by simp [documentPaths]) readme readmeStays
  · exact execute_put_document_again (by simp [documentPaths]) openApi openApiStays
  · exact execute_put_document_again (by simp [documentPaths]) postman postmanStays
  · exact execute_put_document_again (by simp [documentPaths]) env envStays

end Documents

section First

variable {root directory : String} {schema : Schema} {disk after : Disk}

/-- A file that has been made is in place. -/
theorem isMade_of_makeFile (named : ∀ table ∈ schema.tables, IsNamed table)
    {tokens : List (String × String)} {file : TemplateFile}
    (member : file ∈ tableTemplates ++ [poolTemplate])
    (output : Template.render file.destination tokens ∈ outputs schema)
    {result : String × WriteResult}
    (made : execute (makeFile root directory tokens file) disk = (.ok result, after)) :
    IsMade root directory after tokens file := by
  have changes : ChangesOnly root (outputs schema) disk after :=
    (respects_makeFile (chains_changesOnly _ _) fun text disk =>
      (respects_writeFile_skip _ text disk).changesOnly output).of_execute made
  obtain ⟨template, outcome, text, written, -⟩ := execute_makeFile_eq_ok.1 made
  refine ⟨⟨template, ?_⟩, hasEntry_of_writeFile written⟩
  rw [changes.textAt_eq (isFile_of_textAt text) fun path written =>
    destination_template_ne named written member _ _ _]
  exact text

/-- A table that has been generated is settled. -/
theorem isSettled_of_generateTable (named : ∀ table ∈ schema.tables, IsNamed table)
    {table : Table} (tableMember : table ∈ schema.tables) {outcome : TableOutcome}
    (generated : execute (generateTable root directory table) disk = (.ok outcome, after)) :
    IsSettled root directory after table := by
  have chains := chains_changesOnly root (outputs schema)
  have careful {path : String} (member : path ∈ carefulPaths table) (text : String) :
      Respects (ChangesOnly root (outputs schema)) (writeFile (join root path) text .skip) :=
    changesOnly_careful tableMember member text
  have output {path : String} (member : path ∈ carefulPaths table) : path ∈ outputs schema :=
    mem_outputs_of_careful tableMember member
  have own {file : TemplateFile} (member : file ∈ tableTemplates) :
      tablePath table file ∈ carefulPaths table :=
    List.mem_append_left _ (List.mem_map_of_mem member)
  have pool : poolTemplate.destination ∈ carefulPaths table :=
    List.mem_append_right _ (List.mem_singleton.2 rfl)
  have grows := (grows_generateTable root directory table).of_execute generated
  obtain ⟨found, middle, filesMade, updated⟩ := execute_generateTable_eq_ok.1 generated
  obtain ⟨_, _, last, ownMade, poolMade, -⟩ := execute_makeTableFiles_eq_ok.1 filesMade
  have indexChanges : ChangesOnly root (outputs schema) middle after :=
    (respects_updateRoutes chains (fun disk _ text => changesOnly_index text disk) _).of_execute
      updated
  have poolChanges : ChangesOnly root (outputs schema) last middle :=
    (respects_pool chains (careful pool)).of_execute poolMade
  refine ⟨grows.isDirectory found, fun file member => ?_, ?_⟩
  · obtain ⟨_, _, next, -, made, changes⟩ := exists_execute_of_mem chains
      (fun other inside => respects_makeFile chains (careful (own inside))) ownMade member
    exact (isMade_of_makeFile named (List.mem_append_left _ member) (output (own member))
      made).changes named (List.mem_append_left _ member)
        (chains.trans changes (chains.trans poolChanges indexChanges))
  · have member : poolTemplate ∈ tableTemplates ++ [poolTemplate] := by simp
    have made : IsMade root directory middle [] poolTemplate :=
      isMade_of_makeFile named member (output pool) poolMade
    exact made.changes named member indexChanges

/-- All tables are settled once they have been generated. -/
theorem isSettled_of_mapM (named : ∀ table ∈ schema.tables, IsNamed table)
    {outcomes : List TableOutcome}
    (generated : execute (schema.tables.mapM (generateTable root directory)) disk =
      (.ok outcomes, after)) :
    ∀ table ∈ schema.tables, IsSettled root directory after table := by
  intro table member
  obtain ⟨_, _, last, -, own, changes⟩ := exists_execute_of_mem (chains_changesOnly _ _)
    (fun other inside => changesOnly_generateTable inside) generated member
  exact (isSettled_of_generateTable named member own).changes named changes

end First

section Same

variable {run : FullRun} {disk after : Disk} {schema : Schema} {name : String}

/-- The schema is not read from a place at which the run puts a file. -/
def FullRun.HasOwnInput (run : FullRun) (disk : Disk) : Prop :=
  ∀ schema name, run.Prepared disk schema name → ∀ path ∈ outputs schema,
    disk.destination run.input ≠ disk.destination (join run.root path)

/-- Tables that are registered on a disk with the same files are registered. -/
theorem IsComplete.of_sameFiles {root : String} (grows : Grows disk after)
    (same : SameFiles disk after)
    (complete : disk.isFile (join root routesIndex) = true → IsComplete root after schema) :
    IsComplete root disk schema := by
  intro table member isFile
  obtain ⟨content, text, present⟩ := complete isFile table member (grows.isFile isFile)
  refine ⟨content, ?_, present⟩
  rw [← text, textAt, textAt, grows.read isFile (same _)]

/-- A run that has succeeded succeeds again. It reports no table as registered, and changes no
file, exactly if it has left all tables registered. -/
theorem FullRun.exists_execute_again {summary : Summary} (tree : disk.IsTree)
    (own : run.HasOwnInput disk) (prepared : run.Prepared disk schema name)
    (produced : execute (run.produce schema name) disk = (.ok summary, after)) :
    ∃ again last, execute run.program after = (.ok again, last) ∧
      (again.patched = [] ↔ IsComplete run.root after schema) ∧
      (SameFiles after last ↔ IsComplete run.root after schema) := by
  have named := prepared.isNamed
  have hasTables : schema.tables ≠ [] := by simpa [Schema.isEmpty] using prepared.tables
  obtain ⟨_, documents, middle, tablesMade, documentsMade, -⟩ := execute_produce_eq_ok.1 produced
  have documentChanges : ChangesOnly run.root (outputs schema) middle after :=
    ((changesOnly_writeDocuments name).of_execute documentsMade).mono fun path document =>
      List.mem_append_right _ (mem_sharedPaths_of_document document)
  have changes : ChangesOnly run.root (outputs schema) disk after :=
    (chains_changesOnly _ _).trans ((Respects.mapM (chains_changesOnly _ _) fun table member =>
      changesOnly_generateTable member).of_execute tablesMade) documentChanges
  have settled : ∀ table ∈ schema.tables, IsSettled run.root run.templates after table :=
    fun table member =>
      (isSettled_of_mapM named tablesMade table member).changes named documentChanges
  -- The second run goes through the tables and the documents of the first one.
  obtain ⟨outcomes, last, tablesAgain, indexChanges, quiet, unchanged⟩ :=
    exists_execute_tables named (List.Subset.refl _) settled
      (isReadable_of_produce tree named hasTables produced)
  have documentsAgain := execute_writeDocuments_again documentsMade indexChanges
  have again : execute run.program after =
      (.ok (summarize schema name outcomes documents), last) :=
    execute_program_eq_ok.2 ⟨schema, name, prepared.changes (own schema name prepared) changes,
      execute_produce_eq_ok.2 ⟨outcomes, documents, last, tablesAgain, documentsAgain, rfl⟩⟩
  refine ⟨_, last, again, ?_, fun same => ?_, fun complete => ?_⟩
  · rw [patched_summarize_eq_nil (length_of_execute_mapM tablesAgain)]
    exact quiet
  · exact IsComplete.of_sameFiles indexChanges.1 same fun isFile =>
      isRegistered_of_mapM named isFile tablesAgain
  · rw [unchanged (quiet.2 complete)]
    exact fun place => rfl

/-- A run leaves all tables registered if the index knows them, and only then if the project is
reached without detours. -/
theorem FullRun.isComplete_iff {summary : Summary} (tree : disk.IsTree)
    (prepared : run.Prepared disk schema name)
    (produced : execute (run.produce schema name) disk = (.ok summary, after)) :
    (run.KnowsTables disk schema → IsComplete run.root after schema) ∧
      (disk.Direct run.root → IsComplete run.root after schema →
        run.KnowsTables disk schema) := by
  have template := prepared.templates routesTemplate (by decide)
  have nodup : schema.tableNames.Nodup := by
    obtain ⟨sql, -, -, rfl⟩ := prepared.text
    exact Sql.nodup_tableNames_parse sql
  exact ⟨isComplete_of_knowsTables prepared.isNamed template produced tree,
    knowsTables_of_isComplete prepared.isNamed template produced nodup⟩

end Same

/-- A full run that has succeeded succeeds when it is repeated at once. It reports no table as
registered, and changes no file, exactly if the first run has left all tables registered in the
index. That is so if the index knows the tables, and only then if the project is reached without
detours. -/
theorem second_run_settles {run : FullRun} {disk after : Disk} {summary : Summary}
    (tree : disk.IsTree) (own : run.HasOwnInput disk)
    (succeeded : execute run.program disk = (.ok summary, after)) :
    ∃ schema name again last, run.Prepared disk schema name ∧
      execute run.program after = (.ok again, last) ∧
      (again.patched = [] ↔ IsComplete run.root after schema) ∧
      (SameFiles after last ↔ IsComplete run.root after schema) ∧
      (run.KnowsTables disk schema → IsComplete run.root after schema) ∧
      (disk.Direct run.root → IsComplete run.root after schema →
        run.KnowsTables disk schema) := by
  obtain ⟨schema, name, prepared, produced⟩ := FullRun.execute_program_eq_ok.1 succeeded
  obtain ⟨again, last, repeated, patched, same⟩ :=
    run.exists_execute_again tree own prepared produced
  exact ⟨schema, name, again, last, prepared, repeated, patched, same,
    run.isComplete_iff tree prepared produced⟩

theorem hasOwnInput_sharingRun : sharingRun.HasOwnInput sharingDisk :=
  fun _ _ prepared _ output =>
    destination_beside_ne prepared.isNamed (List.mem_append_left _ output) (by decide)

theorem not_knowsTables_sharingRun :
    ¬ sharingRun.KnowsTables sharingDisk (Sql.parse sharingSql) := by
  rintro (occupied | known)
  · exact occupied (isClear_sharingDisk.node?_eq_none isInside_routesIndex (by decide))
  · obtain ⟨first, rest, tables, firstName, restNames⟩ :=
      List.map_eq_cons_iff.1 tableNames_sharingSql
    obtain ⟨maker, others, shape, index, -⟩ := List.map_eq_cons_iff.1 restNames
    rw [shape] at tables
    have registered := known [first] maker others tables index "\x7b\x7btable\x7d\x7d"
      (by decide) first List.mem_cons_self
    have required := registered.required
    rw [Table.entityNames, index, firstName] at required
    revert required
    decide

/-- The run for two tables of which the second one makes the index succeeds a second time. -/
theorem sharingRun_succeeds_again : sharingDisk.IsTree ∧ sharingRun.HasOwnInput sharingDisk ∧
    ∃ summary after again last, execute sharingRun.program sharingDisk = (.ok summary, after) ∧
      execute sharingRun.program after = (.ok again, last) ∧
      (again.patched = [] ↔ SameFiles after last) := by
  obtain ⟨summary, after, run⟩ := exists_execute_sharingRun
  obtain ⟨schema, name, again, last, -, repeated, patched, same, -⟩ :=
    second_run_settles isTree_sharingDisk hasOwnInput_sharingRun run
  exact ⟨isTree_sharingDisk, hasOwnInput_sharingRun, summary, after, again, last, run, repeated,
    patched.trans same.symm⟩

/-- Its second turn is not like the first one: a table is registered, and a file changes. -/
theorem sharingRun_patches_again : sharingRun.HasOwnInput sharingDisk ∧
    ∃ summary after again last, execute sharingRun.program sharingDisk = (.ok summary, after) ∧
      execute sharingRun.program after = (.ok again, last) ∧
      again.patched ≠ [] ∧ ¬ SameFiles after last := by
  obtain ⟨summary, after, run⟩ := exists_execute_sharingRun
  obtain ⟨schema, name, prepared, produced⟩ := FullRun.execute_program_eq_ok.1 run
  obtain ⟨again, last, repeated, patched, same⟩ := sharingRun.exists_execute_again
    isTree_sharingDisk hasOwnInput_sharingRun prepared produced
  obtain ⟨sql, text, -, rfl⟩ := prepared.text
  have given : textAt sharingDisk sharingRun.input = .ok sharingSql :=
    textAt_of_read (by rfl)
  obtain rfl : sharingSql = sql := Except.ok.inj (given.symm.trans text)
  have incomplete : ¬ IsComplete sharingRun.root after (Sql.parse sharingSql) := fun complete =>
    not_knowsTables_sharingRun ((sharingRun.isComplete_iff isTree_sharingDisk prepared produced).2
      isClear_sharingDisk.direct complete)
  exact ⟨hasOwnInput_sharingRun, summary, after, again, last, run, repeated,
    fun empty => incomplete (patched.1 empty), fun unchanged => incomplete (same.1 unchanged)⟩

end Project
end SchemaScaffold
