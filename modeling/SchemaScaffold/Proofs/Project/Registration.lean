import SchemaScaffold.Proofs.Artifact.RoutesIndex
import SchemaScaffold.Proofs.Project.Production

/-!
# Registration in runs

When a table is registered in the routes index of a project. A run registers each of its tables
if the index is there when the routes of the first one are updated, and no later step of the run
takes a registration back.
-/

namespace SchemaScaffold
namespace Project

open Disk (Grows)
open Disk.Path (IsInside join names)
open RoutesIndex (Registered)

/-- The routes index of a project, if it is there, has the lines of a table. -/
def IsRegistered (root : String) (disk : Disk) (table : Table) : Prop :=
  disk.isFile (join root routesIndex) = true →
    ∃ content, textAt disk (join root routesIndex) = .ok content ∧ Registered content table.name

/-- Every table of a schema is registered in the index of a project, if the index is there. -/
def IsComplete (root : String) (disk : Disk) (schema : Schema) : Prop :=
  ∀ table ∈ schema.tables, IsRegistered root disk table

/-- The routes index of a project, if it is there, is a text. -/
def IsReadable (root : String) (disk : Disk) : Prop :=
  disk.isFile (join root routesIndex) = true →
    ∃ content, textAt disk (join root routesIndex) = .ok content

/-- A file that is there can be written. -/
theorem exists_write_of_isFile {disk : Disk} {path : String} (isFile : disk.isFile path = true)
    (text : String) : ∃ after, disk.write path text = .ok after := by
  obtain ⟨noSlash, content, followed⟩ := Disk.isFile_iff.1 isFile
  exact ⟨_, Disk.write_eq_ok.2 ⟨⟨noSlash, _, followed, by simp⟩, rfl⟩⟩

section Updating

variable {path table : String} {disk after : Disk} {registered : Bool}

/-- Without an index nothing is updated. -/
theorem execute_updateRoutes_of_missing (missing : disk.isFile path = false) (table : String) :
    execute (updateRoutes path table) disk = (.ok false, disk) := by
  rw [execute_updateRoutes, missing]
  rfl

/-- An index in which a table is registered stays as it is. -/
theorem execute_updateRoutes_of_registered (named : IsNameText table.toList)
    (isFile : disk.isFile path = true) {content : String}
    (text : textAt disk path = .ok content) (present : Registered content table) :
    execute (updateRoutes path table) disk = (.ok false, disk) := by
  have same := (RoutesIndex.patch_eq_self_iff named).2 present
  simp [execute_updateRoutes, isFile, text, same]

/-- A table that is not registered is registered, which changes the index. -/
theorem execute_updateRoutes_of_unregistered (named : IsNameText table.toList)
    (isFile : disk.isFile path = true) {content : String}
    (text : textAt disk path = .ok content) (absent : ¬ Registered content table) :
    ∃ after, execute (updateRoutes path table) disk = (.ok true, after) ∧
      execute (overwrite path (RoutesIndex.patch content table)) disk = (.ok (), after) ∧
      textAt after path = .ok (RoutesIndex.patch content table) := by
  have changed : RoutesIndex.patch content table ≠ content :=
    fun same => absent ((RoutesIndex.patch_eq_self_iff named).1 same)
  obtain ⟨after, written⟩ := exists_write_of_isFile isFile (RoutesIndex.patch content table)
  refine ⟨after, ?_, ?_, textAt_of_read (Disk.read_of_write written).2⟩
  · simp [execute_updateRoutes, isFile, text, changed, written]
  · rw [execute_overwrite, written]

/-- After its routes have been updated a table is registered in an index that is there. -/
theorem registered_of_updateRoutes (named : IsNameText table.toList)
    (isFile : disk.isFile path = true)
    (updated : execute (updateRoutes path table) disk = (.ok registered, after)) :
    ∃ content, textAt after path = .ok content ∧ Registered content table := by
  cases text : textAt disk path with
  | error cause => simp [execute_updateRoutes, isFile, text] at updated
  | ok content =>
    by_cases present : Registered content table
    · rw [execute_updateRoutes_of_registered named isFile text present] at updated
      obtain rfl : disk = after := (Prod.mk.inj updated).2
      exact ⟨content, text, present⟩
    · obtain ⟨last, run, -, patched⟩ :=
        execute_updateRoutes_of_unregistered named isFile text present
      rw [run] at updated
      obtain rfl : last = after := (Prod.mk.inj updated).2
      exact ⟨_, patched, RoutesIndex.registered_patch named content⟩

end Updating

/-- Register tables in an index, one after another. -/
def patchAll (content : String) (tables : List Table) : String :=
  tables.foldl (fun text table => RoutesIndex.patch text table.name) content

/-- What is registered stays registered. -/
theorem registered_patchAll {table : Table} (named : IsNamed table) {content : String}
    (registered : Registered content table.name) (tables : List Table) :
    Registered (patchAll content tables) table.name := by
  induction tables generalizing content with
  | nil => exact registered
  | cons other rest ih => exact ih (registered.patch named.2 other.name)

/-- Only the tables themselves are registered. -/
theorem registered_of_patchAll {table : Table} (named : IsNamed table) {tables : List Table}
    (others : ∀ other ∈ tables, IsNamed other ∧ table.name ≠ other.name) {content : String}
    (registered : Registered (patchAll content tables) table.name) :
    Registered content table.name := by
  induction tables generalizing content with
  | nil => exact registered
  | cons other rest ih =>
    obtain ⟨⟨otherNamed, apart⟩, restOthers⟩ := List.forall_mem_cons.1 others
    exact Registered.of_patch named.2 otherNamed.2 apart (ih restOthers registered)

/-- A disk grows, and an index that is there changes only by the registration of some tables. -/
def PatchesIndex (root : String) (tables : List Table) (before after : Disk) : Prop :=
  Grows before after ∧ (before.isFile (join root routesIndex) = true →
    ∀ content, textAt before (join root routesIndex) = .ok content →
      ∃ patched, patched ⊆ tables ∧
        textAt after (join root routesIndex) = .ok (patchAll content patched))

theorem chains_patchesIndex (root : String) (tables : List Table) :
    Chains (PatchesIndex root tables) where
  refl disk := ⟨Grows.refl disk, fun _ content text => ⟨[], by simp, text⟩⟩
  trans first second := by
    refine ⟨first.1.trans second.1, fun isFile content text => ?_⟩
    obtain ⟨early, earlyWithin, middle⟩ := first.2 isFile content text
    obtain ⟨late, lateWithin, last⟩ := second.2 (first.1.isFile isFile) _ middle
    refine ⟨early ++ late, List.append_subset.2 ⟨earlyWithin, lateWithin⟩, ?_⟩
    rw [last, patchAll, patchAll, patchAll, List.foldl_append]

theorem isInside_routesIndex : IsInside routesIndex := by
  decide

/-- The routes of a table that is named like the index are the index. -/
theorem tablePath_of_index {table : Table} (index : table.name = "index") :
    tablePath table routesTemplate = routesIndex := by
  rw [tablePath, Table.entityNames, index]
  decide

/-- A careful path that leads to the index is its path, as that of a table with its name. -/
theorem eq_routesIndex_of_careful {table : Table} (named : IsNamed table) {path : String}
    (careful : path ∈ carefulPaths table) (same : names path = names routesIndex) :
    path = routesIndex ∧ table.name = "index" := by
  have shared : routesIndex ∈ sharedPaths := by simp [sharedPaths]
  rcases List.mem_append.1 careful with own | pool
  · obtain ⟨file, member, rfl⟩ := List.mem_map.1 own
    obtain ⟨-, rfl, index⟩ := names_tablePath_shared named member shared same
    exact ⟨tablePath_of_index index, index⟩
  · obtain rfl := List.mem_singleton.1 pool
    exact absurd same (by decide)

section Patching

variable {root directory : String} {tables : List Table} {table : Table}

namespace PatchesIndex

variable {before after : Disk}

theorem of_file? (grows : Grows before after)
    (same : after.file? (before.destination (join root routesIndex)) =
      before.file? (before.destination (join root routesIndex))) :
    PatchesIndex root tables before after := by
  refine ⟨grows, fun isFile content text => ⟨[], by simp, ?_⟩⟩
  rw [textAt, grows.read isFile same]
  exact text

/-- A registered table stays registered. -/
theorem isRegistered (patches : PatchesIndex root tables before after) (named : IsNamed table)
    (isFile : before.isFile (join root routesIndex) = true)
    (registered : IsRegistered root before table) : IsRegistered root after table := by
  obtain ⟨content, text, present⟩ := registered isFile
  obtain ⟨patched, -, later⟩ := patches.2 isFile content text
  exact fun _ => ⟨_, later, registered_patchAll named present patched⟩

/-- A table that is registered in the end, but not by the way, was registered before. -/
theorem registered (patches : PatchesIndex root tables before after) (named : IsNamed table)
    (others : ∀ other ∈ tables, IsNamed other ∧ table.name ≠ other.name)
    (isFile : before.isFile (join root routesIndex) = true) {content : String}
    (text : textAt before (join root routesIndex) = .ok content)
    (registered : IsRegistered root after table) : Registered content table.name := by
  obtain ⟨patched, within, later⟩ := patches.2 isFile content text
  obtain ⟨last, given, present⟩ := registered (patches.1.isFile isFile)
  obtain rfl : patchAll content patched = last := Except.ok.inj (later.symm.trans given)
  exact registered_of_patchAll named (fun other member => others other (within member)) present

end PatchesIndex

/-- A careful write leaves an index alone that is there. -/
theorem patchesIndex_writeFile_skip (named : IsNamed table) {path : String}
    (careful : path ∈ carefulPaths table) (text : String) :
    Respects (PatchesIndex root tables) (writeFile (join root path) text .skip) := by
  intro disk
  have inside := isInside_of_mem_carefulPaths named path careful
  have touched := respects_writeFile_skip (join root path) text disk
  by_cases same : names path = names routesIndex
  · obtain ⟨rfl, -⟩ := eq_routesIndex_of_careful named careful same
    refine ⟨touched.grows, fun isFile content given => ⟨[], by simp, ?_⟩⟩
    rw [execute_writeFile_skip, if_pos (by simp [Disk.hasEntry, isFile])]
    exact given
  · refine PatchesIndex.of_file? touched.grows (touched.file?_of_ne fun equal => same ?_)
    rw [inside.destination_join, isInside_routesIndex.destination_join] at equal
    exact (List.append_cancel_left equal).symm

theorem patchesIndex_updateRoutes (named : IsNamed table) (member : table ∈ tables) :
    Respects (PatchesIndex root tables) (updateRoutes (join root routesIndex) table.name) := by
  intro disk
  refine ⟨grows_updateRoutes _ _ disk, fun isFile content text => ?_⟩
  by_cases same : Registered content table.name
  · rw [execute_updateRoutes_of_registered named.2 isFile text same]
    exact ⟨[], by simp, text⟩
  · obtain ⟨after, run, -, patched⟩ :=
      execute_updateRoutes_of_unregistered named.2 isFile text same
    rw [run]
    exact ⟨[table], by simpa using member, patched⟩

theorem patchesIndex_makeTableFiles (named : IsNamed table) :
    Respects (PatchesIndex root tables) (makeTableFiles root directory table) :=
  respects_makeTableFiles (chains_patchesIndex root tables) fun _ careful =>
    patchesIndex_writeFile_skip named careful

theorem patchesIndex_generateTable (named : IsNamed table) (member : table ∈ tables) :
    Respects (PatchesIndex root tables) (generateTable root directory table) := by
  have chains := chains_patchesIndex root tables
  refine Respects.bind chains ((readsOnly_requireTemplates _).respects chains) fun _ => ?_
  refine Respects.bind chains (patchesIndex_makeTableFiles named) fun files => ?_
  exact Respects.bind chains (patchesIndex_updateRoutes named member) fun registered =>
    Respects.pure chains _

theorem patchesIndex_writeDocuments {config : Config} (schema : Schema) (name : String) :
    Respects (PatchesIndex config.projectRoot tables) (writeDocuments config schema name) := by
  refine respects_writeDocuments (chains_patchesIndex _ tables)
    (fun path document text disk => ?_) schema name
  have touched := respects_writeFile_overwrite (join config.projectRoot path) text disk
  refine PatchesIndex.of_file? touched.grows (touched.file?_of_ne ?_)
  exact destination_shared_ne (by simp [sharedPaths]) (mem_sharedPaths_of_document document)
    (ne_routesIndex_of_document document).symm _ _

end Patching

section Tables

variable {root directory : String} {tables : List Table} {disk after : Disk}

/-- All tables are registered when they are generated, if the index is there. -/
theorem isRegistered_of_mapM (named : ∀ table ∈ tables, IsNamed table)
    (isFile : disk.isFile (join root routesIndex) = true) {outcomes : List TableOutcome}
    (generated : execute (tables.mapM (generateTable root directory)) disk =
      (.ok outcomes, after)) :
    ∀ table ∈ tables, IsRegistered root after table := by
  intro table member
  obtain ⟨before, outcome, last, early, own, late⟩ :=
    exists_execute_of_mem (chains_patchesIndex root tables)
      (fun other inside => patchesIndex_generateTable (named other inside) inside)
      generated member
  obtain ⟨-, middle, made, updated⟩ := execute_generateTable_eq_ok.1 own
  have files : PatchesIndex root tables before middle :=
    (patchesIndex_makeTableFiles (named table member)).of_execute made
  have index : PatchesIndex root tables middle last :=
    (patchesIndex_updateRoutes (named table member) member).of_execute updated
  have middleFile := files.1.isFile (early.1.isFile isFile)
  exact late.isRegistered (named table member) (index.1.isFile middleFile) fun _ =>
    registered_of_updateRoutes (named table member).2 middleFile updated

/-- All tables are registered if the index is there once the first one has its files. -/
theorem isRegistered_of_first {first : Table} {rest : List Table}
    (named : ∀ table ∈ first :: rest, IsNamed table) {files : List (String × WriteResult)}
    {middle : Disk}
    (made : execute (makeTableFiles root directory first) disk = (.ok files, middle))
    (isFile : middle.isFile (join root routesIndex) = true) {outcomes : List TableOutcome}
    (generated : execute ((first :: rest).mapM (generateTable root directory)) disk =
      (.ok outcomes, after)) :
    ∀ table ∈ first :: rest, IsRegistered root after table := by
  obtain ⟨outcome, others, next, own, later, -⟩ := execute_mapM_cons_eq_ok.1 generated
  obtain ⟨-, other, again, updated⟩ := execute_generateTable_eq_ok.1 own
  obtain rfl : middle = other := (Prod.mk.inj (made.symm.trans again)).2
  obtain ⟨firstNamed, restNamed⟩ := List.forall_mem_cons.1 named
  have index : PatchesIndex root (first :: rest) middle next :=
    (patchesIndex_updateRoutes firstNamed List.mem_cons_self).of_execute updated
  have restPatches : PatchesIndex root rest next after :=
    (Respects.mapM (chains_patchesIndex root rest) fun table member =>
      patchesIndex_generateTable (restNamed table member) member).of_execute later
  have nextFile := index.1.isFile isFile
  refine List.forall_mem_cons.2 ⟨?_, isRegistered_of_mapM restNamed nextFile later⟩
  exact restPatches.isRegistered firstNamed nextFile fun _ =>
    registered_of_updateRoutes firstNamed.2 isFile updated

end Tables

end Project
end SchemaScaffold
