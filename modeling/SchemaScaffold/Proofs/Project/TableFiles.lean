import SchemaScaffold.Proofs.Disk.Twins
import SchemaScaffold.Proofs.Project.History
import SchemaScaffold.Proofs.Project.Success

/-!
# Files of tables

A full run in an empty project makes the four files of every table. Tables whose entities have
one name in code share all but the routes, and the first of them decides what is in the shared
files: a place stays empty until the first table comes that has its file there, and then the
file stays as it is.
-/

namespace SchemaScaffold
namespace Project

open Disk (Grows)
open Disk.Path (IsInside join names)

/-- A project is still empty: its root is reached without detours, and nothing is in it. -/
structure IsClear (disk : Disk) (root : String) : Prop where
  direct : disk.Direct root
  empty : ∀ place, disk.destination root <+: place → place ≠ disk.destination root →
    disk.node? place = none

/-- A project is empty if no node of the disk is in it. -/
theorem isClear_of_nodes {disk : Disk} {root : String} (direct : disk.Direct root)
    (outside : ∀ entry ∈ disk.nodes, disk.destination root <+: entry.1 →
      entry.1 = disk.destination root) : IsClear disk root where
  direct := direct
  empty place below apart := by
    have inside : place ≠ [] := by
      rintro rfl
      exact apart (List.prefix_nil.1 below).symm
    rw [Disk.node?, if_neg inside, List.lookup_eq_none_iff]
    intro entry member
    simp only [bne_iff_ne, ne_eq]
    rintro rfl
    exact apart (outside entry member below)

theorem IsClear.node?_eq_none {disk : Disk} {root path : String} (clear : IsClear disk root)
    (inside : IsInside path) (further : names path ≠ []) :
    disk.node? (disk.destination (join root path)) = none := by
  rw [inside.destination_join]
  exact clear.empty _ (List.prefix_append _ _) (by simpa using further)

/-- A disk grows, and if the project is reached without detours and nothing stands at the place
of a path, the place stays empty. -/
def KeepsEmpty (root path : String) (before after : Disk) : Prop :=
  Grows before after ∧
    (before.Direct root → before.node? (before.destination (join root path)) = none →
      after.node? (before.destination (join root path)) = none)

theorem chains_keepsEmpty (root path : String) : Chains (KeepsEmpty root path) where
  refl disk := ⟨Grows.refl disk, fun _ empty => empty⟩
  trans first second := by
    refine ⟨first.1.trans second.1, fun direct empty => ?_⟩
    have middleEmpty := first.2 direct empty
    rw [← first.1.destination] at middleEmpty ⊢
    exact second.2 (direct.grows first.1) middleEmpty

/-- A place stays empty while a file is written that is not below it. -/
theorem Touched.keepsEmpty {root path other text : String} {before after : Disk}
    (inside : IsInside path) (further : names path ≠ []) (otherInside : IsInside other)
    (apart : ¬ names path <+: names other)
    (touched : Touched (join root other) text before after) :
    KeepsEmpty root path before after := by
  refine ⟨touched.grows, fun direct empty => ?_⟩
  rw [touched.node?_eq direct inside further otherInside apart, empty]

/-- The way of a run to a path: only outputs change, a tree stays one, and the place of the path
stays empty. -/
def Approaches (root path : String) (paths : List String) (before after : Disk) : Prop :=
  ChangesOnly root paths before after ∧ KeepsTree before after ∧ KeepsEmpty root path before after

theorem chains_approaches (root path : String) (paths : List String) :
    Chains (Approaches root path paths) :=
  (chains_changesOnly root paths).and (chains_keepsTree.and (chains_keepsEmpty root path))

section Tables

variable {table : Table} {file : TemplateFile}

/-- The file of a table is not in the way of a file that is made at another path. -/
theorem not_prefix_carefulPaths (named : IsNamed table) (member : file ∈ tableTemplates)
    {other : Table} (otherNamed : IsNamed other) {path : String}
    (careful : path ∈ carefulPaths other) (apart : tablePath table file ≠ path) :
    ¬ names (tablePath table file) <+: names path := by
  intro below
  rcases List.mem_append.1 careful with own | pool
  · obtain ⟨template, isTemplate, rfl⟩ := List.mem_map.1 own
    have same := below.eq_of_length (by
      rw [length_names_tablePath named member, length_names_tablePath otherNamed isTemplate])
    rw [names_tablePath_eq_iff named otherNamed member isTemplate] at same
    exact apart ((tablePath_eq_iff named otherNamed member isTemplate).2 same)
  · obtain rfl := List.mem_singleton.1 pool
    have same := below.eq_of_length (by
      rw [length_names_tablePath named member]
      decide)
    have index := (names_tablePath_shared named member List.mem_cons_self same).1
    exact absurd index (by decide)

/-- No run replaces files at the place of a table's file, unless it is the routes index. -/
theorem isSpared_tablePath (named : IsNamed table) (member : file ∈ tableTemplates)
    (own : file = routesTemplate → table.name ≠ "index") (root : String) (disk : Disk) :
    IsSpared root disk (disk.destination (join root (tablePath table file))) := by
  intro path rewritten same
  have shared : path ∈ sharedPaths := List.mem_cons_of_mem _ rewritten
  rw [(isInside_tablePath named member).destination_join,
    (isInside_of_mem_sharedPaths path shared).destination_join] at same
  obtain ⟨-, routes, index⟩ :=
    names_tablePath_shared named member shared (List.append_cancel_left same)
  exact own routes index

end Tables

section Approach

variable {schema : Schema} {table other : Table} {file : TemplateFile}
  (named : ∀ table ∈ schema.tables, IsNamed table) (tableMember : table ∈ schema.tables)
  (member : file ∈ tableTemplates) (otherMember : other ∈ schema.tables)

include named tableMember member otherMember

theorem approaches_careful {path : String} (careful : path ∈ carefulPaths other)
    (apart : tablePath table file ≠ path) (root text : String) :
    Respects (Approaches root (tablePath table file) (outputs schema))
      (writeFile (join root path) text .skip) := by
  intro disk
  have touched := respects_writeFile_skip (join root path) text disk
  refine ⟨touched.changesOnly (mem_outputs_of_careful otherMember careful),
    keepsTree_writeFile_skip _ _ disk, touched.keepsEmpty ?_ ?_ ?_ ?_⟩
  · exact isInside_tablePath (named table tableMember) member
  · exact names_tablePath_ne_nil (named table tableMember) member
  · exact isInside_of_mem_carefulPaths (named other otherMember) path careful
  · exact not_prefix_carefulPaths (named table tableMember) member (named other otherMember)
      careful apart

omit otherMember in
/-- An index that is there may be changed: where the file of the table is the index, nothing is
empty any more. -/
theorem approaches_overwrite (root : String) (disk : Disk)
    (isFile : disk.isFile (join root routesIndex) = true) (text : String) :
    Approaches root (tablePath table file) (outputs schema) disk
      (execute (overwrite (join root routesIndex) text) disk).2 := by
  have shared : routesIndex ∈ sharedPaths := by simp [sharedPaths]
  have inside := isInside_tablePath (named table tableMember) member
  have indexInside := isInside_of_mem_sharedPaths _ shared
  have touched := respects_overwrite (join root routesIndex) text disk
  refine ⟨touched.changesOnly (List.mem_append_right _ shared), keepsTree_overwrite _ _ disk, ?_⟩
  by_cases same : names (tablePath table file) = names routesIndex
  · refine ⟨touched.grows, fun _ empty => ?_⟩
    rw [inside.destination_join, same, ← indexInside.destination_join] at empty
    exact absurd empty (indexInside.node?_of_hasEntry (by decide) (by simp [Disk.hasEntry, isFile]))
  · refine touched.keepsEmpty inside
      (names_tablePath_ne_nil (named table tableMember) member) indexInside fun below => ?_
    refine same (below.eq_of_length ?_)
    rw [length_names_tablePath (named table tableMember) member]
    decide

/-- A table that has another file of a kind leaves the place of a table's file empty. -/
theorem approaches_generateTable (apart : tablePath other file ≠ tablePath table file)
    (root directory : String) :
    Respects (Approaches root (tablePath table file) (outputs schema))
      (generateTable root directory other) := by
  refine respects_generateTable (chains_approaches _ _ _) (fun path careful text => ?_)
    (approaches_overwrite named tableMember member root)
  refine approaches_careful named tableMember member otherMember careful ?_ root text
  rintro rfl
  rcases List.mem_append.1 careful with isOwn | pool
  · obtain ⟨template, isTemplate, same⟩ := List.mem_map.1 isOwn
    obtain ⟨rfl, -⟩ := (tablePath_eq_iff (named other otherMember) (named table tableMember)
      isTemplate member).1 same
    exact apart same
  · have shared := (names_tablePath_shared (named table tableMember) member List.mem_cons_self
      (congrArg names (List.mem_singleton.1 pool))).1
    exact absurd shared (by decide)

omit otherMember in
/-- The other files of a table leave the place of its file empty. -/
theorem approaches_makeFile {template : TemplateFile} (isTemplate : template ∈ tableTemplates)
    (apart : template ≠ file) (root directory : String) :
    Respects (Approaches root (tablePath table file) (outputs schema))
      (makeFile root directory (Template.entityTokens table.entityNames) template) := by
  refine respects_makeFile (chains_approaches _ _ _) fun text => ?_
  refine approaches_careful named tableMember member tableMember
    (List.mem_append_left _ (List.mem_map_of_mem isTemplate)) (fun same => ?_) root text
  exact apart ((tablePath_eq_iff (named table tableMember) (named table tableMember) member
    isTemplate).1 same).1.symm

end Approach

section Keeping

variable {root directory : String} {place : Location} {table : Table}

theorem keepsFile_makeFile (named : IsNamed table) {file : TemplateFile}
    (member : file ∈ tableTemplates) : Respects (KeepsFile root place)
      (makeFile root directory (Template.entityTokens table.entityNames) file) :=
  respects_makeFile (chains_keepsFile root place) fun text =>
    keepsFile_writeFile_skip (isInside_tablePath named member) text

theorem keepsFile_generateTable (named : IsNamed table) :
    Respects (KeepsFile root place) (generateTable root directory table) :=
  respects_generateTable (chains_keepsFile root place)
    (fun path careful => keepsFile_writeFile_skip (isInside_of_mem_carefulPaths named path careful))
    fun disk _ text => keepsFile_overwrite text disk

/-- What is read at a path is read again where its file is kept. -/
theorem KeepsFile.read {path : String} {before after : Disk}
    (keeps : KeepsFile root (before.destination (join root path)) before after)
    (isFile : before.isFile (join root path) = true) (tree : before.IsTree)
    (direct : before.Direct root)
    (spared : IsSpared root before (before.destination (join root path))) :
    after.read (join root path) = before.read (join root path) := by
  obtain ⟨content, standing, given⟩ := Disk.read_of_isFile isFile
  exact keeps.grows.read isFile
    (by rw [keeps.file tree direct spared content standing, standing])

/-- Where there is nothing, the file of a table is made from its template. -/
theorem read_of_makeFile {disk after : Disk} {directory : String} {file : TemplateFile}
    (missing : ¬ disk.hasEntry (join root (tablePath table file)) = true)
    {result : String × WriteResult}
    (made : execute (makeFile root directory (Template.entityTokens table.entityNames) file)
      disk = (.ok result, after)) :
    ∃ template, textAt disk (join directory file.template) = .ok template ∧
      after.isFile (join root (tablePath table file)) = true ∧
      after.read (join root (tablePath table file)) = .ok (Template.render template
        (Template.entityTokens table.entityNames)).toUTF8 := by
  obtain ⟨template, outcome, text, written, -⟩ := execute_makeFile_table_eq_ok.1 made
  rw [execute_writeFile_skip, if_neg missing] at written
  exact ⟨template, text, read_of_put written⟩

end Keeping

/-! ## The files of all tables -/

/-- The first table that has its file of a kind at the same path as a table. -/
def firstWithPath (schema : Schema) (table : Table) (file : TemplateFile) : Option Table :=
  schema.tables.find? fun other => tablePath other file = tablePath table file

theorem exists_firstWithPath {schema : Schema} {table : Table} (member : table ∈ schema.tables)
    (file : TemplateFile) : ∃ owner, firstWithPath schema table file = some owner := by
  rw [← Option.isSome_iff_exists, firstWithPath, List.find?_isSome]
  exact ⟨table, member, by simp⟩

/-- The tables in front of the first one with a path have other paths. -/
theorem firstWithPath_eq_some {schema : Schema} {table owner : Table} {file : TemplateFile}
    (found : firstWithPath schema table file = some owner) :
    tablePath owner file = tablePath table file ∧
      ∃ front back, schema.tables = front ++ owner :: back ∧
        ∀ other ∈ front, tablePath other file ≠ tablePath owner file := by
  obtain ⟨samePath, front, back, shape, apart⟩ := List.find?_eq_some_iff_append.1 found
  have samePath : tablePath owner file = tablePath table file := by simpa using samePath
  refine ⟨samePath, front, back, shape, fun other inFront => ?_⟩
  rw [samePath]
  simpa using apart other inFront

/-- The templates for tables in front of one of them are other templates. -/
theorem exists_split_tableTemplates {file : TemplateFile} (member : file ∈ tableTemplates) :
    ∃ before behind, tableTemplates = before ++ file :: behind ∧
      ∀ other ∈ before, other ∈ tableTemplates ∧ other ≠ file := by
  obtain ⟨before, behind, files⟩ := List.append_of_mem member
  have nodup : (before ++ file :: behind).Nodup := by
    rw [← files]
    decide
  refine ⟨before, behind, files, fun other inBefore => ⟨?_, ?_⟩⟩
  · simp [files, inBefore]
  · exact (List.nodup_append.1 nodup).2.2 other inBefore file List.mem_cons_self

section First

variable {run : FullRun} {disk after : Disk} {schema : Schema} {name : String}
  {summary : Summary} {front back : List Table} {owner : Table} {file : TemplateFile}
  (prepared : run.Prepared disk schema name)
  (produced : execute (run.produce schema name) disk = (.ok summary, after))
  (shape : schema.tables = front ++ owner :: back)

include prepared produced shape

/-- When the file of a table has been made, the rest of a run keeps files. -/
theorem exists_made (place : Location) {early : Disk → Disk → Prop} (chains : Chains early)
    {before behind : List TemplateFile} (files : tableTemplates = before ++ file :: behind)
    (frontEarly : ∀ other ∈ front, Respects early (generateTable run.root run.templates other))
    (beforeEarly : ∀ other ∈ before, Respects early
      (makeFile run.root run.templates (Template.entityTokens owner.entityNames) other)) :
    ∃ middle result last, early disk middle ∧
      execute (makeFile run.root run.templates (Template.entityTokens owner.entityNames) file)
        middle = (.ok result, last) ∧ KeepsFile run.root place last after := by
  have named := prepared.isNamed
  have ownerNamed := named owner (by simp [shape])
  have keeps := chains_keepsFile run.root place
  exact FullRun.exists_execute_makeFile chains keeps shape files frontEarly beforeEarly
    (fun other inBehind => keepsFile_makeFile ownerNamed (by simp [files, inBehind]))
    (respects_pool keeps (keepsFile_writeFile_skip
      (isInside_of_mem_sharedPaths _ List.mem_cons_self)))
    (respects_updateRoutes keeps (fun disk _ text => keepsFile_overwrite text disk) _)
    (fun other inBack => keepsFile_generateTable (named other (by simp [shape, inBack])))
    (respects_writeDocuments keeps
      (fun path document text => keepsFile_writeFile_overwrite document text) schema name)
    produced

/-- A run starts with the controller of the first table. When that has been made the project is
reached without detours, and the rest of the run keeps files. -/
theorem exists_controller_made (first : front = []) (tree : disk.IsTree) (place : Location) :
    ∃ result last,
      execute (makeFile run.root run.templates (Template.entityTokens owner.entityNames)
        controllerTemplate) disk = (.ok result, last) ∧
      last.IsTree ∧ last.Direct run.root ∧ KeepsFile run.root place last after := by
  subst first
  have named := prepared.isNamed owner (by simp [shape])
  have isTemplate : controllerTemplate ∈ tableTemplates := List.mem_cons_self
  have files : tableTemplates = [] ++ controllerTemplate :: tableTemplates.tail := rfl
  obtain ⟨_, result, last, rfl, made, keeps⟩ :=
    exists_made prepared produced shape place chains_eq files (by simp) (by simp)
  obtain ⟨_, _, -, written, -⟩ := execute_makeFile_table_eq_ok.1 made
  have stillTree := (keepsTree_writeFile_skip _ _).of_execute written tree
  have direct := Disk.direct_of_hasEntry stillTree (isInside_tablePath named isTemplate)
    (names_tablePath_ne_nil named isTemplate) (hasEntry_of_writeFile written)
  exact ⟨result, last, made, stillTree, direct, keeps⟩

/-- Behind a detour the controller of the first table is not seen, and is made from its template. -/
theorem read_of_detour (first : front = []) (tree : disk.IsTree) (detour : ¬ disk.Direct run.root) :
    ∃ template, textAt disk (join run.templates controllerTemplate.template) = .ok template ∧
      after.isFile (join run.root (tablePath owner controllerTemplate)) = true ∧
      after.read (join run.root (tablePath owner controllerTemplate)) =
        .ok (Template.render template (Template.entityTokens owner.entityNames)).toUTF8 := by
  have named := prepared.isNamed owner (by simp [shape])
  have isTemplate : controllerTemplate ∈ tableTemplates := List.mem_cons_self
  obtain ⟨result, last, made, stillTree, direct, keeps⟩ :=
    exists_controller_made prepared produced shape first tree
      (disk.destination (join run.root (tablePath owner controllerTemplate)))
  obtain ⟨template, given, there, content⟩ := read_of_makeFile (fun found => detour
    (Disk.direct_of_hasEntry tree (isInside_tablePath named isTemplate)
      (names_tablePath_ne_nil named isTemplate) found)) made
  have grows : Grows disk last := (grows_makeFile _ _ _ _).of_execute made
  rw [← grows.destination] at keeps
  exact ⟨template, given, keeps.grows.isFile there, (keeps.read there stillTree direct
    (isSpared_tablePath named isTemplate (by simp [controllerTemplate, routesTemplate]) _ _)).trans
      content⟩

variable (member : file ∈ tableTemplates)
  (apart : ∀ other ∈ front, tablePath other file ≠ tablePath owner file)

include member apart

/-- The place of a table's file is empty until the first table with the path makes the file, and
the rest of the run leaves it alone. -/
theorem exists_first_made : ∃ middle result last,
    Approaches run.root (tablePath owner file) (outputs schema) disk middle ∧
      execute (makeFile run.root run.templates (Template.entityTokens owner.entityNames) file)
        middle = (.ok result, last) ∧
      KeepsFile run.root (disk.destination (join run.root (tablePath owner file))) last after := by
  have named := prepared.isNamed
  have ownerMember : owner ∈ schema.tables := by simp [shape]
  obtain ⟨before, behind, files, others⟩ := exists_split_tableTemplates member
  exact exists_made prepared produced shape _
    (chains_approaches run.root (tablePath owner file) (outputs schema)) files
    (fun other inFront => approaches_generateTable named ownerMember member
      (by simp [shape, inFront]) (apart other inFront) _ _)
    (fun other inBefore => approaches_makeFile named ownerMember member
      (others other inBefore).1 (others other inBefore).2 _ _)

/-- In an empty project the file of a table is made for the first table with the path, and it is
as it was made after the run unless it is the routes index. -/
theorem file_of_first (tree : disk.IsTree) (clear : IsClear disk run.root) :
    after.isFile (join run.root (tablePath owner file)) = true ∧
      ((file = routesTemplate → owner.name ≠ "index") →
        ∃ template, textAt disk (join run.templates file.template) = .ok template ∧
          after.read (join run.root (tablePath owner file)) = .ok (Template.render template
            (Template.entityTokens owner.entityNames)).toUTF8) := by
  have named := prepared.isNamed owner (by simp [shape])
  have inside := isInside_tablePath named member
  have further := names_tablePath_ne_nil named member
  have isTemplate : file ∈ tableTemplates ++ [poolTemplate] := List.mem_append_left _ member
  obtain ⟨middle, result, last, ⟨changes, keepsTree, grows, keepsEmpty⟩, made, keeps⟩ :=
    exists_first_made prepared produced shape member apart
  have empty : middle.node? (middle.destination (join run.root (tablePath owner file))) = none := by
    rw [grows.destination]
    exact keepsEmpty clear.direct (clear.node?_eq_none inside further)
  obtain ⟨template, given, there, content⟩ :=
    read_of_makeFile (fun found => inside.node?_of_hasEntry further found empty) made
  rw [changes.textAt_eq (prepared.templates file isTemplate) fun path output =>
    destination_template_ne prepared.isNamed output isTemplate _ _ _] at given
  refine ⟨keeps.grows.isFile there, fun own => ⟨template, given, ?_⟩⟩
  have making : KeepsFile run.root (disk.destination (join run.root (tablePath owner file)))
      middle last := (keepsFile_makeFile named member).of_execute made
  have larger : Grows disk last := grows.trans making.grows
  rw [← larger.destination] at keeps
  rw [keeps.read there (making.tree (keepsTree tree)) (clear.direct.grows larger)
    (isSpared_tablePath named member own _ _), content]

end First

/-- After a successful run in an empty project every table has its four files. They hold the
templates rendered for the first table with the same path, but for the routes of a table that
is named like the index. Tables share a file exactly if it is of one kind and the word that
tells tables apart is the same: the name of the table for routes, and the small name of the
entity for the others. -/
theorem tables_have_files {run : FullRun} {disk after : Disk} {summary : Summary}
    (tree : disk.IsTree) (clear : IsClear disk run.root)
    (succeeded : execute run.program disk = (.ok summary, after)) :
    ∃ schema name, run.Prepared disk schema name ∧
      (∀ table ∈ schema.tables, ∀ file ∈ tableTemplates,
        after.isFile (join run.root (tablePath table file)) = true ∧
          ((file = routesTemplate → table.name ≠ "index") →
            ∃ owner template, firstWithPath schema table file = some owner ∧
              textAt disk (join run.templates file.template) = .ok template ∧
              after.read (join run.root (tablePath table file)) = .ok (Template.render template
                (Template.entityTokens owner.entityNames)).toUTF8)) ∧
      ∀ table ∈ schema.tables, ∀ other ∈ schema.tables,
        ∀ file ∈ tableTemplates, ∀ otherFile ∈ tableTemplates,
          (tablePath table file = tablePath other otherFile ↔
            file = otherFile ∧ file.word table = file.word other) := by
  obtain ⟨schema, name, prepared, produced⟩ := FullRun.execute_program_eq_ok.1 succeeded
  have named := prepared.isNamed
  refine ⟨schema, name, prepared, fun table tableMember file member => ?_,
    fun table tableMember other otherMember file member otherFile otherFileMember =>
      tablePath_eq_iff (named table tableMember) (named other otherMember) member otherFileMember⟩
  obtain ⟨owner, found⟩ := exists_firstWithPath tableMember file
  obtain ⟨samePath, front, back, shape, apart⟩ := firstWithPath_eq_some found
  obtain ⟨isFile, content⟩ := file_of_first prepared produced shape member apart tree clear
  rw [← samePath]
  refine ⟨isFile, fun own => ?_⟩
  have ownerOwn : file = routesTemplate → owner.name ≠ "index" := by
    rintro rfl
    have words := ((tablePath_eq_iff (named owner (by simp [shape])) (named table tableMember)
      member member).1 samePath).2
    simp only [TemplateFile.word, if_true] at words
    rw [words]
    exact own rfl
  obtain ⟨template, given, read⟩ := content ownerOwn
  exact ⟨owner, template, found, given, read⟩

/-- The text of a schema with two tables whose entities have one name. -/
def sharingSql : String :=
  String.join ["CREATE DATABASE shop; CREATE TABLE indexs (id INT) ENGINE=InnoDB; ",
    "CREATE TABLE `index` (id INT) ENGINE=InnoDB;"]

/-- The schema of the text. -/
def sharingSchema : Schema where
  database := some "shop"
  tables := [⟨"indexs", [.ofDefinition "id" "INT"]⟩, ⟨"index", [.ofDefinition "id" "INT"]⟩]

theorem parse_sharingSql : Sql.parse sharingSql = sharingSchema := by
  rw [Sql.parse_eq, sharingSql, String.toList_join]
  simp only [List.flatMap_cons, List.flatMap_nil]
  repeat rw [String.toList_ofList]
  decide

theorem isAllBlank_sharingSql : Text.isAllBlank sharingSql.toList = false := by
  rw [sharingSql, String.toList_join, List.flatMap_cons, String.toList_ofList]
  decide

/-- The tables of the text have short names. -/
theorem short_sharingSql : ∀ table ∈ (Sql.parse sharingSql).tables, ∀ place ∈ tablePlaces,
    (place.name table).utf8ByteSize ≤ Disk.maxNameSize := by
  rw [parse_sharingSql]
  decide

/-- An empty working directory, beside a schema and the templates for tables. -/
def sharingDisk : Disk where
  workingDirectory := ["out"]
  nodes := [(["out"], .directory), (["tpl"], .directory),
      (["schema.sql"], .file sharingSql.toUTF8)] ++
    (tableTemplates ++ [poolTemplate]).map fun file =>
      (["tpl", file.template], .file "\x7b\x7btable\x7d\x7d".toUTF8)

/-- A run for the schema in the empty directory. -/
def sharingRun : FullRun where
  config := { projectRoot := ".", templatesDir := "/tpl" }
  sqlPath := some "/schema.sql"
  database := none
  answer := .error .noSuchEntry

theorem isTree_sharingDisk : sharingDisk.IsTree := by
  decide

theorem isClear_sharingDisk : IsClear sharingDisk sharingRun.root :=
  isClear_of_nodes (by decide) (by decide)

theorem tableNames_sharingSql : (Sql.parse sharingSql).tableNames = ["indexs", "index"] := by
  rw [parse_sharingSql]
  rfl

theorem prepared_sharingRun : sharingRun.Prepared sharingDisk (Sql.parse sharingSql) "shop" where
  input := by decide +kernel
  directory := by decide +kernel
  text := ⟨sharingSql, textAt_of_read (by rfl), isAllBlank_sharingSql, rfl⟩
  tables := by
    rw [parse_sharingSql]
    rfl
  named := by
    rw [parse_sharingSql]
    decide +kernel
  templates := by decide +kernel

theorem textAt_sharingDisk : ∀ file ∈ tableTemplates ++ [poolTemplate],
    textAt sharingDisk (join sharingRun.templates file.template) =
      .ok "\x7b\x7btable\x7d\x7d" := by
  decide

theorem isRunnable_sharingRun :
    sharingRun.IsRunnable sharingDisk (Sql.parse sharingSql) "shop" :=
  .of_short prepared_sharingRun (by decide) (by decide) short_sharingSql
    (fun _ output => destination_beside_ne prepared_sharingRun.isNamed output (by decide))
    (fun file isTemplate => ⟨_, textAt_sharingDisk file isTemplate⟩) Postman.isOk_parse_baseUrl

theorem exists_execute_sharingRun : ∃ summary after,
    execute sharingRun.program sharingDisk = (.ok summary, after) := by
  have vacant : sharingDisk.IsVacant sharingRun.root :=
    Disk.isVacant_of_nodes (by decide) (by decide)
  obtain ⟨summary, after, run, -⟩ := isRunnable_sharingRun.succeeds_program sharingDisk
    (opens_of_isVacant vacant isRunnable_sharingRun.apart)
  exact ⟨summary, after, run⟩

/-- The controller that both tables share is that of the first one. -/
theorem execute_sharingRun : (execute sharingRun.program sharingDisk).2.file?
    ["out", "src", "controllers", "indexController.js"] = some "indexs".toUTF8 := by
  obtain ⟨summary, after, run⟩ := exists_execute_sharingRun
  obtain ⟨schema, name, prepared, produced⟩ := FullRun.execute_program_eq_ok.1 run
  obtain ⟨rfl, -⟩ := prepared.unique prepared_sharingRun
  obtain ⟨owner, back, shape, named, -⟩ := List.map_eq_cons_iff.1 tableNames_sharingSql
  have isTemplate : controllerTemplate ∈ tableTemplates := List.mem_cons_self
  have noFront : ∀ other ∈ ([] : List Table),
      tablePath other controllerTemplate ≠ tablePath owner controllerTemplate := by simp
  obtain ⟨isFile, content⟩ := file_of_first prepared produced shape isTemplate noFront
    isTree_sharingDisk isClear_sharingDisk
  obtain ⟨template, given, read⟩ := content (by simp [controllerTemplate, routesTemplate])
  rw [textAt_sharingDisk controllerTemplate (List.mem_append_left _ isTemplate)] at given
  obtain rfl := Except.ok.inj given
  obtain ⟨bytes, found, same⟩ := Disk.read_of_isFile isFile
  obtain rfl := Except.ok.inj (same.symm.trans read)
  have place : sharingDisk.destination (join sharingRun.root (tablePath owner controllerTemplate)) =
      ["out", "src", "controllers", "indexController.js"] := by
    rw [tablePath, Table.entityNames, named]
    decide
  have rendered : Template.render "\x7b\x7btable\x7d\x7d"
      (Template.entityTokens owner.entityNames) = "indexs" := by
    rw [Table.entityNames, named]
    decide
  have grows : Grows sharingDisk after :=
    (sharingRun.grows_produce _ name).of_execute produced
  rw [grows.destination, place, rendered] at found
  rw [run]
  exact found

/-- Both tables of the schema have their files, and routes of their own. -/
theorem sharingRun_has_files : sharingDisk.IsTree ∧ IsClear sharingDisk sharingRun.root ∧
    ∃ summary after, execute sharingRun.program sharingDisk = (.ok summary, after) ∧
      ∃ schema name, sharingRun.Prepared sharingDisk schema name ∧
        ∀ table ∈ schema.tables, ∀ file ∈ tableTemplates,
          after.isFile (join sharingRun.root (tablePath table file)) = true := by
  obtain ⟨summary, after, run⟩ := exists_execute_sharingRun
  obtain ⟨schema, name, prepared, files, -⟩ :=
    tables_have_files isTree_sharingDisk isClear_sharingDisk run
  exact ⟨isTree_sharingDisk, isClear_sharingDisk, summary, after, run, schema, name, prepared,
    fun table member file isTemplate => (files table member file isTemplate).1⟩

/-- The second table of the schema has the controller of the first one. -/
theorem sharingRun_shares_controller : IsClear sharingDisk sharingRun.root ∧
    ∃ summary after, execute sharingRun.program sharingDisk = (.ok summary, after) ∧
      ¬ ∀ table ∈ (Sql.parse sharingSql).tables, ∀ file ∈ tableTemplates,
        ∀ template, textAt sharingDisk (join sharingRun.templates file.template) = .ok template →
          after.file? (sharingDisk.destination (join sharingRun.root (tablePath table file))) =
            some (Template.render template (Template.entityTokens table.entityNames)).toUTF8 := by
  obtain ⟨summary, after, run⟩ := exists_execute_sharingRun
  refine ⟨isClear_sharingDisk, summary, after, run, fun all => ?_⟩
  have second : "index" ∈ (Sql.parse sharingSql).tableNames := by simp [tableNames_sharingSql]
  obtain ⟨table, member, name⟩ := List.mem_map.1 second
  have own := all table member controllerTemplate List.mem_cons_self "\x7b\x7btable\x7d\x7d"
    (by decide)
  have place : sharingDisk.destination (join sharingRun.root (tablePath table controllerTemplate)) =
      ["out", "src", "controllers", "indexController.js"] := by
    rw [tablePath, Table.entityNames, name]
    decide
  have foreign := execute_sharingRun
  rw [run, ← place, own, Table.entityNames, name] at foreign
  revert foreign
  decide

end Project
end SchemaScaffold
