import SchemaScaffold.Proofs.Artifact.Agreement
import SchemaScaffold.Proofs.Disk.Admission
import SchemaScaffold.Proofs.Project.Relocation
import SchemaScaffold.Proofs.Project.Steps

/-!
# Runs that succeed

A run succeeds if its inputs can be read, its collection of requests can be made, and its root
admits the files that it writes. Each part of a run leaves a disk on which the next part succeeds
as well.
-/

namespace SchemaScaffold
namespace Project

open Disk (Admits Grows IsPut)
open Disk.Path (AreApart Fits join names)

/-- On all disks of a kind a program succeeds, and leaves a disk of the kind. -/
def Succeeds {α : Type} (kind : Disk → Prop) (program : Run (StateM Disk) α) : Prop :=
  ∀ disk, kind disk → ∃ a after, execute program disk = (.ok a, after) ∧ kind after

namespace Succeeds

variable {α β : Type} {kind : Disk → Prop}

theorem pure (a : α) : Succeeds kind (Pure.pure a) :=
  fun disk holds => ⟨a, disk, rfl, holds⟩

theorem bind {program : Run (StateM Disk) α} {next : α → Run (StateM Disk) β}
    (first : Succeeds kind program) (later : ∀ a, Succeeds kind (next a)) :
    Succeeds kind (program >>= next) := by
  intro disk holds
  obtain ⟨a, middle, run, stays⟩ := first disk holds
  obtain ⟨b, after, rest, last⟩ := later a middle stays
  exact ⟨b, after, execute_bind_eq_ok.2 ⟨a, middle, run, rest⟩, last⟩

theorem mapM {program : α → Run (StateM Disk) β} {list : List α}
    (each : ∀ a ∈ list, Succeeds kind (program a)) : Succeeds kind (list.mapM program) := by
  induction list with
  | nil => exact pure []
  | cons a list ih =>
    obtain ⟨first, others⟩ := List.forall_mem_cons.1 each
    rw [List.mapM_cons]
    exact bind first fun b => bind (ih others) fun bs => pure (b :: bs)

end Succeeds

/-- A root admits files at some paths, only these have changed, and the routes index is a text if it
is there. -/
structure IsOpen (start : Disk) (root : String) (paths : List String) (disk : Disk) : Prop where
  admits : disk.Admits root paths
  changes : ChangesOnly root paths start disk
  readable : ∀ content,
    disk.node? (disk.destination root ++ names routesIndex) = some (.file content) →
      ∃ text, String.fromUTF8? content = some text

/-- A root that is open as soon as it is made. -/
structure Opens (start : Disk) (root : String) (paths : List String) (disk : Disk) : Prop where
  changes : ChangesOnly root paths start disk
  opened : ∃ made, disk.createDirectories root = (.ok (), made) ∧ IsOpen disk root paths made

/-- A text that is read at a path at which nothing is written. -/
def IsSource (start : Disk) (root : String) (paths : List String) (path : String) : Prop :=
  (∃ text, textAt start path = .ok text) ∧
    ∀ other ∈ paths, start.destination path ≠ start.destination (join root other)

section Open

variable {start : Disk} {root : String} {paths : List String} (apart : AreApart root paths)

/-- A root with its changes so far opens as it did. -/
theorem Opens.restart {disk : Disk} (opens : Opens start root paths disk) :
    Opens disk root paths disk :=
  ⟨(chains_changesOnly _ _).refl disk, opens.opened⟩

/-- A root opens if it admits files once it is made, and has no routes index that is no text. -/
theorem opens_of_admits {made : Disk} (created : start.createDirectories root = (.ok (), made))
    (admits : made.Admits root paths)
    (readable : ∀ content, made.node? (made.destination root ++ names routesIndex) =
      some (.file content) → ∃ text, String.fromUTF8? content = some text) :
    Opens start root paths start := by
  have furnished := Disk.createDirectories_furnished start root
  rw [created] at furnished
  have changes : ChangesOnly root paths start made :=
    ⟨furnished.grows, fun place _ => furnished.sameFiles place⟩
  exact ⟨(chains_changesOnly _ _).refl start, made, created, admits, changes, readable⟩

/-- A root opens if the nodes on the way to its paths are directories once it is made, those at its
paths are files, and there is no routes index. -/
theorem opens_of_nodes (apart : AreApart root paths)
    (created : (start.createDirectories root).1.isOk = true)
    (clear : ∀ entry ∈ (start.createDirectories root).2.nodes, ∀ path ∈ paths,
      entry.1 <+: start.destination root ++ names path →
        (entry.2 = .directory ↔ entry.1 ≠ start.destination root ++ names path))
    (noIndex : (start.createDirectories root).2.node?
      (start.destination root ++ names routesIndex) = none) :
    Opens start root paths start := by
  have furnished := Disk.createDirectories_furnished start root
  cases run : start.createDirectories root with
  | mk answer made =>
    rw [run] at created clear noIndex furnished
    have stays : made.destination root = start.destination root := furnished.grows.destination root
    rw [← stays] at clear noIndex
    cases answer with
    | error fault => simp [Except.isOk, Except.toBool] at created
    | ok value =>
      have again := Disk.createDirectories_again run (Disk.Grows.refl made)
      refine opens_of_admits run (Disk.admits_of_nodes (.inl again) apart clear)
        fun content standing => ?_
      simp [noIndex] at standing

/-- A vacant root opens. -/
theorem opens_of_isVacant (vacant : start.IsVacant root) (apart : AreApart root paths) :
    Opens start root paths start := by
  obtain ⟨made, created, empty⟩ := vacant
  have furnished := Disk.createDirectories_furnished start root
  rw [created] at furnished
  have stays : made.destination root = start.destination root := furnished.grows.destination root
  have again : made.IsVacant root :=
    ⟨made, Disk.createDirectories_again created (Disk.Grows.refl made), stays ▸ empty⟩
  refine opens_of_admits created (again.admits apart) fun content standing => ?_
  rw [again.node?_eq_none (by decide)] at standing
  simp at standing

section Writing

variable {path : String} (member : path ∈ paths)

include apart member

/-- A root is open after a file has been put at one of its paths. -/
theorem Opens.of_isPut {text : String} {disk made after : Disk}
    (opens : Opens start root paths disk) (opened : IsOpen disk root paths made)
    (isPut : IsPut root path text made after)
    (touched : Touched (join root path) text disk after) : Opens start root paths after := by
  refine ⟨(chains_changesOnly _ _).trans opens.changes (touched.changesOnly member), after,
    isPut.made, isPut.admits apart member opened.admits, (chains_changesOnly _ _).refl after,
    fun content standing => ?_⟩
  rw [isPut.destination] at standing
  rcases isPut.nodes (names routesIndex) (by decide) with old | ⟨-, file⟩ | ⟨-, -, directory⟩
  · rw [old] at standing
    exact opened.readable content standing
  · rw [file] at standing
    obtain rfl : text.toUTF8 = content := by simpa using standing
    exact ⟨text, Text.fromUTF8?_toUTF8 text⟩
  · simp [directory] at standing

theorem succeeds_put (text : String) :
    Succeeds (Opens start root paths) (put (join root path) text) := by
  intro disk opens
  obtain ⟨made, created, opened⟩ := opens.opened
  obtain ⟨parent, middle, after, found, nonempty, created, written, isPut⟩ :=
    opened.admits.exists_put apart member created text
  have makes : execute (createParent (join root path)) disk = (.ok (), middle) := by
    rw [execute_createParent_some found nonempty, created]
    rfl
  have run : execute (put (join root path) text) disk = (.ok .written, after) :=
    execute_put_eq_ok.2 ⟨rfl, middle, makes, written⟩
  exact ⟨.written, after, run,
    opens.of_isPut apart member opened isPut ((respects_put _ _).of_execute run)⟩

theorem succeeds_writeFile_skip (text : String) :
    Succeeds (Opens start root paths) (writeFile (join root path) text .skip) := by
  intro disk opens
  rw [execute_writeFile_skip]
  split
  · exact ⟨.skipped, disk, rfl, opens⟩
  · exact succeeds_put apart member text disk opens

theorem succeeds_writeDocument (text : String) :
    Succeeds (Opens start root paths) (writeDocument root path text) := by
  refine Succeeds.bind (fun disk opens => ?_) fun result => Succeeds.pure _
  rw [execute_writeFile_overwrite]
  exact succeeds_put apart member text disk opens

end Writing

theorem succeeds_requireTemplates {directory : String}
    (there : start.isDirectory directory = true) :
    Succeeds (Opens start root paths) (requireTemplates directory) := by
  intro disk opens
  refine ⟨(), disk, ?_, opens⟩
  rw [execute_requireTemplates, if_pos (opens.changes.1.isDirectory there)]

theorem succeeds_loadTemplate {directory name : String}
    (source : IsSource start root paths (join directory name)) :
    Succeeds (Opens start root paths) (loadTemplate directory name) := by
  intro disk opens
  obtain ⟨⟨text, given⟩, elsewhere⟩ := source
  refine ⟨text, disk, execute_loadTemplate_eq_ok.2 ⟨rfl, ?_⟩, opens⟩
  rw [opens.changes.textAt_eq (isFile_of_textAt given) elsewhere, given]

include apart in
/-- A table is registered in the index if that is there. -/
theorem succeeds_updateRoutes (member : routesIndex ∈ paths) (table : String) :
    Succeeds (Opens start root paths) (updateRoutes (join root routesIndex) table) := by
  intro disk opens
  rw [execute_updateRoutes]
  split
  · next isFile =>
    have entry := apart.entry routesIndex member
    -- A root with an index is there, so that nothing changes when it is made.
    obtain ⟨made, created, opened⟩ := opens.opened
    have standsMade := Disk.isMade_of_isFile created entry isFile
    obtain rfl : disk = made := (Prod.mk.inj (standsMade.symm.trans created)).2
    obtain ⟨bytes, standing, read⟩ := Disk.read_of_isFile isFile
    have node := Disk.file?_eq_some.1 standing
    obtain ⟨content, decoded⟩ :=
      opened.readable bytes (by rwa [entry.destination_join] at node)
    have text : textAt disk (join root routesIndex) = .ok content := by
      simp [textAt, read, decoded]
    rw [text]
    dsimp only
    split
    · exact ⟨false, disk, rfl, opens⟩
    · obtain ⟨after, written⟩ :=
        exists_write_of_isFile isFile (RoutesIndex.patch content table)
      rw [written]
      refine ⟨true, after, rfl, ?_⟩
      have overwritten : execute (overwrite (join root routesIndex)
          (RoutesIndex.patch content table)) disk = (.ok (), after) := by
        rw [execute_overwrite, written]
      have touched := (respects_overwrite _ _).of_execute overwritten
      refine opens.of_isPut apart member opened
        ⟨standsMade.grows touched.grows, touched.grows.destination root, ?_⟩ touched
      · intro inner strict
        obtain ⟨-, rfl⟩ := Disk.write_eq_ok.1 written
        rw [entry.destination_join]
        by_cases here : inner = names routesIndex
        · subst here
          exact .inr (.inl ⟨rfl, Disk.node?_set_self (by simp [strict]) _⟩)
        · exact .inl (Disk.node?_set_of_ne (by simpa using here) _)
  · exact ⟨false, disk, rfl, opens⟩

end Open

/-- The files of a project are admitted side by side by a root with room for them, unless a table
has too long a name. -/
theorem areApart_allPaths {schema : Schema} (named : ∀ table ∈ schema.tables, IsNamed table)
    {root : String} (nonempty : root ≠ "") (room : HasRoom root schema)
    (short : ∀ path ∈ outputs schema, ∀ name ∈ names path,
      name.utf8ByteSize ≤ Disk.maxNameSize) : AreApart root (allPaths schema) := by
  have known : ∀ path ∈ fixedPaths, path.utf8ByteSize ≤ postmanPath.utf8ByteSize ∧
      ∀ name ∈ names path, name.utf8ByteSize ≤ Disk.maxNameSize := by decide +kernel
  have shared : postmanPath ∈ sharedPaths := by simp [sharedPaths]
  have space := room postmanPath (List.mem_append_right _ shared) (known _
    (List.mem_append_left _ shared)).2
  rw [Disk.Path.utf8ByteSize_join
    (isEntry_of_mem_fixedPaths _ (List.mem_append_left _ shared)).relative] at space
  refine ⟨fun path output => ?_, fun path output => ?_, fun path output => ?_,
    fun path output other otherOutput => names_eq_of_isAbove named output otherOutput⟩
  all_goals rcases List.mem_append.1 output with own | frame
  · exact isEntry_of_mem_outputs named own
  · exact isEntry_of_mem_fixedPaths path (List.mem_append_right _ frame)
  · exact room.fits named own nonempty
  · have entry := isEntry_of_mem_fixedPaths path (List.mem_append_right _ frame)
    have size := (known path (List.mem_append_right _ frame)).1
    refine fits_of_room entry nonempty space (by omega) fun _ => ?_
    rw [Disk.Path.utf8ByteSize_join entry.relative]
    omega
  · exact short path own
  · exact (known path (List.mem_append_right _ frame)).2

/-- The outputs have short names if the files of tables have them. -/
theorem short_outputs {schema : Schema} (named : ∀ table ∈ schema.tables, IsNamed table)
    (short : ∀ table ∈ schema.tables, ∀ place ∈ tablePlaces,
      (place.name table).utf8ByteSize ≤ Disk.maxNameSize) :
    ∀ path ∈ outputs schema, ∀ name ∈ names path, name.utf8ByteSize ≤ Disk.maxNameSize := by
  have fixed : ∀ names ∈ fixedNames, ∀ name ∈ names, name.utf8ByteSize ≤ Disk.maxNameSize := by
    decide
  have folders : ∀ place ∈ tablePlaces, ∀ name ∈ names place.folder,
      name.utf8ByteSize ≤ Disk.maxNameSize := by decide
  intro path output name inside
  rcases List.mem_append.1 output with own | shared
  · obtain ⟨table, member, made⟩ := List.mem_flatMap.1 own
    obtain ⟨file, isTemplate, rfl⟩ := List.mem_map.1 made
    obtain ⟨place, pair⟩ := exists_place isTemplate
    have isPlace := (List.of_mem_zip pair).2
    rw [names_tablePath (named table member) pair] at inside
    rcases List.mem_append.1 inside with front | last
    · exact folders place isPlace name front
    · exact List.mem_singleton.1 last ▸ short table member place isPlace
  · exact fixed _ (names_mem_fixedNames (List.mem_append_left _ shared)) name inside

/-- A root with a short path admits the files of a project side by side if they have short names. -/
theorem areApart_of_short {schema : Schema} (named : ∀ table ∈ schema.tables, IsNamed table)
    {root : String} (nonempty : root ≠ "")
    (shortRoot : (join root "").utf8ByteSize ≤ Disk.maxNameSize)
    (short : ∀ table ∈ schema.tables, ∀ place ∈ tablePlaces,
      (place.name table).utf8ByteSize ≤ Disk.maxNameSize) : AreApart root (allPaths schema) :=
  areApart_allPaths named nonempty (hasRoom_of_short named shortRoot) (short_outputs named short)

section Succeeded

variable {run : FullRun} {disk after : Disk} {summary : Summary}
  (succeeds : execute run.program disk = (.ok summary, after))

include succeeds

/-- A run that succeeds has written the documents. -/
theorem isFile_of_succeeds {path : String} (document : path ∈ documentPaths) :
    after.isFile (join run.root path) = true := by
  obtain ⟨schema, name, -, produced⟩ := FullRun.execute_program_eq_ok.1 succeeds
  obtain ⟨_, _, start, -, documents, -⟩ := FullRun.execute_produce_eq_ok.1 produced
  obtain ⟨collection, first, second, third, -, readme, openApi, postman, env, -⟩ :=
    execute_writeDocuments_eq_ok.1 documents
  have larger {path text : String} {before behind : Disk}
      (written : execute (put path text) before = (.ok .written, behind)) : Grows before behind :=
    ((respects_put _ _).of_execute written).grows
  have behindOpenApi := (larger postman).trans (larger env)
  have behindReadme := (larger openApi).trans behindOpenApi
  simp only [documentPaths, List.mem_cons, List.not_mem_nil, or_false] at document
  rcases document with rfl | rfl | rfl | rfl
  · exact behindReadme.isFile (read_of_put readme).1
  · exact behindOpenApi.isFile (read_of_put openApi).1
  · exact (larger env).isFile (read_of_put postman).1
  · exact (read_of_put env).1

/-- The root of a run that succeeds leaves room for the longest path that does not depend on
tables. -/
theorem room_of_succeeds : (join run.root postmanPath).utf8ByteSize < Disk.maxPathSize := by
  have document : postmanPath ∈ documentPaths := by simp [documentPaths]
  obtain ⟨-, content, followed⟩ := Disk.isFile_iff.1 (isFile_of_succeeds succeeds document)
  exact (Disk.start_eq_ok_iff.1 (Disk.locate_eq_ok.1 followed).1).2.2

/-- The path of a root for which a run succeeds does not lead through the place of a document. -/
theorem not_mem_wayOf_of_succeeds (tree : disk.IsTree) {path : String}
    (document : path ∈ documentPaths) :
    disk.destination (join run.root path) ∉ disk.wayOf run.root := by
  intro onWay
  have grows := run.grows_program.of_execute succeeds
  have stillTree := run.keepsTree_program.of_execute succeeds tree
  have inside := isInside_of_mem_sharedPaths path (mem_sharedPaths_of_document document)
  have named : ∀ path ∈ documentPaths, names path ≠ [] := by decide
  have further := named path document
  obtain ⟨-, content, followed⟩ := Disk.isFile_iff.1 (isFile_of_succeeds succeeds document)
  have file := inside.stands_of_locate further followed
  have walked := (Disk.locate_eq_ok.1 followed).2
  rw [inside.origin_join, Disk.Path.names_join inside.relative] at walked
  have toRoot := (Disk.walk_append walked further).1
  rw [← grows.wayOf, ← grows.destination] at onWay
  have directory := Disk.directory_of_walk stillTree (stillTree.origin run.root) toRoot _ onWay
  rw [Disk.Target.Stands, directory] at file
  simp at file

end Succeeded

/-! ## Runs -/

section Runs

variable {start : Disk} {config : Config} {paths : List String}
  (apart : AreApart config.projectRoot paths)

include apart

/-- A run for the frame succeeds if its templates can be read and the root admits its files. -/
theorem succeeds_generateBase (within : framePaths ⊆ paths)
    (there : start.isDirectory config.baseTemplatesPath = true)
    (sources : ∀ file ∈ baseTemplates, IsSource start config.projectRoot paths
      (join config.baseTemplatesPath file.template)) :
    Succeeds (Opens start config.projectRoot paths) (generateBase config) := by
  refine Succeeds.bind (Succeeds.bind (succeeds_requireTemplates there) fun _ => ?_) fun results =>
    Succeeds.pure _
  refine Succeeds.bind (Succeeds.mapM fun file member =>
    succeeds_loadTemplate (sources file member)) fun texts => ?_
  refine Succeeds.mapM fun pair member => ?_
  have isBase : pair.1 ∈ baseTemplates := (List.of_mem_zip (a := pair.1) (b := pair.2) member).1
  exact Succeeds.bind (succeeds_writeFile_skip apart (within (List.mem_map_of_mem isBase)) _)
    fun outcome => Succeeds.pure _

section Full

variable {schema : Schema} (within : outputs schema ⊆ paths)

include within

/-- The files of a table are made and its routes are registered. -/
theorem succeeds_generateTable {table : Table} (member : table ∈ schema.tables)
    (there : start.isDirectory config.templatesPath = true)
    (sources : ∀ file ∈ tableTemplates ++ [poolTemplate], IsSource start config.projectRoot paths
      (join config.templatesPath file.template)) :
    Succeeds (Opens start config.projectRoot paths)
      (generateTable config.projectRoot config.templatesPath table) := by
  have making {file : TemplateFile} (isTemplate : file ∈ tableTemplates ++ [poolTemplate])
      {tokens : List (String × String)}
      (output : Template.render file.destination tokens ∈ outputs schema) :
      Succeeds (Opens start config.projectRoot paths)
        (makeFile config.projectRoot config.templatesPath tokens file) :=
    Succeeds.bind (succeeds_loadTemplate (sources file isTemplate)) fun template =>
      Succeeds.bind (succeeds_writeFile_skip apart (within output) _) fun result =>
        Succeeds.pure _
  have shared {path : String} (isShared : path ∈ sharedPaths) : path ∈ outputs schema :=
    List.mem_append_right _ isShared
  refine Succeeds.bind (succeeds_requireTemplates there) fun _ => ?_
  refine Succeeds.bind (Succeeds.bind (Succeeds.mapM fun file isTemplate => ?_) fun own => ?_)
    fun files => ?_
  · refine making (List.mem_append_left _ isTemplate) (List.mem_append_left _ ?_)
    exact List.mem_flatMap.2 ⟨table, member, List.mem_map_of_mem isTemplate⟩
  · exact Succeeds.bind (making (List.mem_append_right _ List.mem_cons_self)
      (shared List.mem_cons_self)) fun pool => Succeeds.pure _
  · exact Succeeds.bind (succeeds_updateRoutes apart (within (shared (by simp [sharedPaths]))) _)
      fun registered => Succeeds.pure _

/-- The documents are written if there is a collection of requests. -/
theorem succeeds_writeDocuments {collection : String}
    (rendered : Postman.render schema config.api = .ok collection) (name : String) :
    Succeeds (Opens start config.projectRoot paths) (writeDocuments config schema name) := by
  have document {path : String} (isDocument : path ∈ documentPaths) (text : String) :
      Succeeds (Opens start config.projectRoot paths)
        (writeDocument config.projectRoot path text) :=
    succeeds_writeDocument apart
      (within (List.mem_append_right _ (mem_sharedPaths_of_document isDocument))) text
  refine Succeeds.bind (document (by simp [documentPaths]) _) fun readme => ?_
  refine Succeeds.bind (document (by simp [documentPaths]) _) fun openApi => ?_
  refine Succeeds.bind (fun disk opens => ⟨collection, disk, ?_, opens⟩) fun text => ?_
  · rw [execute_renderPostman, rendered]
    rfl
  refine Succeeds.bind (document (by simp [documentPaths]) _) fun postman => ?_
  exact Succeeds.bind (document (by simp [documentPaths]) _) fun env => Succeeds.pure _

end Full

end Runs

/-- A text that nothing is written to stays one. -/
theorem IsSource.changes {start disk : Disk} {root path : String} {paths : List String}
    (source : IsSource start root paths path) (changes : ChangesOnly root paths start disk) :
    IsSource disk root paths path := by
  obtain ⟨⟨text, given⟩, elsewhere⟩ := source
  refine ⟨⟨text, ?_⟩, fun other output => ?_⟩
  · rw [changes.textAt_eq (isFile_of_textAt given) elsewhere, given]
  · rw [changes.1.destination, changes.1.destination]
    exact elsewhere other output

/-- A full run whose inputs are read from places to which it writes nothing, and whose files can
stand side by side in its root. -/
structure FullRun.IsRunnable (run : FullRun) (disk : Disk) (schema : Schema) (name : String) :
    Prop where
  prepared : run.Prepared disk schema name
  apart : AreApart run.root (allPaths schema)
  input : ∀ path ∈ allPaths schema,
    disk.destination run.input ≠ disk.destination (join run.root path)
  sources : ∀ file ∈ tableTemplates ++ [poolTemplate],
    IsSource disk run.root (allPaths schema) (join run.templates file.template)
  rendered : ∃ collection, Postman.render schema run.config.api = .ok collection

namespace FullRun.IsRunnable

variable {run : FullRun} {disk : Disk} {schema : Schema} {name : String}

/-- A full run with short names in a root with a short path. -/
theorem of_short (prepared : run.Prepared disk schema name) (nonempty : run.root ≠ "")
    (shortRoot : (join run.root "").utf8ByteSize ≤ Disk.maxNameSize)
    (short : ∀ table ∈ schema.tables, ∀ place ∈ tablePlaces,
      (place.name table).utf8ByteSize ≤ Disk.maxNameSize)
    (input : ∀ path ∈ allPaths schema,
      disk.destination run.input ≠ disk.destination (join run.root path))
    (given : ∀ file ∈ tableTemplates ++ [poolTemplate],
      ∃ text, textAt disk (join run.templates file.template) = .ok text)
    (address : (Url.parse run.config.api.baseUrl).isOk = true) :
    run.IsRunnable disk schema name where
  prepared := prepared
  apart := areApart_of_short prepared.isNamed nonempty shortRoot short
  input := input
  sources file isTemplate := ⟨given file isTemplate, fun _ output =>
    destination_anyTemplate_ne prepared.isNamed output (List.mem_append_left _ isTemplate) _ _ _⟩
  rendered := Postman.exists_render address schema

/-- A full run that can be made succeeds in a root that admits its files. -/
theorem succeeds_program (isRunnable : run.IsRunnable disk schema name) :
    Succeeds (Opens disk run.root (allPaths schema)) run.program := by
  obtain ⟨collection, rendered⟩ := isRunnable.rendered
  intro start opens
  have prepared := isRunnable.prepared.changes isRunnable.input opens.changes
  have produces : Succeeds (Opens start run.root (allPaths schema)) (run.produce schema name) := by
    refine Succeeds.bind (Succeeds.mapM fun table member => succeeds_generateTable isRunnable.apart
      (List.subset_append_left _ _) member prepared.directory fun file isTemplate =>
        (isRunnable.sources file isTemplate).changes opens.changes) fun outcomes => ?_
    exact Succeeds.bind (succeeds_writeDocuments isRunnable.apart (List.subset_append_left _ _)
      rendered name) fun documents => Succeeds.pure _
  obtain ⟨summary, after, produced, last⟩ := produces start opens.restart
  exact ⟨summary, after, execute_program_eq_ok.2 ⟨schema, name, prepared, produced⟩,
    (chains_changesOnly _ _).trans opens.changes last.changes, last.opened⟩

/-- A run for the frame of the same project succeeds there if its templates can be read. -/
theorem succeeds_frame (isRunnable : run.IsRunnable disk schema name)
    (directory : disk.isDirectory run.config.baseTemplatesPath = true)
    (given : ∀ file ∈ baseTemplates,
      ∃ text, textAt disk (join run.config.baseTemplatesPath file.template) = .ok text) :
    Succeeds (Opens disk run.root (allPaths schema)) (generateBase run.config) :=
  succeeds_generateBase isRunnable.apart (List.subset_append_right _ _) directory
    fun file isBase => ⟨given file isBase, fun _ output => destination_anyTemplate_ne
      isRunnable.prepared.isNamed output (List.mem_append_right _ isBase) _ _ _⟩

end FullRun.IsRunnable

end Project
end SchemaScaffold
