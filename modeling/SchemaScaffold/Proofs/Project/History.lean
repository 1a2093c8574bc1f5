import SchemaScaffold.Proofs.Project.Success

/-!
# Histories of runs

What becomes of the files of a project in the course of any number of runs, whether they succeed
or fail. Runs replace the documents and the routes index; every other file stays as it is, as
long as the root of the project is reached without detours.
-/

namespace SchemaScaffold
namespace Project

open Disk (Grows)
open Disk.Path (IsInside join names)

/-- The paths at which runs replace files. -/
def rewrittenPaths : List String :=
  routesIndex :: documentPaths

/-- No run replaces files at a place. -/
def IsSpared (root : String) (disk : Disk) (place : Location) : Prop :=
  ∀ path ∈ rewrittenPaths, place ≠ disk.destination (join root path)

instance (root : String) (disk : Disk) (place : Location) :
    Decidable (IsSpared root disk place) :=
  inferInstanceAs (Decidable (∀ path ∈ rewrittenPaths, _))

/-- A disk grows and stays a tree. If it is one and the project is reached without detours, the
file at a place stays as it is, unless runs replace files there. -/
structure KeepsFile (root : String) (place : Location) (before after : Disk) : Prop where
  grows : Grows before after
  tree : before.IsTree → after.IsTree
  file : before.IsTree → before.Direct root → IsSpared root before place →
    ∀ content, before.file? place = some content → after.file? place = some content

section Writes

variable {root : String} {place : Location}

theorem IsSpared.grows {before after : Disk} (spared : IsSpared root before place)
    (grows : Grows before after) : IsSpared root after place := by
  intro path member
  rw [grows.destination]
  exact spared path member

theorem chains_keepsFile (root : String) (place : Location) : Chains (KeepsFile root place) where
  refl disk := ⟨Grows.refl disk, fun tree => tree, fun _ _ _ _ standing => standing⟩
  trans first second := by
    refine ⟨first.grows.trans second.grows, fun tree => second.tree (first.tree tree), ?_⟩
    intro tree direct spared content standing
    exact second.file (first.tree tree) (direct.grows first.grows) (spared.grows first.grows)
      content (first.file tree direct spared content standing)

/-- A careful write inside a project changes no file. -/
theorem keepsFile_writeFile_skip {path : String} (inside : IsInside path) (text : String) :
    Respects (KeepsFile root place) (writeFile (join root path) text .skip) := by
  intro disk
  have touched := respects_writeFile_skip (join root path) text disk
  refine ⟨touched.grows, keepsTree_writeFile_skip _ _ disk, ?_⟩
  intro tree direct _ content standing
  rw [execute_writeFile_skip] at touched ⊢
  split at touched
  · next found => rwa [if_pos found]
  · next missing =>
    rw [if_neg missing]
    by_cases here : place = disk.destination (join root path)
    · subst here
      obtain ⟨middle, furnished, same | ⟨writable, -⟩⟩ := touched
      · rw [same, furnished.sameFiles, standing]
      · -- A file that can be written at once could be seen before.
        have isFile := (inside.direct_join direct).isFile tree furnished.grows standing writable
        simp [Disk.hasEntry, isFile] at missing
    · rw [touched.file?_of_ne here, standing]

theorem keepsFile_of_touched {path text : String} {before after : Disk}
    (touched : Touched (join root path) text before after) (member : path ∈ rewrittenPaths)
    (keepsTree : KeepsTree before after) : KeepsFile root place before after :=
  ⟨touched.grows, keepsTree, fun _ _ spared content standing => by
    rw [touched.file?_of_ne (spared path member), standing]⟩

theorem keepsFile_overwrite (text : String) :
    Respects (KeepsFile root place) (overwrite (join root routesIndex) text) :=
  fun disk => keepsFile_of_touched (respects_overwrite _ text disk) List.mem_cons_self
    (keepsTree_overwrite _ text disk)

theorem keepsFile_writeFile_overwrite {path : String} (member : path ∈ documentPaths)
    (text : String) :
    Respects (KeepsFile root place) (writeFile (join root path) text .overwrite) := by
  intro disk
  have touched := respects_put (join root path) text disk
  rw [execute_writeFile_overwrite]
  exact keepsFile_of_touched touched (List.mem_cons_of_mem _ member)
    (keepsTree_put _ text disk)

end Writes

/-- A run of one of the three kinds. -/
inductive ProjectRun where
  | full (run : FullRun)
  | postman (config : Config) (sqlPath : Option String)
  | base (config : Config)

namespace ProjectRun

/-- The root of the project for which a run is made. -/
def projectRoot : ProjectRun → String
  | .full run => run.root
  | .postman config _ => config.projectRoot
  | .base config => config.projectRoot

def program : ProjectRun → Run (StateM Disk) Summary
  | .full run => run.program
  | .postman config sqlPath => generatePostman config sqlPath
  | .base config => generateBase config

/-- A run respects what its writes respect: careful ones inside the project, and those that
replace the routes index and the documents. -/
theorem respects {related : Disk → Disk → Prop} (chains : Chains related) (run : ProjectRun)
    (careful : ∀ path, IsInside path → ∀ text,
      Respects related (writeFile (join run.projectRoot path) text .skip))
    (index : ∀ disk, disk.isFile (join run.projectRoot routesIndex) = true → ∀ text,
      related disk (execute (overwrite (join run.projectRoot routesIndex) text) disk).2)
    (replaces : ∀ path ∈ documentPaths, ∀ text,
      Respects related (writeFile (join run.projectRoot path) text .overwrite)) :
    Respects related run.program := by
  cases run with
  | full run =>
    refine FullRun.respects_program chains fun schema named name => ?_
    refine FullRun.respects_produce chains (fun table member path made => ?_) index replaces name
    exact careful path (isInside_of_mem_carefulPaths (named table member) path made)
  | postman config sqlPath =>
    exact respects_generatePostman chains (replaces _ (by simp [documentPaths])) sqlPath
  | base config =>
    exact respects_generateBase chains fun file member =>
      careful _ (isInside_of_mem_baseTemplates file member)

/-- A run keeps a file, whatever its inputs are and however it ends. -/
theorem keepsFile (run : ProjectRun) (place : Location) :
    Respects (KeepsFile run.projectRoot place) run.program :=
  run.respects (chains_keepsFile _ place) (fun _ inside => keepsFile_writeFile_skip inside)
    (fun disk _ text => keepsFile_overwrite text disk) fun _ member =>
      keepsFile_writeFile_overwrite member

end ProjectRun

/-- What happens to a disk in the course of time: runs for a project, and changes that others
make without touching the file at a place. -/
inductive History (root : String) (place : Location) : Disk → Disk → Prop where
  | start (disk : Disk) : History root place disk disk
  | run {before middle : Disk} (history : History root place before middle) (run : ProjectRun)
      (own : run.projectRoot = root) : History root place before (execute run.program middle).2
  | edit {before middle after : Disk} (history : History root place before middle)
      (tree : after.IsTree) (grows : Grows middle after)
      (same : after.file? place = middle.file? place) : History root place before after

namespace History

variable {root : String} {place : Location} {before after : Disk}

/-- A history keeps a file as each of its runs does. -/
theorem keepsFile (history : History root place before after) :
    KeepsFile root place before after := by
  have chains := chains_keepsFile root place
  induction history with
  | start => exact chains.refl before
  | run _ run own ih =>
    subst own
    exact chains.trans ih (run.keepsFile place _)
  | edit _ tree larger same ih =>
    exact chains.trans ih
      ⟨larger, fun _ => tree, fun _ _ _ content standing => by rw [same, standing]⟩

end History

/-- The first file of the frame of a project. -/
def serverTemplate : TemplateFile :=
  ⟨"server.js.tmpl", "server.js"⟩

/-- A run for the frame of a project replaces a file if the root is behind a detour. -/
theorem file?_of_generateBase {config : Config} {disk after : Disk} {summary : Summary}
    (tree : disk.IsTree) (detour : ¬ disk.Direct config.projectRoot)
    (run : execute (generateBase config) disk = (.ok summary, after)) :
    ∃ template, textAt disk (join config.baseTemplatesPath serverTemplate.template) =
        .ok template ∧
      after.file? (disk.destination (join config.projectRoot serverTemplate.destination)) =
        some template.toUTF8 := by
  obtain ⟨results, middle, framed, done⟩ := execute_bind_eq_ok.1 run
  obtain rfl : middle = after := (Prod.mk.inj done).2
  obtain ⟨_, checked, required, loading⟩ := execute_bind_eq_ok.1 framed
  obtain rfl := (readsOnly_requireTemplates _).of_execute required
  obtain ⟨texts, loadedDisk, loaded, copied⟩ := execute_bind_eq_ok.1 loading
  obtain ⟨template, others, _, first, rest, rfl⟩ := execute_mapM_cons_eq_ok.1 loaded
  obtain ⟨same, text⟩ := execute_loadTemplate_eq_ok.1 first
  obtain rfl := same.symm
  obtain rfl := (Respects.mapM chains_eq fun file _ => readsOnly_loadTemplate _ _).of_execute rest
  obtain ⟨_, _, written, made, later, -⟩ := execute_mapM_cons_eq_ok.1 copied
  refine ⟨template, text, ?_⟩
  obtain ⟨outcome, last, served, done⟩ := execute_bind_eq_ok.1 made
  obtain rfl : last = written := (Prod.mk.inj done).2
  have inside : IsInside serverTemplate.destination := by decide
  change execute (writeFile (join config.projectRoot serverTemplate.destination) template .skip)
    disk = (.ok outcome, last) at served
  -- The careful write does not see the file, since the directories on the detour are missing.
  rw [execute_writeFile_skip, if_neg fun found =>
    detour (Disk.direct_of_hasEntry tree inside (by decide) found)] at served
  have grows := ((respects_put _ _).of_execute served).grows
  have apart : ∀ file ∈ baseTemplates.tail,
      names serverTemplate.destination ≠ names file.destination := by decide
  have untouched : ChangesOnly config.projectRoot
      (baseTemplates.tail.map (·.destination)) last middle := by
    refine Respects.of_execute (Respects.mapM (chains_changesOnly _ _) fun pair member => ?_) later
    have tail := (List.of_mem_zip (a := pair.1) (b := pair.2) member).1
    refine Respects.bind (chains_changesOnly _ _) (fun disk => ?_) fun _ =>
      Respects.pure (chains_changesOnly _ _) _
    exact (respects_writeFile_skip _ _ disk).changesOnly (List.mem_map_of_mem tail)
  rw [untouched.2, file?_of_put served]
  intro path member same
  obtain ⟨file, tail, rfl⟩ := List.mem_map.1 member
  have base := List.mem_of_mem_tail tail
  rw [grows.destination, inside.destination_join,
    (isInside_of_mem_baseTemplates file base).destination_join] at same
  exact apart file tail (List.append_cancel_left same)

/-- In every history of a project a file goes on standing. If the root of the project is reached
without detours the file stays as it is, unless runs replace files at its place; behind a detour
the next run for the frame of the project replaces the file of the server. -/
theorem history_keeps_files {root : String} {place : Location} {before after : Disk}
    (tree : before.IsTree) (history : History root place before after) :
    (before.file? place ≠ none → after.file? place ≠ none) ∧
      (before.Direct root → IsSpared root before place →
        ∀ content, before.file? place = some content → after.file? place = some content) ∧
      (¬ before.Direct root → ∀ config : Config, config.projectRoot = root →
        ∀ summary final, execute (generateBase config) before = (.ok summary, final) →
          ∃ template, textAt before (join config.baseTemplatesPath serverTemplate.template) =
              .ok template ∧
            final.file? (before.destination (join root serverTemplate.destination)) =
              some template.toUTF8) := by
  refine ⟨history.keepsFile.grows.file?_ne_none, history.keepsFile.file tree, ?_⟩
  rintro detour config rfl summary final run
  exact file?_of_generateBase tree detour run

/-- A working directory with a server of its own, beside a set of templates for the frame. -/
def serverDisk : Disk where
  workingDirectory := []
  nodes := (["server.js"], .file "mine".toUTF8) :: (["tpl"], .directory) ::
    baseTemplates.map fun file => (["tpl", file.template], .file "theirs".toUTF8)

/-- A run for the frame of a project with those templates. -/
def frameRun (root : String) : ProjectRun :=
  .base { projectRoot := root, baseTemplatesDir := "/tpl" }

/-- Two paths of the working directory: the second one takes a detour. -/
def frameRoots : List String := [".", "new/.."]

/-- A schema without tables. -/
def bareSchema : Schema where
  database := none
  tables := []

/-- The files of a project without tables. -/
def framedPaths : List String :=
  allPaths bareSchema

theorem areApart_framedPaths {root : String} (member : root ∈ frameRoots) :
    Disk.Path.AreApart root framedPaths := by
  have short : ∀ root ∈ frameRoots, root ≠ "" ∧
      (join root "").utf8ByteSize ≤ Disk.maxNameSize := by decide
  obtain ⟨nonempty, size⟩ := short root member
  exact areApart_of_short (by simp [bareSchema]) nonempty size (by simp [bareSchema])

/-- The server of the working directory is in nobody's way. -/
theorem opens_serverDisk {root : String} (member : root ∈ frameRoots) :
    Opens serverDisk root framedPaths serverDisk := by
  have clear : ∀ root ∈ frameRoots, (serverDisk.createDirectories root).1.isOk = true ∧
      (∀ entry ∈ (serverDisk.createDirectories root).2.nodes, ∀ path ∈ framedPaths,
        entry.1 <+: serverDisk.destination root ++ names path →
          (entry.2 = .directory ↔ entry.1 ≠ serverDisk.destination root ++ names path)) ∧
      (serverDisk.createDirectories root).2.node?
        (serverDisk.destination root ++ names routesIndex) = none := by
    decide +kernel
  obtain ⟨created, free, noIndex⟩ := clear root member
  exact opens_of_nodes (areApart_framedPaths member) created free noIndex

/-- A run for the frame with those templates succeeds by both paths. -/
theorem exists_execute_frame (config : Config) (member : config.projectRoot ∈ frameRoots)
    (own : config.baseTemplatesDir = "/tpl") :
    ∃ summary after, execute (generateBase config) serverDisk = (.ok summary, after) := by
  have directory : ∀ root ∈ frameRoots, join root "/tpl" = "/tpl" := by decide
  have templates : config.baseTemplatesPath = "/tpl" := by
    rw [Config.baseTemplatesPath, Config.resolve, own, directory _ member]
  have given : ∀ file ∈ baseTemplates,
      textAt serverDisk (join "/tpl" file.template) = .ok "theirs" := by
    decide +kernel
  have noTable : ∀ table ∈ bareSchema.tables, IsNamed table := by simp [bareSchema]
  have within : framePaths ⊆ outputs bareSchema ++ framePaths := List.subset_append_right _ _
  have succeeds : Succeeds (Opens serverDisk config.projectRoot framedPaths)
      (generateBase config) := by
    refine succeeds_generateBase (areApart_framedPaths member) within ?_ fun file isBase => ?_
    · rw [templates]
      decide
    · rw [templates]
      exact ⟨⟨_, given file isBase⟩, fun _ output => destination_anyTemplate_ne noTable output
        (List.mem_append_right _ isBase) _ _ _⟩
  obtain ⟨summary, after, run, -⟩ := succeeds serverDisk (opens_serverDisk member)
  exact ⟨summary, after, run⟩

/-- The server is kept if the project is the working directory. -/
theorem server_kept : serverDisk.IsTree ∧ serverDisk.Direct "." ∧
    (execute (frameRun ".").program serverDisk).2.file? ["server.js"] =
      some "mine".toUTF8 := by
  have tree : serverDisk.IsTree := by decide
  have direct : serverDisk.Direct "." := by decide
  have history : History "." ["server.js"] serverDisk
      (execute (frameRun ".").program serverDisk).2 := .run (.start _) (frameRun ".") rfl
  exact ⟨tree, direct,
    (history_keeps_files tree history).2.1 direct (by decide) _ rfl⟩

/-- The server is lost if the path of the same project takes a detour. -/
theorem server_lost : serverDisk.IsTree ∧ IsSpared "new/.." serverDisk ["server.js"] ∧
    serverDisk.file? ["server.js"] = some "mine".toUTF8 ∧
    (execute (frameRun "new/..").program serverDisk).2.file? ["server.js"] ≠
      some "mine".toUTF8 := by
  have tree : serverDisk.IsTree := by decide +kernel
  have detour : ¬ serverDisk.Direct "new/.." := by decide +kernel
  have member : "new/.." ∈ frameRoots := by simp [frameRoots]
  obtain ⟨summary, after, run⟩ := exists_execute_frame
    { projectRoot := "new/..", baseTemplatesDir := "/tpl" } member rfl
  obtain ⟨template, given, replaced⟩ := file?_of_generateBase tree detour run
  have theirs : textAt serverDisk (join (join "new/.." "/tpl") serverTemplate.template) =
      .ok "theirs" := textAt_of_read (by rfl)
  obtain rfl := Except.ok.inj (theirs.symm.trans given)
  have here : serverDisk.destination (join "new/.." serverTemplate.destination) =
      ["server.js"] := by decide +kernel
  refine ⟨tree, by decide +kernel, rfl, ?_⟩
  change (execute (generateBase _) serverDisk).2.file? _ ≠ _
  rw [run, ← here, replaced]
  decide

end Project
end SchemaScaffold
