import SchemaScaffold.Proofs.Artifact.RegistrationSequence
import SchemaScaffold.Proofs.Project.Registration

/-!
# Runs as steps

A run that succeeds has made its writes one after another, and what they leave at a path depends
only on what was there: a file is made if there is nothing, a document is replaced, a table is
registered in an index that is there. So a run is told by a list of steps, of which only those at
a path matter for it.
-/

namespace SchemaScaffold
namespace Project

open Disk (Grows Node)
open Disk.Path (IsInside join names)
open RoutesIndex (Registered patchNames)

/-- A write of a run. -/
inductive Step where
  /-- Make a file unless something is there. -/
  | create (path text : String)
  /-- Write a file in any case. -/
  | replace (path text : String)
  /-- Register a table in the routes index if it is there. -/
  | register (table : String)

namespace Step

/-- The path that a step is about. -/
def path : Step → String
  | create path _ => path
  | replace path _ => path
  | register _ => routesIndex

/-- The content of an index in which a table has been registered. -/
def registered (table : String) (content : ByteArray) : ByteArray :=
  match String.fromUTF8? content with
  | some text =>
    if RoutesIndex.patch text table = text then content
    else (RoutesIndex.patch text table).toUTF8
  | none => content

/-- What a step makes of what is at its path. -/
def act : Step → Option Node → Option Node
  | create _ text, node => some (node.getD (.file text.toUTF8))
  | replace _ text, _ => some (.file text.toUTF8)
  | register table, some (.file content) => some (.file (registered table content))
  | register _, node => node

@[simp] theorem path_create (path text : String) : (create path text).path = path := rfl

@[simp] theorem path_replace (path text : String) : (replace path text).path = path := rfl

@[simp] theorem path_register (table : String) : (register table).path = routesIndex := rfl

end Step

/-- What steps make of what is at a path. Those at other paths do not matter. -/
def actAt (path : String) (steps : List Step) (node : Option Node) : Option Node :=
  steps.foldl (fun node step => if names step.path = names path then step.act node else node) node

section ActAt

variable {path : String} {steps more : List Step} {node : Option Node}

theorem actAt_append (path : String) (steps more : List Step) (node : Option Node) :
    actAt path (steps ++ more) node = actAt path more (actAt path steps node) :=
  List.foldl_append

theorem actAt_nil (path : String) (node : Option Node) : actAt path [] node = node :=
  rfl

theorem actAt_cons (path : String) (step : Step) (steps : List Step) (node : Option Node) :
    actAt path (step :: steps) node =
      actAt path steps (if names step.path = names path then step.act node else node) :=
  rfl

theorem actAt_singleton (path : String) (step : Step) (node : Option Node) :
    actAt path [step] node = if names step.path = names path then step.act node else node :=
  rfl

theorem actAt_congr {other : String} (same : names path = names other) (steps : List Step)
    (node : Option Node) : actAt path steps node = actAt other steps node := by
  simp [actAt, same]

/-- Steps at other paths do nothing. -/
theorem actAt_of_apart (apart : ∀ step ∈ steps, names step.path ≠ names path) :
    actAt path steps node = node := by
  induction steps with
  | nil => rfl
  | cons step steps ih =>
    obtain ⟨first, others⟩ := List.forall_mem_cons.1 apart
    rw [actAt_cons, if_neg first, ih others]

/-- Steps that only make files leave alone what is there. -/
theorem actAt_of_creates
    (creates : ∀ step ∈ steps, names step.path = names path → ∃ text, step = .create step.path text)
    (standing : Node) : actAt path steps (some standing) = some standing := by
  induction steps with
  | nil => rfl
  | cons step steps ih =>
    obtain ⟨first, others⟩ := List.forall_mem_cons.1 creates
    have own : actAt path [step] (some standing) = some standing := by
      rw [actAt_singleton]
      split
      · next here =>
        obtain ⟨text, shape⟩ := first here
        rw [shape]
        rfl
      · rfl
    rw [← List.singleton_append, actAt_append, own, ih others]

/-- Making files again does nothing. -/
theorem actAt_actAt_of_creates
    (creates : ∀ step ∈ steps, names step.path = names path →
      ∃ text, step = .create step.path text) :
    actAt path steps (actAt path steps node) = actAt path steps node := by
  cases found : actAt path steps node with
  | some standing => exact actAt_of_creates creates standing
  | none =>
    cases node with
    | some standing => simp [actAt_of_creates creates] at found
    | none => exact found

end ActAt

/-- The steps for a table. -/
def tableSteps (config : Config) (texts : String → String) (table : Table) : List Step :=
  tableTemplates.map (fun file => .create (tablePath table file)
    (Template.render (texts (join config.templatesPath file.template))
      (Template.entityTokens table.entityNames))) ++
  [.create poolTemplate.destination
    (Template.render (texts (join config.templatesPath poolTemplate.template)) []),
    .register table.name]

/-- The steps for the documents. -/
def documentSteps (config : Config) (schema : Schema) (name collection : String) : List Step := [
  .replace readmePath (Readme.render schema),
  .replace openApiPath (OpenApi.render schema config.api),
  .replace postmanPath collection,
  .replace envPath (EnvFile.render name config.env)]

/-- The steps of a full run. -/
def fullSteps (config : Config) (texts : String → String) (schema : Schema)
    (name collection : String) : List Step :=
  schema.tables.flatMap (tableSteps config texts) ++ documentSteps config schema name collection

/-- The steps of a run for the frame. -/
def frameSteps (config : Config) (texts : String → String) : List Step :=
  baseTemplates.map fun file =>
    .create file.destination (texts (join config.baseTemplatesPath file.template))

theorem routesIndex_mem_allPaths (schema : Schema) : routesIndex ∈ allPaths schema :=
  mem_allPaths_iff.2 (.inr (by simp [fixedPaths, sharedPaths]))

/-- A text is read from a file. -/
theorem exists_file_of_textAt {disk : Disk} {path text : String}
    (given : textAt disk path = .ok text) :
    ∃ content, disk.file? (disk.destination path) = some content ∧
      String.fromUTF8? content = some text := by
  obtain ⟨content, standing, read⟩ := Disk.read_of_isFile (isFile_of_textAt given)
  refine ⟨content, standing, ?_⟩
  rw [textAt, read] at given
  dsimp only at given
  split at given
  · next decoded => rw [decoded, Except.ok.inj given]
  · simp at given

/-- A node at a place of a project that no write of a path is on the way to. -/
theorem Touched.node?_eq {root path other text : String} {before after : Disk}
    (touched : Touched (join root other) text before after) (direct : before.Direct root)
    (inside : IsInside path) (further : names path ≠ []) (otherInside : IsInside other)
    (apart : ¬ names path <+: names other) :
    after.node? (before.destination (join root path)) =
      before.node? (before.destination (join root path)) := by
  have notBelow : ¬ before.destination (join root path) <+:
      before.destination (join root other) :=
    fun below => apart ((inside.destination_prefix_iff otherInside before root).1 below)
  have elsewhere : before.destination (join root path) ≠ before.destination (join root other) := by
    intro same
    rw [same] at notBelow
    exact notBelow List.prefix_rfl
  obtain ⟨middle, furnished, written⟩ := touched
  have kept : middle.node? (before.destination (join root path)) =
      before.node? (before.destination (join root path)) := by
    rcases furnished.places (before.destination (join root path)) with same | ⟨empty, -, onWay⟩
    · exact same
    · rcases otherInside.mem_wayOf_join onWay with early | ⟨-, above⟩
      · exact absurd empty (inside.node?_of_mem_wayOf further direct early)
      · exact absurd above notBelow
  rcases written with rfl | ⟨-, rfl⟩
  · exact kept
  · rw [furnished.grows.destination, Disk.node?_set_of_ne elsewhere, kept]

/-- Where a file is put that was not seen before, nothing was there if the project is reached
without detours. -/
theorem node?_of_put {root path text : String} {before after : Disk} (inside : IsInside path)
    (tree : before.IsTree) (direct : before.Direct root)
    (missing : ¬ before.hasEntry (join root path) = true) {result : WriteResult}
    (run : execute (put (join root path) text) before = (.ok result, after)) :
    before.node? (before.destination (join root path)) = none := by
  have grows := ((respects_put _ _).of_execute run).grows
  have written := Disk.file?_eq_some.1 (file?_of_put run)
  cases standing : before.node? (before.destination (join root path)) with
  | none => rfl
  | some node =>
    cases node with
    | directory =>
      rw [grows.directory _ standing] at written
      simp at written
    | file content =>
      have isFile := inside.isFile_of_grows tree direct grows
        (by rw [Disk.file?_eq_some.2 standing]; simp) (read_of_put run).1
      simp [Disk.hasEntry, isFile] at missing

/-- The paths of the templates that runs read. -/
def templatePaths (config : Config) : List String :=
  (tableTemplates ++ [poolTemplate]).map (fun file => join config.templatesPath file.template) ++
    baseTemplates.map fun file => join config.baseTemplatesPath file.template

/-- A disk on which runs work as steps: the project is reached without detours, and templates that
are texts are known ones. -/
structure IsGround (config : Config) (texts : String → String) (disk : Disk) : Prop where
  tree : disk.IsTree
  direct : disk.Direct config.projectRoot
  isFile : ∀ path ∈ templatePaths config, disk.isFile path = true
  known : ∀ path ∈ templatePaths config, ∀ text, textAt disk path = .ok text → text = texts path

/-- The routes index of a project can be followed, now or later. -/
def IsReached (root : String) (disk : Disk) : Prop :=
  ∃ later, Grows disk later ∧ later.hasEntry (join root routesIndex) = true

/-- What a part of a run does: at a path it does some steps, if the index can be followed. -/
structure Performs (config : Config) (schema : Schema) (texts : String → String) (path : String)
    (steps : List Step) (before after : Disk) : Prop where
  tree : KeepsTree before after
  changes : ChangesOnly config.projectRoot (allPaths schema) before after
  node : IsGround config texts before → IsReached config.projectRoot after →
    after.node? (before.destination (join config.projectRoot path)) =
      actAt path steps (before.node? (before.destination (join config.projectRoot path)))

section Performs

variable {config : Config} {schema : Schema} {texts : String → String} {path : String}
  {before middle after : Disk}

theorem IsGround.changes (named : ∀ table ∈ schema.tables, IsNamed table)
    (ground : IsGround config texts before) (tree : KeepsTree before after)
    (changes : ChangesOnly config.projectRoot (allPaths schema) before after) :
    IsGround config texts after where
  tree := tree ground.tree
  direct := ground.direct.grows changes.1
  isFile path member := changes.1.isFile (ground.isFile path member)
  known path member text given := by
    refine ground.known path member text ?_
    rw [← given, changes.textAt_eq (ground.isFile path member)]
    intro other output
    rcases List.mem_append.1 member with own | base
    · obtain ⟨file, isTemplate, rfl⟩ := List.mem_map.1 own
      exact destination_anyTemplate_ne named output (List.mem_append_left _ isTemplate) _ _ _
    · obtain ⟨file, isTemplate, rfl⟩ := List.mem_map.1 base
      exact destination_anyTemplate_ne named output (List.mem_append_right _ isTemplate) _ _ _

theorem IsReached.of_grows {root : String} (reached : IsReached root after)
    (grows : Grows before after) : IsReached root before := by
  obtain ⟨later, further, found⟩ := reached
  exact ⟨later, grows.trans further, found⟩

/-- An index that can be followed later is a file at once if a file stands at its place. -/
theorem isFile_routesIndex {root : String} {disk : Disk} {content : ByteArray}
    (tree : disk.IsTree) (direct : disk.Direct root) (reached : IsReached root disk)
    (standing : disk.node? (disk.destination (join root routesIndex)) = some (.file content)) :
    disk.isFile (join root routesIndex) = true := by
  obtain ⟨later, grows, found⟩ := reached
  obtain ⟨newer, stays⟩ := grows.file _ content standing
  refine isInside_routesIndex.isFile_of_grows tree direct grows
    (by simp [Disk.file?_eq_some.2 standing]) ?_
  rw [Disk.hasEntry, Bool.or_eq_true] at found
  refine found.resolve_right fun isDirectory => ?_
  have directory := isInside_routesIndex.node?_of_isDirectory (by decide) isDirectory
  rw [grows.destination, stays] at directory
  simp at directory

namespace Performs

variable {steps more : List Step}

theorem nil (disk : Disk) : Performs config schema texts path [] disk disk where
  tree := fun tree => tree
  changes := (chains_changesOnly _ _).refl disk
  node _ _ := (actAt_nil _ _).symm

theorem trans (named : ∀ table ∈ schema.tables, IsNamed table)
    (first : Performs config schema texts path steps before middle)
    (second : Performs config schema texts path more middle after) :
    Performs config schema texts path (steps ++ more) before after where
  tree tree := second.tree (first.tree tree)
  changes := (chains_changesOnly _ _).trans first.changes second.changes
  node ground reached := by
    have later := second.node (ground.changes named first.tree first.changes) reached
    rw [first.changes.1.destination] at later
    rw [later, first.node ground (reached.of_grows second.changes.1), actAt_append]

end Performs

variable (named : ∀ table ∈ schema.tables, IsNamed table) (output : path ∈ allPaths schema)

variable (texts)

include named output

/-- A write to a path does one step if it does so there; elsewhere it does nothing. -/
theorem performs_of_touched {step : Step} {text : String} (stepOutput : step.path ∈ allPaths schema)
    (touched : Touched (join config.projectRoot step.path) text before after)
    (tree : KeepsTree before after)
    (own : before.IsTree → before.Direct config.projectRoot →
      IsReached config.projectRoot after →
      after.node? (before.destination (join config.projectRoot step.path)) =
        step.act (before.node? (before.destination (join config.projectRoot step.path)))) :
    Performs config schema texts path [step] before after where
  tree := tree
  changes := touched.changesOnly stepOutput
  node ground reached := by
    obtain ⟨inside, further⟩ := isInside_of_mem_allPaths named output
    obtain ⟨stepInside, -⟩ := isInside_of_mem_allPaths named stepOutput
    rw [actAt_singleton]
    split
    · next here =>
      have there := own ground.tree ground.direct reached
      rwa [stepInside.destination_join, here, ← inside.destination_join] at there
    · next apart =>
      refine touched.node?_eq ground.direct inside further stepInside fun below => ?_
      exact apart (names_eq_of_isAbove named output stepOutput below).symm

/-- A careful write makes a file unless something is there. -/
theorem performs_writeFile_skip {other text : String} (otherOutput : other ∈ allPaths schema)
    {result : WriteResult}
    (run : execute (writeFile (join config.projectRoot other) text .skip) before =
      (.ok result, after)) :
    Performs config schema texts path [.create other text] before after := by
  have touched := (respects_writeFile_skip _ text).of_execute run
  have tree := (keepsTree_writeFile_skip _ text).of_execute run
  obtain ⟨inside, further⟩ := isInside_of_mem_allPaths named otherOutput
  refine performs_of_touched texts named output otherOutput touched tree fun isTree direct _ => ?_
  rw [Step.path]
  rw [execute_writeFile_skip] at run
  split at run
  · next found =>
    obtain rfl : before = after := (Prod.mk.inj run).2
    obtain ⟨node, standing⟩ :=
      Option.ne_none_iff_exists'.1 (inside.node?_of_hasEntry further found)
    rw [standing]
    rfl
  · next missing =>
    rw [Disk.file?_eq_some.1 (file?_of_put run), node?_of_put inside isTree direct missing run]
    rfl

/-- A document is replaced. -/
theorem performs_put {other text : String} (document : other ∈ documentPaths)
    (written : execute (put (join config.projectRoot other) text) before = (.ok .written, after)) :
    Performs config schema texts path [.replace other text] before after := by
  have otherOutput : other ∈ allPaths schema :=
    mem_allPaths_iff.2 (.inr (List.mem_append_left _ (mem_sharedPaths_of_document document)))
  refine performs_of_touched texts named output otherOutput ((respects_put _ _).of_execute written)
    ((keepsTree_put _ _).of_execute written) fun _ _ _ => ?_
  exact Disk.file?_eq_some.1 (file?_of_put written)

/-- A table is registered in the index if that is there. -/
theorem performs_updateRoutes {table : String} {registered : Bool}
    (run : execute (updateRoutes (join config.projectRoot routesIndex) table) before =
      (.ok registered, after)) :
    Performs config schema texts path [.register table] before after := by
  have indexOutput : (Step.register table).path ∈ allPaths schema :=
    routesIndex_mem_allPaths schema
  have touch {text : String}
      (touched : Touched (join config.projectRoot (Step.register table).path) text before after)
      (tree : KeepsTree before after) :=
    performs_of_touched texts named output indexOutput touched tree
  rw [execute_updateRoutes] at run
  split at run
  · split at run
    · simp at run
    · next content text =>
      obtain ⟨bytes, standing, decoded⟩ := exists_file_of_textAt text
      split at run
      · next same =>
        obtain rfl : before = after := (Prod.mk.inj run).2
        refine touch (Touched.refl _ "" _) (fun tree => tree) fun _ _ _ => ?_
        rw [Step.path, Disk.file?_eq_some.1 standing]
        simp [Step.act, Step.registered, decoded, same]
      · next changed =>
        cases written : before.write (join config.projectRoot routesIndex)
            (RoutesIndex.patch content table) with
        | error fault => simp [written] at run
        | ok last =>
          obtain ⟨-, rfl⟩ : true = registered ∧ last = after := by simpa [written] using run
          have overwritten : execute (overwrite (join config.projectRoot routesIndex)
              (RoutesIndex.patch content table)) before = (.ok (), last) := by
            rw [execute_overwrite, written]
          refine touch ((respects_overwrite _ _).of_execute overwritten)
            ((keepsTree_overwrite _ _).of_execute overwritten) fun _ _ _ => ?_
          obtain ⟨writable, rfl⟩ := Disk.write_eq_ok.1 written
          rw [Step.path, Disk.node?_set_self (Disk.ne_nil_of_free writable.free),
            Disk.file?_eq_some.1 standing]
          simp [Step.act, Step.registered, decoded, changed]
  · next missing =>
    obtain rfl : before = after := (Prod.mk.inj run).2
    refine touch (Touched.refl _ "" _) (fun tree => tree) fun tree direct reached => ?_
    rw [Step.path]
    cases standing :
        before.node? (before.destination (join config.projectRoot routesIndex)) with
    | none => rfl
    | some node =>
      cases node with
      | directory => rfl
      | file content =>
        exact absurd (isFile_routesIndex tree direct reached standing) missing

omit output in
/-- A program that runs for each member of a list does the steps of all members. -/
theorem performs_mapM {α β : Type} {program : α → Run (StateM Disk) β} {steps : α → List Step}
    {list : List α}
    (each : ∀ a ∈ list, ∀ {start last : Disk} {b : β}, execute (program a) start = (.ok b, last) →
      Performs config schema texts path (steps a) start last)
    {results : List β} (run : execute (list.mapM program) before = (.ok results, after)) :
    Performs config schema texts path (list.flatMap steps) before after := by
  induction list generalizing before results with
  | nil =>
    obtain rfl : before = after := (Prod.mk.inj run).2
    exact .nil before
  | cons a list ih =>
    obtain ⟨first, others⟩ := List.forall_mem_cons.1 each
    obtain ⟨b, more, middle, own, later, -⟩ := execute_mapM_cons_eq_ok.1 run
    exact (first own).trans named (ih others later)

/-! ## Runs -/

/-- A file is made from the known text of its template. -/
theorem performs_makeFile {file : TemplateFile}
    (isTemplate : file ∈ tableTemplates ++ [poolTemplate]) {tokens : List (String × String)}
    (fileOutput : Template.render file.destination tokens ∈ allPaths schema)
    {result : String × WriteResult}
    (run : execute (makeFile config.projectRoot config.templatesPath tokens file) before =
      (.ok result, after)) :
    Performs config schema texts path [.create (Template.render file.destination tokens)
      (Template.render (texts (join config.templatesPath file.template)) tokens)] before after := by
  obtain ⟨template, outcome, text, written, -⟩ := execute_makeFile_eq_ok.1 run
  have performs := performs_writeFile_skip texts named output fileOutput written
  refine ⟨performs.tree, performs.changes, fun ground reached => ?_⟩
  have known := ground.known _ (List.mem_append_left _ (List.mem_map_of_mem isTemplate)) _ text
  rw [← known]
  exact performs.node ground reached

/-- A table is generated by the steps for it. -/
theorem performs_generateTable {table : Table} (member : table ∈ schema.tables)
    {outcome : TableOutcome}
    (run : execute (generateTable config.projectRoot config.templatesPath table) before =
      (.ok outcome, after)) :
    Performs config schema texts path (tableSteps config texts table) before after := by
  obtain ⟨-, middle, made, updated⟩ := execute_generateTable_eq_ok.1 run
  obtain ⟨own, pool, last, ownMade, poolMade, -⟩ := execute_makeTableFiles_eq_ok.1 made
  have ownSteps := performs_mapM texts named (fun file isTemplate _ _ _ fileMade =>
    performs_makeFile texts named output (List.mem_append_left _ isTemplate)
      (mem_allPaths_iff.2 (.inl ⟨table, member, file, isTemplate, rfl⟩)) fileMade) ownMade
  have poolSteps := performs_makeFile texts named output
    (List.mem_append_right _ List.mem_cons_self)
    (mem_allPaths_iff.2 (.inr (List.mem_append_left _ List.mem_cons_self))) poolMade
  have indexSteps := performs_updateRoutes texts named output updated
  have whole := (ownSteps.trans named poolSteps).trans named indexSteps
  rw [← List.map_eq_flatMap, List.append_assoc] at whole
  exact whole

/-- The documents are written by the steps for them. -/
theorem performs_writeDocuments {name : String} {documents : List (String × WriteResult)}
    (run : execute (writeDocuments config schema name) before = (.ok documents, after)) :
    ∃ collection, Postman.render schema config.api = .ok collection ∧
      Performs config schema texts path (documentSteps config schema name collection) before
        after := by
  obtain ⟨collection, _, _, _, rendered, readme, openApi, postman, env, -⟩ :=
    execute_writeDocuments_eq_ok.1 run
  refine ⟨collection, rendered, ?_⟩
  exact (performs_put texts named output (by simp [documentPaths]) readme).trans named <|
    (performs_put texts named output (by simp [documentPaths]) openApi).trans named <|
      (performs_put texts named output (by simp [documentPaths]) postman).trans named
        (performs_put texts named output (by simp [documentPaths]) env)

omit named in
/-- A full run that succeeds does its steps. -/
theorem FullRun.Prepared.performs {run : FullRun} {name : String} {summary : Summary}
    (prepared : run.Prepared before schema name)
    (produced : execute (run.produce schema name) before = (.ok summary, after)) :
    ∃ collection, Postman.render schema run.config.api = .ok collection ∧
      Performs run.config schema texts path (fullSteps run.config texts schema name collection)
        before after := by
  have named := prepared.isNamed
  obtain ⟨_, _, middle, tablesMade, documentsMade, -⟩ := execute_produce_eq_ok.1 produced
  have tables := performs_mapM texts named
    (fun table member _ _ _ made => performs_generateTable texts named output member made) tablesMade
  obtain ⟨collection, rendered, documents⟩ :=
    performs_writeDocuments texts named output documentsMade
  exact ⟨collection, rendered, tables.trans named documents⟩

omit named output in
/-- Templates are loaded as the texts that they are. -/
theorem execute_mapM_loadTemplate {directory : String} {files : List TemplateFile}
    {loaded : List String} {disk after : Disk}
    (run : execute (files.mapM fun file => loadTemplate directory file.template) disk =
      (.ok loaded, after)) :
    after = disk ∧ (files.zip loaded).map (·.1) = files ∧
      ∀ pair ∈ files.zip loaded, textAt disk (join directory pair.1.template) = .ok pair.2 := by
  induction files generalizing loaded with
  | nil =>
    obtain ⟨rfl, rfl⟩ : [] = loaded ∧ disk = after := by simpa using run
    exact ⟨rfl, rfl, by simp⟩
  | cons file files ih =>
    obtain ⟨text, more, middle, own, later, rfl⟩ := execute_mapM_cons_eq_ok.1 run
    obtain ⟨rfl, given⟩ := execute_loadTemplate_eq_ok.1 own
    obtain ⟨rfl, whole, others⟩ := ih later
    exact ⟨rfl, by simp [whole], List.forall_mem_cons.2 ⟨given, others⟩⟩

omit named output in
/-- A run for the frame that succeeds has copied texts of all its templates. -/
theorem exists_execute_copyFile {summary : Summary}
    (run : execute (generateBase config) before = (.ok summary, after)) :
    ∃ loaded results, (baseTemplates.zip loaded).map (·.1) = baseTemplates ∧
      (∀ pair ∈ baseTemplates.zip loaded,
        textAt before (join config.baseTemplatesPath pair.1.template) = .ok pair.2) ∧
      execute ((baseTemplates.zip loaded).mapM (copyFile config.projectRoot)) before =
        (.ok results, after) ∧
      summary.written = (Outcome.ofResults results).written ∧
      summary.skipped = (Outcome.ofResults results).skipped := by
  obtain ⟨results, middle, framed, done⟩ := execute_bind_eq_ok.1 run
  obtain rfl : middle = after := (Prod.mk.inj done).2
  obtain rfl := Except.ok.inj (Prod.mk.inj done).1
  obtain ⟨_, checked, required, loading⟩ := execute_bind_eq_ok.1 framed
  obtain rfl := (readsOnly_requireTemplates _).of_execute required
  obtain ⟨loaded, _, loads, copied⟩ := execute_bind_eq_ok.1 loading
  obtain ⟨rfl, files, given⟩ := execute_mapM_loadTemplate loads
  exact ⟨loaded, results, files, given, copied, rfl, rfl⟩

omit named output in
/-- A file of the frame is written with care. -/
theorem execute_copyFile_eq_ok {root : String} {pair : TemplateFile × String}
    {result : String × WriteResult} {disk after : Disk}
    (run : execute (copyFile root pair) disk = (.ok result, after)) :
    ∃ outcome, execute (writeFile (join root pair.1.destination) pair.2 .skip) disk =
      (.ok outcome, after) ∧ result = (join root pair.1.destination, outcome) := by
  obtain ⟨outcome, last, written, done⟩ := execute_bind_eq_ok.1 run
  obtain ⟨rfl, rfl⟩ : (join root pair.1.destination, outcome) = result ∧ last = after := by
    simpa using done
  exact ⟨outcome, written, rfl⟩

/-- A run for the frame that succeeds does its steps. -/
theorem performs_generateBase {summary : Summary}
    (run : execute (generateBase config) before = (.ok summary, after)) :
    Performs config schema texts path (frameSteps config texts) before after := by
  obtain ⟨loaded, results, files, given, copied, -⟩ := exists_execute_copyFile run
  have base (pair : TemplateFile × String) (member : pair ∈ baseTemplates.zip loaded) :
      pair.1 ∈ baseTemplates :=
    (List.of_mem_zip (a := pair.1) (b := pair.2) member).1
  have each (pair : TemplateFile × String) (member : pair ∈ baseTemplates.zip loaded)
      {start last : Disk} {result : String × WriteResult}
      (copied : execute (copyFile config.projectRoot pair) start = (.ok result, last)) :
      Performs config schema texts path [.create pair.1.destination pair.2] start last := by
    obtain ⟨outcome, written, -⟩ := execute_copyFile_eq_ok copied
    exact performs_writeFile_skip texts named output
      (List.mem_append_right _ (List.mem_map_of_mem (base pair member))) written
  have performs := performs_mapM texts named each copied
  refine ⟨performs.tree, performs.changes, fun ground reached => ?_⟩
  have known (pair : TemplateFile × String) (member : pair ∈ baseTemplates.zip loaded) :
      pair.2 = texts (join config.baseTemplatesPath pair.1.template) :=
    ground.known _ (List.mem_append_right _ (List.mem_map_of_mem (base pair member))) _
      (given pair member)
  have steps : frameSteps config texts =
      (baseTemplates.zip loaded).map fun pair => .create pair.1.destination pair.2 := by
    rw [frameSteps, ← files, List.map_map, files]
    exact List.map_congr_left fun pair member => by simp [known pair member]
  rw [performs.node ground reached, ← List.map_eq_flatMap, steps]

end Performs

section Frame

variable {config : Config} {summary : Summary} {before after : Disk}
  (run : execute (generateBase config) before = (.ok summary, after))

include run

/-- The templates of a run for the frame that succeeds are texts. -/
theorem exists_textAt_of_generateBase {file : TemplateFile} (member : file ∈ baseTemplates) :
    ∃ text, textAt before (join config.baseTemplatesPath file.template) = .ok text := by
  obtain ⟨loaded, results, files, given, -⟩ := exists_execute_copyFile run
  rw [← files] at member
  obtain ⟨pair, isPair, rfl⟩ := List.mem_map.1 member
  exact ⟨pair.2, given pair isPair⟩

/-- Something is at each path of the frame after a run for it. -/
theorem hasEntry_of_generateBase {file : TemplateFile} (member : file ∈ baseTemplates) :
    after.hasEntry (join config.projectRoot file.destination) = true := by
  obtain ⟨loaded, results, files, -, copied, -⟩ := exists_execute_copyFile run
  rw [← files] at member
  obtain ⟨pair, isPair, rfl⟩ := List.mem_map.1 member
  have grows (pair : TemplateFile × String) :
      Respects Grows (copyFile config.projectRoot pair) :=
    Respects.bind chains_grows (fun disk => (respects_writeFile_skip _ _ disk).grows) fun _ =>
      Respects.pure chains_grows _
  obtain ⟨_, result, last, -, own, later⟩ :=
    exists_execute_of_mem chains_grows (fun pair _ => grows pair) copied isPair
  obtain ⟨outcome, written, -⟩ := execute_copyFile_eq_ok own
  exact later.hasEntry (hasEntry_of_writeFile written)

end Frame

end Project
end SchemaScaffold
