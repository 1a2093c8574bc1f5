import SchemaScaffold.Proofs.Project.Steps
import SchemaScaffold.Proofs.Project.Success
import SchemaScaffold.Proofs.Project.TableFiles

/-!
# The order of runs

Whether the frame of a project is made before the first full run or after it does not matter once
a full run has come last, as long as the project is reached without detours and no table makes the
routes index.
-/

namespace SchemaScaffold
namespace Project

open Disk (Grows Node SameFiles)
open Disk.Path (IsInside join names)
open RoutesIndex (Registered patchNames)

/-- What the registrations of tables make of what is at the place of the index. -/
def registerAll (tables : List String) (node : Option Node) : Option Node :=
  tables.foldl (fun node table => (Step.register table).act node) node

theorem registerAll_none (tables : List String) : registerAll tables none = none := by
  induction tables with
  | nil => rfl
  | cons table tables ih => exact ih

theorem registerAll_directory (tables : List String) :
    registerAll tables (some .directory) = some .directory := by
  induction tables with
  | nil => rfl
  | cons table tables ih => exact ih

/-- What is there stays there. -/
theorem exists_registerAll_some (tables : List String) (node : Node) :
    ∃ after, registerAll tables (some node) = some after := by
  induction tables generalizing node with
  | nil => exact ⟨node, rfl⟩
  | cons table tables ih => cases node <;> exact ih _

/-- An index that is no text stays as it is. -/
theorem registerAll_of_noText {content : ByteArray} (noText : String.fromUTF8? content = none)
    (tables : List String) : registerAll tables (some (.file content)) = some (.file content) := by
  induction tables with
  | nil => rfl
  | cons table tables ih =>
    have own : (Step.register table).act (some (.file content)) = some (.file content) := by
      simp [Step.act, Step.registered, noText]
    rw [registerAll, List.foldl_cons, own]
    exact ih

/-- The text of an index is that with the tables registered. -/
theorem exists_registerAll {content : ByteArray} {text : String}
    (decoded : String.fromUTF8? content = some text) (tables : List String) :
    ∃ after, registerAll tables (some (.file content)) = some (.file after) ∧
      String.fromUTF8? after = some (patchNames text tables) := by
  induction tables generalizing content text with
  | nil => exact ⟨content, rfl, decoded⟩
  | cons table tables ih =>
    have own : String.fromUTF8? (Step.registered table content) =
        some (RoutesIndex.patch text table) := by
      rw [Step.registered, decoded]
      dsimp only
      split
      · next same => rw [decoded, same]
      · exact Text.fromUTF8?_toUTF8 _
    exact ih own

/-- Nothing changes in an index in which all tables are registered. -/
theorem registerAll_of_registered {tables : List String}
    (named : ∀ table ∈ tables, IsNameText table.toList) {content : ByteArray} {text : String}
    (decoded : String.fromUTF8? content = some text)
    (registered : ∀ table ∈ tables, Registered text table) :
    registerAll tables (some (.file content)) = some (.file content) := by
  induction tables with
  | nil => rfl
  | cons table tables ih =>
    obtain ⟨first, others⟩ := List.forall_mem_cons.1 named
    obtain ⟨present, restPresent⟩ := List.forall_mem_cons.1 registered
    have same : RoutesIndex.patch text table = text :=
      (RoutesIndex.patch_eq_self_iff first).2 present
    have own : (Step.register table).act (some (.file content)) = some (.file content) := by
      simp [Step.act, Step.registered, decoded, same]
    rw [registerAll, List.foldl_cons, own]
    exact ih others restPresent

/-- Registering tables again changes nothing. -/
theorem registerAll_registerAll {tables : List String}
    (named : ∀ table ∈ tables, IsNameText table.toList) (node : Option Node) :
    registerAll tables (registerAll tables node) = registerAll tables node := by
  cases node with
  | none => rw [registerAll_none, registerAll_none]
  | some node =>
    cases node with
    | directory => rw [registerAll_directory, registerAll_directory]
    | file content =>
      cases decoded : String.fromUTF8? content with
      | none => rw [registerAll_of_noText decoded, registerAll_of_noText decoded]
      | some text =>
        obtain ⟨after, written, patched⟩ := exists_registerAll decoded tables
        rw [written]
        exact registerAll_of_registered named patched fun table member =>
          RoutesIndex.registered_patchNames named member text

section Steps

variable {config : Config} {texts : String → String} {schema : Schema}
  {name collection path : String}

/-- A step of a full run makes a file, replaces a document or registers a table. -/
theorem step_cases {step : Step} (member : step ∈ fullSteps config texts schema name collection) :
    (∃ table ∈ schema.tables, ∃ file ∈ tableTemplates, ∃ text,
        step = .create (tablePath table file) text) ∨
      (∃ text, step = .create poolTemplate.destination text) ∨
      (∃ table ∈ schema.tables, step = .register table.name) ∨
      ∃ document ∈ documentPaths, ∃ text, step = .replace document text := by
  rcases List.mem_append.1 member with own | document
  · obtain ⟨table, inside, ofTable⟩ := List.mem_flatMap.1 own
    rcases List.mem_append.1 ofTable with made | last
    · obtain ⟨file, isTemplate, rfl⟩ := List.mem_map.1 made
      exact .inl ⟨table, inside, file, isTemplate, _, rfl⟩
    · simp only [List.mem_cons, List.not_mem_nil, or_false] at last
      rcases last with rfl | rfl
      · exact .inr (.inl ⟨_, rfl⟩)
      · exact .inr (.inr (.inl ⟨table, inside, rfl⟩))
  · simp only [documentSteps, List.mem_cons, List.not_mem_nil, or_false] at document
    rcases document with rfl | rfl | rfl | rfl <;>
      exact .inr (.inr (.inr ⟨_, by simp [documentPaths], _, rfl⟩))

/-- At a path that is neither the index nor that of a document full runs only make files. -/
theorem creates_of_fullSteps (noIndex : names path ≠ names routesIndex)
    (noDocument : ∀ document ∈ documentPaths, names document ≠ names path) :
    ∀ step ∈ fullSteps config texts schema name collection, names step.path = names path →
      ∃ text, step = .create step.path text := by
  intro step member here
  rcases step_cases member with ⟨table, -, file, -, text, rfl⟩ | ⟨text, rfl⟩ | ⟨table, -, rfl⟩ |
    ⟨document, isDocument, text, rfl⟩
  · exact ⟨text, rfl⟩
  · exact ⟨text, rfl⟩
  · exact absurd here.symm noIndex
  · exact absurd here (noDocument document isDocument)

/-- Runs for the frame only make files. -/
theorem creates_of_frameSteps :
    ∀ step ∈ frameSteps config texts, names step.path = names path →
      ∃ text, step = .create step.path text := by
  intro step member _
  obtain ⟨file, -, rfl⟩ := List.mem_map.1 member
  exact ⟨_, rfl⟩

/-- At a path that is neither the index nor that of a document only one kind of runs has steps. -/
theorem apart_of_frameSteps_or_fullSteps (named : ∀ table ∈ schema.tables, IsNamed table)
    (output : path ∈ allPaths schema) (noIndex : names path ≠ names routesIndex)
    (noDocument : ∀ document ∈ documentPaths, names document ≠ names path) :
    (∀ step ∈ frameSteps config texts, names step.path ≠ names path) ∨
      ∀ step ∈ fullSteps config texts schema name collection, names step.path ≠ names path := by
  have poolApart : ∀ other ∈ framePaths, names other ≠ names poolTemplate.destination := by
    decide
  rcases List.mem_append.1 output with own | frame
  · refine .inl fun step member same => ?_
    obtain ⟨file, isBase, rfl⟩ := List.mem_map.1 member
    have frame : file.destination ∈ framePaths := List.mem_map_of_mem isBase
    rcases List.mem_append.1 own with ofTable | shared
    · obtain ⟨table, inside, made⟩ := List.mem_flatMap.1 ofTable
      obtain ⟨template, isTemplate, rfl⟩ := List.mem_map.1 made
      have index := (names_tablePath_fixed (named table inside) isTemplate
        (List.mem_append_right _ frame) same.symm).1
      exact noIndex (same.symm.trans (congrArg names index))
    · rcases List.mem_cons.1 shared with rfl | others
      · exact poolApart _ frame same
      · rcases List.mem_cons.1 others with rfl | document
        · exact noIndex rfl
        · exact noDocument path document rfl
  · refine .inr fun step member same => ?_
    rcases step_cases member with ⟨table, inside, file, isTemplate, text, rfl⟩ | ⟨text, rfl⟩ |
      ⟨table, -, rfl⟩ | ⟨document, isDocument, text, rfl⟩
    · have index := (names_tablePath_fixed (named table inside) isTemplate
        (List.mem_append_right _ frame) same).1
      exact noIndex (congrArg names index)
    · exact poolApart path frame same.symm
    · exact noIndex same.symm
    · exact noDocument document isDocument same

/-- What a document is after a full run does not depend on what was there. -/
theorem actAt_fullSteps_document {document : String} (isDocument : document ∈ documentPaths)
    (same : names document = names path) (node other : Option Node) :
    actAt path (fullSteps config texts schema name collection) node =
      actAt path (fullSteps config texts schema name collection) other := by
  have paths : (documentSteps config schema name collection).map Step.path = documentPaths := rfl
  have replaces : ∀ step ∈ documentSteps config schema name collection,
      ∃ text, step = .replace step.path text := by simp [documentSteps]
  rw [← paths] at isDocument
  obtain ⟨step, member, rfl⟩ := List.mem_map.1 isDocument
  obtain ⟨text, replaced⟩ := replaces step member
  obtain ⟨before, after, shape⟩ := List.append_of_mem (List.mem_append_right
    (schema.tables.flatMap (tableSteps config texts)) member)
  rw [fullSteps, shape, actAt_append, actAt_append, actAt_cons, actAt_cons, if_pos same,
    if_pos same, replaced]
  rfl

theorem actAt_tableSteps_index {table : Table} (named : IsNamed table)
    (noIndex : table.name ≠ "index") (node : Option Node) :
    actAt routesIndex (tableSteps config texts table) node =
      (Step.register table.name).act node := by
  have poolApart : names poolTemplate.destination ≠ names routesIndex := by
    decide
  rw [tableSteps, actAt_append, actAt_cons, actAt_singleton, Step.path_create, if_neg poolApart,
    Step.path_register, if_pos rfl, actAt_of_apart]
  intro step member same
  obtain ⟨file, isTemplate, rfl⟩ := List.mem_map.1 member
  exact noIndex (names_tablePath_shared named isTemplate (by simp [sharedPaths]) same).2.2

/-- A full run registers its tables in an index that is there. -/
theorem actAt_fullSteps_index (named : ∀ table ∈ schema.tables, IsNamed table)
    (noIndex : ∀ table ∈ schema.tables, table.name ≠ "index") (node : Option Node) :
    actAt routesIndex (fullSteps config texts schema name collection) node =
      registerAll schema.tableNames node := by
  have documents : ∀ step ∈ documentSteps config schema name collection,
      names step.path ≠ names routesIndex := by
    simp only [documentSteps, List.forall_mem_cons, Step.path_replace]
    decide
  rw [fullSteps, actAt_append, actAt_of_apart documents, Schema.tableNames]
  generalize schema.tables = tables at named noIndex
  induction tables generalizing node with
  | nil => rfl
  | cons table tables ih =>
    obtain ⟨firstNamed, othersNamed⟩ := List.forall_mem_cons.1 named
    obtain ⟨firstOther, others⟩ := List.forall_mem_cons.1 noIndex
    rw [List.flatMap_cons, actAt_append, actAt_tableSteps_index firstNamed firstOther,
      ih _ othersNamed others]
    rfl

/-- A full run after a run for the frame does what it does if another full run came before. -/
theorem actAt_full_frame_full (named : ∀ table ∈ schema.tables, IsNamed table)
    (noIndex : ∀ table ∈ schema.tables, table.name ≠ "index") (output : path ∈ allPaths schema)
    (node : Option Node) :
    actAt path (fullSteps config texts schema name collection ++ frameSteps config texts ++
        fullSteps config texts schema name collection) node =
      actAt path (frameSteps config texts ++ fullSteps config texts schema name collection)
        node := by
  simp only [actAt_append]
  by_cases index : names path = names routesIndex
  · simp only [actAt_congr index, actAt_fullSteps_index named noIndex]
    have tableNamed : ∀ table ∈ schema.tableNames, IsNameText table.toList :=
      List.forall_mem_map.2 fun table member => (named table member).2
    cases node with
    | none => rw [registerAll_none]
    | some node =>
      obtain ⟨standing, registered⟩ := exists_registerAll_some schema.tableNames node
      rw [actAt_of_creates creates_of_frameSteps, registered,
        actAt_of_creates creates_of_frameSteps, ← registered, registerAll_registerAll tableNamed]
  · by_cases document : ∃ document ∈ documentPaths, names document = names path
    · obtain ⟨document, isDocument, same⟩ := document
      exact actAt_fullSteps_document isDocument same _ _
    · have noDocument : ∀ document ∈ documentPaths, names document ≠ names path := by
        simpa using document
      rcases apart_of_frameSteps_or_fullSteps named output index noDocument with apart | apart
      · rw [actAt_of_apart apart, actAt_of_apart apart]
        exact actAt_actAt_of_creates (creates_of_fullSteps index noDocument)
      · rw [actAt_of_apart apart, actAt_of_apart apart, actAt_of_apart apart]

end Steps

/-! ## Sequences of runs -/

/-- The schema of a run is not read from a place at which runs put files. -/
def FullRun.IsApart (run : FullRun) (disk : Disk) : Prop :=
  ∀ schema name, run.Prepared disk schema name → ∀ path ∈ allPaths schema,
    disk.destination run.input ≠ disk.destination (join run.root path)

/-- No table of the schema of a run makes the index. -/
def FullRun.LeavesIndex (run : FullRun) (disk : Disk) : Prop :=
  ∀ schema name, run.Prepared disk schema name → ∀ table ∈ schema.tables, table.name ≠ "index"

/-- Make runs one after another. -/
def runAll (runs : List ProjectRun) : Run (StateM Disk) (List Summary) :=
  runs.mapM (·.program)

/-- The texts that are read on a disk. -/
def readTexts (disk : Disk) (path : String) : String :=
  (textAt disk path).toOption.getD ""

/-- Where the server of a project is. -/
def serverPlace (run : FullRun) (disk : Disk) : Location :=
  disk.destination (join run.root serverTemplate.destination)

section Sequences

variable {run : FullRun} {disk : Disk} {schema : Schema} {name : String}

/-- Runs that succeed work as steps if the project is reached without detours. -/
theorem FullRun.Prepared.isGround (prepared : run.Prepared disk schema name) (tree : disk.IsTree)
    (direct : disk.Direct run.root) {summary : Summary} {after : Disk}
    (framed : execute (generateBase run.config) disk = (.ok summary, after)) :
    IsGround run.config (readTexts disk) disk where
  tree := tree
  direct := direct
  isFile path member := by
    rcases List.mem_append.1 member with own | base
    · obtain ⟨file, isTemplate, rfl⟩ := List.mem_map.1 own
      exact prepared.templates file isTemplate
    · obtain ⟨file, isTemplate, rfl⟩ := List.mem_map.1 base
      obtain ⟨text, given⟩ := exists_textAt_of_generateBase framed isTemplate
      exact isFile_of_textAt given
  known path _ text given := by rw [readTexts, given]; rfl

/-- A full run that has been prepared before does the same steps later. -/
theorem FullRun.Prepared.performs_later (texts : String → String) {collection path : String}
    (prepared : run.Prepared disk schema name)
    (apart : run.IsApart disk) (rendered : Postman.render schema run.config.api = .ok collection)
    {before after : Disk} {summary : Summary}
    (changes : ChangesOnly run.root (allPaths schema) disk before) (output : path ∈ allPaths schema)
    (succeeded : execute run.program before = (.ok summary, after)) :
    Performs run.config schema texts path (fullSteps run.config texts schema name collection)
      before after := by
  have again := prepared.changes (apart schema name prepared) changes
  obtain ⟨other, otherName, later, produced⟩ := execute_program_eq_ok.1 succeeded
  obtain ⟨rfl, rfl⟩ := again.unique later
  obtain ⟨other, otherRendered, performs⟩ := again.performs texts output produced
  obtain rfl : collection = other := Except.ok.inj (rendered.symm.trans otherRendered)
  exact performs

/-- After a run for the frame the index can be followed. -/
theorem isReached_of_runs {before middle after : Disk} {early late : Summary}
    (framed : execute (generateBase run.config) before = (.ok early, middle))
    (succeeded : execute run.program middle = (.ok late, after)) : IsReached run.root after := by
  have indexTemplate : ⟨"routes.index.js.tmpl", routesIndex⟩ ∈ baseTemplates := by decide
  have found := hasEntry_of_generateBase framed indexTemplate
  have grows := run.grows_program.of_execute succeeded
  exact ⟨after, Grows.refl after, grows.hasEntry found⟩

/-- Both orders leave the same files if the project is reached without detours. -/
theorem sameFiles_of_direct {first second third early late : Summary}
    {one two long other short : Disk} (tree : disk.IsTree) (direct : disk.Direct run.root)
    (apart : run.IsApart disk) (noIndex : run.LeavesIndex disk)
    (firstRun : execute run.program disk = (.ok first, one))
    (secondRun : execute (generateBase run.config) one = (.ok second, two))
    (thirdRun : execute run.program two = (.ok third, long))
    (earlyRun : execute (generateBase run.config) disk = (.ok early, other))
    (lateRun : execute run.program other = (.ok late, short)) : SameFiles long short := by
  obtain ⟨schema, name, prepared, produced⟩ := FullRun.execute_program_eq_ok.1 firstRun
  have named := prepared.isNamed
  have ground := prepared.isGround tree direct earlyRun
  have index := routesIndex_mem_allPaths schema
  obtain ⟨collection, rendered, -⟩ := prepared.performs (readTexts disk) index produced
  have longSteps {path : String} (output : path ∈ allPaths schema) :
      Performs run.config schema (readTexts disk) path
        (fullSteps run.config (readTexts disk) schema name collection ++
          frameSteps run.config (readTexts disk) ++
            fullSteps run.config (readTexts disk) schema name collection) disk long := by
    have unchanged := (chains_changesOnly run.root (allPaths schema)).refl disk
    have full := prepared.performs_later (readTexts disk) apart rendered unchanged output firstRun
    have both := full.trans named (performs_generateBase _ named output secondRun)
    exact both.trans named (prepared.performs_later _ apart rendered both.changes output thirdRun)
  have shortSteps {path : String} (output : path ∈ allPaths schema) :
      Performs run.config schema (readTexts disk) path
        (frameSteps run.config (readTexts disk) ++
          fullSteps run.config (readTexts disk) schema name collection) disk short := by
    have frame := performs_generateBase (readTexts disk) named output earlyRun
    exact frame.trans named (prepared.performs_later _ apart rendered frame.changes output lateRun)
  have longReached := isReached_of_runs secondRun thirdRun
  have shortReached := isReached_of_runs earlyRun lateRun
  intro place
  by_cases written : ∃ path ∈ allPaths schema, place = disk.destination (join run.root path)
  · obtain ⟨path, output, rfl⟩ := written
    have same : short.node? (disk.destination (join run.root path)) =
        long.node? (disk.destination (join run.root path)) := by
      rw [FullRun.root, (shortSteps output).node ground shortReached,
        (longSteps output).node ground longReached,
        actAt_full_frame_full named (noIndex schema name prepared) output]
    simp only [Disk.file?, same]
  · have off : ∀ path ∈ allPaths schema, place ≠ disk.destination (join run.root path) := by
      simpa using written
    rw [(shortSteps index).changes.2 place off, (longSteps index).changes.2 place off]

/-- The first file of a full run for a project behind a detour is written in any case, and then
the project is reached without detours. -/
theorem file?_of_detour {summary : Summary} {after : Disk} (tree : disk.IsTree)
    (prepared : run.Prepared disk schema name)
    (produced : execute (run.produce schema name) disk = (.ok summary, after)) {place : Location}
    (spared : IsSpared run.root disk place)
    (apart : ∀ table ∈ schema.tables,
      place ≠ disk.destination (join run.root (tablePath table controllerTemplate)))
    {content : ByteArray} (standing : disk.file? place = some content) :
    after.IsTree ∧ after.Direct run.root ∧ after.file? place = some content := by
  obtain ⟨table, rest, shape⟩ : ∃ table rest, schema.tables = [] ++ table :: rest :=
    List.exists_cons_of_ne_nil (by simpa [Schema.isEmpty] using prepared.tables)
  have member : table ∈ schema.tables := by simp [shape]
  obtain ⟨_, last, made, lastTree, lastDirect, keeps⟩ :=
    exists_controller_made prepared produced shape rfl tree place
  obtain ⟨_, _, -, written, -⟩ := execute_makeFile_table_eq_ok.1 made
  have touched := (respects_writeFile_skip _ _).of_execute written
  refine ⟨keeps.tree lastTree, lastDirect.grows keeps.grows, ?_⟩
  refine keeps.file lastTree lastDirect (spared.grows touched.grows) content ?_
  rw [touched.file?_of_ne (apart table member), standing]

/-- No run replaces files at the place of the server. -/
theorem isSpared_serverPlace (run : FullRun) (disk : Disk) :
    IsSpared run.root disk (serverPlace run disk) := by
  have apart : ∀ path ∈ rewrittenPaths,
      names serverTemplate.destination ≠ names path ∧ IsInside path := by decide
  have inside : IsInside serverTemplate.destination := by decide
  intro path rewritten same
  obtain ⟨other, pathInside⟩ := apart path rewritten
  rw [serverPlace, inside.destination_join, pathInside.destination_join] at same
  exact other (List.append_cancel_left same)

/-- The server stays as it is if a full run comes first. -/
theorem server_of_long {first second third : Summary} {one two long : Disk} (tree : disk.IsTree)
    (firstRun : execute run.program disk = (.ok first, one))
    (secondRun : execute (generateBase run.config) one = (.ok second, two))
    (thirdRun : execute run.program two = (.ok third, long)) {content : ByteArray}
    (standing : disk.file? (serverPlace run disk) = some content) :
    long.file? (serverPlace run disk) = some content := by
  obtain ⟨schema, name, prepared, produced⟩ := FullRun.execute_program_eq_ok.1 firstRun
  have spared := isSpared_serverPlace run disk
  have serverFixed : serverTemplate.destination ∈ fixedPaths := by decide
  have inside : IsInside serverTemplate.destination := by decide
  have apart (table : Table) (member : table ∈ schema.tables) : serverPlace run disk ≠
      disk.destination (join run.root (tablePath table controllerTemplate)) := by
    have named := prepared.isNamed table member
    have isTemplate : controllerTemplate ∈ tableTemplates := List.mem_cons_self
    intro same
    rw [serverPlace, inside.destination_join,
      (isInside_tablePath named isTemplate).destination_join] at same
    exact absurd (names_tablePath_fixed named isTemplate serverFixed
      (List.append_cancel_left same).symm).1 (by decide)
  obtain ⟨treeOne, directOne, one⟩ := file?_of_detour tree prepared produced spared apart standing
  have growsOne := run.grows_program.of_execute firstRun
  have keepsTwo := ((ProjectRun.base run.config).keepsFile (serverPlace run disk)).of_execute
    secondRun
  have two := keepsTwo.file treeOne directOne (spared.grows growsOne) content one
  have keepsLong := ((ProjectRun.full run).keepsFile (serverPlace run disk)).of_execute thirdRun
  exact keepsLong.file (keepsTwo.tree treeOne) (directOne.grows keepsTwo.grows)
    (spared.grows (growsOne.trans keepsTwo.grows)) content two

/-- The server of a project behind a detour is that of the template if the frame comes first. -/
theorem server_of_short {early late : Summary} {other short : Disk} (tree : disk.IsTree)
    (detour : ¬ disk.Direct run.root)
    (earlyRun : execute (generateBase run.config) disk = (.ok early, other))
    (lateRun : execute run.program other = (.ok late, short)) :
    ∃ template, textAt disk (join run.config.baseTemplatesPath serverTemplate.template) =
        .ok template ∧ short.file? (serverPlace run disk) = some template.toUTF8 := by
  obtain ⟨template, given, standing⟩ := file?_of_generateBase tree detour earlyRun
  refine ⟨template, given, ?_⟩
  have keepsOther := ((ProjectRun.base run.config).keepsFile (serverPlace run disk)).of_execute
    earlyRun
  have keepsShort := ((ProjectRun.full run).keepsFile (serverPlace run disk)).of_execute lateRun
  have otherTree := keepsOther.tree tree
  have direct : other.Direct run.root := by
    have inside : IsInside serverTemplate.destination := by decide
    have isTemplate : serverTemplate ∈ baseTemplates := by decide
    exact Disk.direct_of_hasEntry otherTree inside (by decide)
      (hasEntry_of_generateBase earlyRun isTemplate)
  exact keepsShort.file otherTree direct
    ((isSpared_serverPlace run disk).grows keepsOther.grows) _ standing

end Sequences

section Sequence

variable {run : FullRun} {disk long short : Disk} {summaries : List Summary}

theorem exists_runs_of_long
    (longRun : execute (runAll [.full run, .base run.config, .full run]) disk =
      (.ok summaries, long)) :
    ∃ first second third one two, execute run.program disk = (.ok first, one) ∧
      execute (generateBase run.config) one = (.ok second, two) ∧
        execute run.program two = (.ok third, long) := by
  obtain ⟨first, _, one, firstRun, later, -⟩ := execute_mapM_cons_eq_ok.1 longRun
  obtain ⟨second, _, two, secondRun, later, -⟩ := execute_mapM_cons_eq_ok.1 later
  obtain ⟨third, _, three, thirdRun, done, -⟩ := execute_mapM_cons_eq_ok.1 later
  obtain rfl : three = long := (Prod.mk.inj done).2
  exact ⟨first, second, third, one, two, firstRun, secondRun, thirdRun⟩

theorem exists_runs_of_short
    (shortRun : execute (runAll [.base run.config, .full run]) disk = (.ok summaries, short)) :
    ∃ early late other, execute (generateBase run.config) disk = (.ok early, other) ∧
      execute run.program other = (.ok late, short) := by
  obtain ⟨early, _, other, earlyRun, later, -⟩ := execute_mapM_cons_eq_ok.1 shortRun
  obtain ⟨late, _, last, lateRun, done, -⟩ := execute_mapM_cons_eq_ok.1 later
  obtain rfl : last = short := (Prod.mk.inj done).2
  exact ⟨early, late, other, earlyRun, lateRun⟩

end Sequence

/-- A full run, a run for the frame and another full run leave the same files as a run for the frame
and a full run, if no table makes the index, the schema is no output and the project is reached
without detours. Behind a detour the server stays as it is in the first sequence, and is replaced
by that of the template in the second one. -/
theorem orders_agree {run : FullRun} {disk long short : Disk} {summaries others : List Summary}
    (tree : disk.IsTree) (apart : run.IsApart disk) (noIndex : run.LeavesIndex disk)
    (longRun : execute (runAll [.full run, .base run.config, .full run]) disk =
      (.ok summaries, long))
    (shortRun : execute (runAll [.base run.config, .full run]) disk = (.ok others, short)) :
    (disk.Direct run.root → SameFiles long short) ∧
      (¬ disk.Direct run.root → ∀ content, disk.file? (serverPlace run disk) = some content →
        long.file? (serverPlace run disk) = some content ∧
          ∃ template, textAt disk (join run.config.baseTemplatesPath serverTemplate.template) =
            .ok template ∧ short.file? (serverPlace run disk) = some template.toUTF8) := by
  obtain ⟨first, second, third, one, two, firstRun, secondRun, thirdRun⟩ :=
    exists_runs_of_long longRun
  obtain ⟨early, late, other, earlyRun, lateRun⟩ := exists_runs_of_short shortRun
  refine ⟨fun direct => ?_, fun detour content standing => ⟨?_, ?_⟩⟩
  · exact sameFiles_of_direct tree direct apart noIndex firstRun secondRun thirdRun earlyRun lateRun
  · exact server_of_long tree firstRun secondRun thirdRun standing
  · exact server_of_short tree detour earlyRun lateRun

/-- A working directory with a server of its own, beside a schema and templates of both kinds. -/
def orderDisk : Disk where
  workingDirectory := []
  nodes := [(["server.js"], .file "mine".toUTF8),
      (["schema.sql"], .file "CREATE TABLE cars (id INT) ENGINE=InnoDB;".toUTF8)] ++
    allTemplates.map fun file => ([file.template], .file "theirs".toUTF8)

/-- A full run for the schema. -/
def orderRun (root : String) : FullRun where
  config := { projectRoot := root, templatesDir := "/", baseTemplatesDir := "/" }
  sqlPath := some "/schema.sql"
  database := some "shop"
  answer := .error .noSuchEntry

theorem isTree_orderDisk : orderDisk.IsTree := by
  decide

theorem tables_orderRun {root : String} {schema : Schema} {name : String}
    (prepared : (orderRun root).Prepared orderDisk schema name) : schema.tableNames = ["cars"] := by
  obtain ⟨sql, text, -, rfl⟩ := prepared.text
  have given : textAt orderDisk "/schema.sql" =
      .ok "CREATE TABLE cars (id INT) ENGINE=InnoDB;" := textAt_of_read (by rfl)
  obtain rfl := Except.ok.inj (given.symm.trans text)
  decide

theorem leavesIndex_orderRun (root : String) : (orderRun root).LeavesIndex orderDisk := by
  intro schema name prepared table member index
  have inside : table.name ∈ schema.tableNames := List.mem_map_of_mem member
  rw [tables_orderRun prepared, index] at inside
  simp at inside

theorem isApart_orderRun {root : String} (here : orderDisk.destination root = []) :
    (orderRun root).IsApart orderDisk := by
  intro schema name prepared path output
  have input : orderDisk.destination (orderRun root).input = ["schema.sql"] := by
    change orderDisk.destination "/schema.sql" = _
    decide
  refine destination_top_ne prepared.isNamed output "schema.sql" (by decide) (input.trans ?_)
  change _ = orderDisk.destination root ++ _
  rw [here]
  rfl

/-- The schema for which the runs are made. -/
def orderSchema : Schema :=
  Sql.parse "CREATE TABLE cars (id INT) ENGINE=InnoDB;"

/-- Two paths of the same project: the second one takes a detour. -/
def orderRoots : List String := [".", "new/.."]

theorem destination_orderRoots : ∀ root ∈ orderRoots, orderDisk.destination root = [] := by
  decide

/-- Both kinds of templates are read from the directory at the top. -/
theorem directories_orderRun : ∀ root ∈ orderRoots,
    (orderRun root).templates = "/" ∧ (orderRun root).config.baseTemplatesPath = "/" := by
  decide

theorem textAt_orderDisk : ∀ file ∈ allTemplates,
    textAt orderDisk (join "/" file.template) = .ok "theirs" := by
  decide +kernel

theorem prepared_orderRun {root : String} (member : root ∈ orderRoots) :
    (orderRun root).Prepared orderDisk orderSchema "shop" where
  input := by
    change orderDisk.isFile "/schema.sql" = true
    decide
  directory := by
    rw [(directories_orderRun root member).1]
    decide
  text := by
    have given : textAt orderDisk "/schema.sql" =
        .ok "CREATE TABLE cars (id INT) ENGINE=InnoDB;" := textAt_of_read (by rfl)
    exact ⟨_, given, by decide, rfl⟩
  tables := by decide
  named := by
    change chosenName (some "shop") orderSchema.database (.error .noSuchEntry) = _
    decide
  templates := by
    rw [(directories_orderRun root member).1]
    exact fun file isTemplate =>
      isFile_of_textAt (textAt_orderDisk file (List.mem_append_left _ isTemplate))

theorem isRunnable_orderRun {root : String} (member : root ∈ orderRoots) :
    (orderRun root).IsRunnable orderDisk orderSchema "shop" := by
  have prepared := prepared_orderRun member
  have sizes : ∀ root ∈ orderRoots, root ≠ "" ∧
      (join root "").utf8ByteSize ≤ Disk.maxNameSize := by decide
  have place := destination_orderRoots root member
  refine .of_short prepared (sizes root member).1 (sizes root member).2 (by decide)
    (isApart_orderRun place orderSchema "shop" prepared) ?_ Postman.isOk_parse_baseUrl
  rw [(directories_orderRun root member).1]
  exact fun file isTemplate => ⟨_, textAt_orderDisk file (List.mem_append_left _ isTemplate)⟩

/-- The server of the working directory is in nobody's way. -/
theorem opens_orderDisk {root : String} (member : root ∈ orderRoots) :
    Opens orderDisk root (allPaths orderSchema) orderDisk := by
  have clear : ∀ root ∈ orderRoots, (orderDisk.createDirectories root).1.isOk = true ∧
      (∀ entry ∈ (orderDisk.createDirectories root).2.nodes, ∀ path ∈ allPaths orderSchema,
        entry.1 <+: orderDisk.destination root ++ names path →
          (entry.2 = .directory ↔ entry.1 ≠ orderDisk.destination root ++ names path)) ∧
      (orderDisk.createDirectories root).2.node?
        (orderDisk.destination root ++ names routesIndex) = none := by
    decide +kernel
  obtain ⟨created, free, noIndex⟩ := clear root member
  exact opens_of_nodes (isRunnable_orderRun member).apart created free noIndex

/-- All runs succeed one after another, in any order. -/
theorem exists_execute_orderRuns {root : String} (member : root ∈ orderRoots)
    (runs : List ProjectRun)
    (known : ∀ run ∈ runs, run = .full (orderRun root) ∨ run = .base (orderRun root).config) :
    ∃ summaries after, execute (runAll runs) orderDisk = (.ok summaries, after) := by
  have isRunnable := isRunnable_orderRun member
  have each : ∀ run ∈ runs,
      Succeeds (Opens orderDisk root (allPaths orderSchema)) run.program := by
    intro run inside
    rcases known run inside with rfl | rfl
    · exact isRunnable.succeeds_program
    · refine isRunnable.succeeds_frame isRunnable.prepared.directory ?_
      rw [(directories_orderRun root member).2]
      exact fun file isBase => ⟨_, textAt_orderDisk file (List.mem_append_right _ isBase)⟩
  obtain ⟨summaries, after, run, -⟩ :=
    Succeeds.mapM each orderDisk (opens_orderDisk member)
  exact ⟨summaries, after, run⟩

/-- The order does not matter for the path without a detour. -/
theorem orderRun_agrees : orderDisk.IsTree ∧ (orderRun ".").IsApart orderDisk ∧
    (orderRun ".").LeavesIndex orderDisk ∧ orderDisk.Direct "." ∧
    ∃ long short summaries others,
      execute (runAll [.full (orderRun "."), .base (orderRun ".").config, .full (orderRun ".")])
        orderDisk = (.ok summaries, long) ∧
      execute (runAll [.base (orderRun ".").config, .full (orderRun ".")]) orderDisk =
        (.ok others, short) ∧ SameFiles long short := by
  have member : "." ∈ orderRoots := List.mem_cons_self
  obtain ⟨summaries, long, longRun⟩ := exists_execute_orderRuns member
    [.full (orderRun "."), .base (orderRun ".").config, .full (orderRun ".")] (by simp)
  obtain ⟨others, short, shortRun⟩ := exists_execute_orderRuns member
    [.base (orderRun ".").config, .full (orderRun ".")] (by simp)
  have apart := isApart_orderRun (destination_orderRoots _ member)
  have noIndex := leavesIndex_orderRun "."
  have direct : orderDisk.Direct "." := by decide
  exact ⟨isTree_orderDisk, apart, noIndex, direct, long, short, summaries, others, longRun,
    shortRun, (orders_agree isTree_orderDisk apart noIndex longRun shortRun).1 direct⟩

/-- The order matters for the path with a detour: only the first sequence spares the server. -/
theorem orderRun_differs : orderDisk.IsTree ∧ (orderRun "new/..").IsApart orderDisk ∧
    (orderRun "new/..").LeavesIndex orderDisk ∧ ∃ long short summaries others,
      execute (runAll [.full (orderRun "new/.."), .base (orderRun "new/..").config,
        .full (orderRun "new/..")]) orderDisk = (.ok summaries, long) ∧
      execute (runAll [.base (orderRun "new/..").config, .full (orderRun "new/..")]) orderDisk =
        (.ok others, short) ∧ ¬ SameFiles long short := by
  have member : "new/.." ∈ orderRoots := by simp [orderRoots]
  obtain ⟨summaries, long, longRun⟩ := exists_execute_orderRuns member
    [.full (orderRun "new/.."), .base (orderRun "new/..").config,
      .full (orderRun "new/..")] (by simp)
  obtain ⟨others, short, shortRun⟩ := exists_execute_orderRuns member
    [.base (orderRun "new/..").config, .full (orderRun "new/..")] (by simp)
  refine ⟨isTree_orderDisk, isApart_orderRun (destination_orderRoots _ member),
    leavesIndex_orderRun _, long, short, summaries, others, longRun, shortRun, fun same => ?_⟩
  obtain ⟨first, second, third, one, two, firstRun, secondRun, thirdRun⟩ :=
    exists_runs_of_long longRun
  obtain ⟨early, late, other, earlyRun, lateRun⟩ := exists_runs_of_short shortRun
  have kept : long.file? (serverPlace (orderRun "new/..") orderDisk) = some "mine".toUTF8 :=
    server_of_long isTree_orderDisk firstRun secondRun thirdRun (by decide)
  obtain ⟨template, given, replaced⟩ :=
    server_of_short isTree_orderDisk (by decide) earlyRun lateRun
  have theirs : textAt orderDisk (join (orderRun "new/..").config.baseTemplatesPath
      serverTemplate.template) = .ok "theirs" := textAt_of_read (by rfl)
  obtain rfl := Except.ok.inj (theirs.symm.trans given)
  rw [← same, replaced] at kept
  revert kept
  decide

end Project
end SchemaScaffold
