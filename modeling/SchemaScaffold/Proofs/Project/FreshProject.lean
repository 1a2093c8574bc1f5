import SchemaScaffold.Project.ShippedTemplates
import SchemaScaffold.Proofs.Disk.Twins
import SchemaScaffold.Proofs.Project.Layout
import SchemaScaffold.Proofs.Project.Order
import SchemaScaffold.Proofs.Project.Standalone

/-!
# Fresh projects

A project is made in a vacant root by a run for its frame and a full run. Apart from the documents
it has the files of the frame, those of the tables and the pool, each made from its template, and
an index in which all tables are registered.
-/

namespace SchemaScaffold
namespace Project

open Disk (Grows Node)
open Disk.Path (IsInside join names)
open RoutesIndex (patchNames)

/-- The directories of templates are those that come with the program. -/
structure HoldsShipped (disk : Disk) (config : Config) : Prop where
  directory : disk.isDirectory config.baseTemplatesPath = true
  own : ∀ pair ∈ Shipped.tableTexts,
    textAt disk (join config.templatesPath pair.1.template) = .ok pair.2
  base : ∀ pair ∈ Shipped.frameTexts,
    textAt disk (join config.baseTemplatesPath pair.1.template) = .ok pair.2

/-- The files of a fresh project that are made from shipped templates, given by their names below
the root and their texts. -/
inductive IsMadeFrom (schema : Schema) : List String → String → Prop where
  | frame {pair : TemplateFile × String} (member : pair ∈ Shipped.frameTexts)
      (noIndex : pair.1.destination ≠ routesIndex) :
      IsMadeFrom schema (names pair.1.destination) pair.2
  | index : IsMadeFrom schema (names routesIndex)
      (patchNames Shipped.indexText schema.tableNames)
  | own {table : Table} {pair : TemplateFile × String} (member : table ∈ schema.tables)
      (given : pair ∈ Shipped.tableTexts) (isTemplate : pair.1 ∈ tableTemplates) :
      IsMadeFrom schema (names (tablePath table pair.1))
        (Template.render pair.2 (Template.entityTokens table.entityNames))
  | pool : IsMadeFrom schema (names poolTemplate.destination) Shipped.poolText

theorem map_fst_tableTexts : Shipped.tableTexts.map (·.1) = tableTemplates ++ [poolTemplate] :=
  rfl

theorem map_fst_frameTexts : Shipped.frameTexts.map (·.1) = baseTemplates :=
  rfl

/-- The first step that makes a file where there is nothing decides what is in it. -/
theorem exists_create_of_actAt {path : String} {steps : List Step}
    (creates : ∀ step ∈ steps, names step.path = names path →
      ∃ text, step = .create step.path text)
    (occurs : ∃ step ∈ steps, names step.path = names path) :
    ∃ other text, .create other text ∈ steps ∧ names other = names path ∧
      actAt path steps none = some (.file text.toUTF8) := by
  induction steps with
  | nil => simp at occurs
  | cons step steps ih =>
    obtain ⟨first, others⟩ := List.forall_mem_cons.1 creates
    rw [actAt_cons]
    by_cases here : names step.path = names path
    · obtain ⟨text, shape⟩ := first here
      refine ⟨step.path, text, shape ▸ List.mem_cons_self, here, ?_⟩
      rw [if_pos here, shape]
      exact actAt_of_creates others _
    · obtain ⟨later, member, there⟩ := occurs
      have further : later ∈ steps := by
        rcases List.mem_cons.1 member with rfl | further
        · exact absurd there here
        · exact further
      obtain ⟨other, text, made, same, result⟩ := ih others ⟨later, further, there⟩
      rw [if_neg here]
      exact ⟨other, text, List.mem_cons_of_mem _ made, same, result⟩

section Steps

variable {config : Config} {texts : String → String} {schema : Schema} {name collection : String}

/-- A full run makes files from the templates for tables and that of the pool. -/
theorem create_mem_fullSteps {path text : String}
    (member : .create path text ∈ fullSteps config texts schema name collection) :
    (∃ table ∈ schema.tables, ∃ file ∈ tableTemplates, path = tablePath table file ∧
        text = Template.render (texts (join config.templatesPath file.template))
          (Template.entityTokens table.entityNames)) ∨
      path = poolTemplate.destination ∧
        text = texts (join config.templatesPath poolTemplate.template) := by
  rcases List.mem_append.1 member with own | document
  · obtain ⟨table, inside, ofTable⟩ := List.mem_flatMap.1 own
    rcases List.mem_append.1 ofTable with made | last
    · obtain ⟨file, isTemplate, same⟩ := List.mem_map.1 made
      obtain ⟨rfl, rfl⟩ := Step.create.inj same
      exact .inl ⟨table, inside, file, isTemplate, rfl, rfl⟩
    · obtain ⟨rfl, rfl⟩ : path = poolTemplate.destination ∧
          text = Template.render (texts (join config.templatesPath poolTemplate.template)) [] := by
        simpa using last
      exact .inr ⟨rfl, String.ofList_toList⟩
  · simp [documentSteps] at document

/-- Each output has a step of its own. -/
theorem exists_step_of_mem_outputs {path : String} (hasTables : schema.tables ≠ [])
    (output : path ∈ outputs schema) :
    ∃ step ∈ fullSteps config texts schema name collection, names step.path = names path := by
  have ofTable {table : Table} (member : table ∈ schema.tables) {step : Step}
      (inside : step ∈ tableSteps config texts table) :
      step ∈ fullSteps config texts schema name collection :=
    List.mem_append_left _ (List.mem_flatMap.2 ⟨table, member, inside⟩)
  obtain ⟨first, member⟩ := List.exists_mem_of_ne_nil _ hasTables
  rcases List.mem_append.1 output with own | shared
  · obtain ⟨table, member, made⟩ := List.mem_flatMap.1 own
    obtain ⟨file, isTemplate, rfl⟩ := List.mem_map.1 made
    exact ⟨_, ofTable member (List.mem_append_left _ (List.mem_map_of_mem isTemplate)), rfl⟩
  · simp only [sharedPaths, List.mem_cons, List.not_mem_nil, or_false] at shared
    rcases shared with rfl | rfl | document
    · exact ⟨_, ofTable member (List.mem_append_right _ List.mem_cons_self), rfl⟩
    · exact ⟨_, ofTable member (List.mem_append_right _ (List.mem_cons_of_mem _
        List.mem_cons_self)), rfl⟩
    · have paths : (documentSteps config schema name collection).map Step.path = documentPaths :=
        rfl
      have isDocument : path ∈ documentPaths := by simpa [documentPaths] using document
      rw [← paths] at isDocument
      obtain ⟨step, inside, rfl⟩ := List.mem_map.1 isDocument
      exact ⟨step, List.mem_append_right _ inside, rfl⟩

/-- A full run registers its tables in an index that is there, even if tables are named like it. -/
theorem actAt_fullSteps_standing (standing : Node) :
    actAt routesIndex (fullSteps config texts schema name collection) (some standing) =
      registerAll schema.tableNames (some standing) := by
  have documents : ∀ step ∈ documentSteps config schema name collection,
      names step.path ≠ names routesIndex := by
    simp only [documentSteps, List.forall_mem_cons, Step.path_replace]
    decide
  rw [fullSteps, actAt_append, actAt_of_apart documents, Schema.tableNames]
  generalize schema.tables = tables
  induction tables generalizing standing with
  | nil => rfl
  | cons table tables ih =>
    have own : actAt routesIndex (tableSteps config texts table) (some standing) =
        (Step.register table.name).act (some standing) := by
      rw [tableSteps, List.append_cons, actAt_append, actAt_singleton, Step.path_register,
        if_pos rfl, actAt_of_creates]
      intro step member _
      rcases List.mem_append.1 member with made | pool
      · obtain ⟨file, -, rfl⟩ := List.mem_map.1 made
        exact ⟨_, rfl⟩
      · obtain rfl := List.mem_singleton.1 pool
        exact ⟨_, rfl⟩
    obtain ⟨next, registered⟩ := exists_registerAll_some [table.name] standing
    rw [List.flatMap_cons, actAt_append, own]
    have stays : (Step.register table.name).act (some standing) = some next := registered
    rw [stays, ih next, List.map_cons, registerAll, registerAll, List.foldl_cons,
      stays]

end Steps

section Fresh

variable {run : FullRun} {disk middle : Disk} {early : Summary} (tree : disk.IsTree)
  (vacant : disk.IsVacant run.root)
  (framed : execute (generateBase run.config) disk = (.ok early, middle))

include framed

theorem staysWithin_of_framed : StaysWithin run.root framePaths disk middle := by
  refine Respects.of_execute (respects_generateBase (chains_staysWithin _ _) ?_) framed
  exact fun file member text disk =>
    (respects_writeFile_skip _ text disk).staysWithin (List.mem_map_of_mem member)

include tree vacant

/-- What is in the root after a run for the frame stands at a file of the frame or above one. -/
theorem exists_prefix_of_framed {inner : List String} (strict : inner ≠ [])
    (standing : middle.node? (disk.destination run.root ++ inner) ≠ none) :
    ∃ path ∈ framePaths, inner <+: names path := by
  have within := staysWithin_of_framed framed
  obtain ⟨path, member, found⟩ := within.2 (disk.destination run.root ++ inner) (by
    rwa [vacant.node?_eq_none strict])
  have inside := (isInside_of_mem_fixedPaths path (List.mem_append_right _ member)).1
  refine ⟨path, member, ?_⟩
  rcases found with here | ⟨onWay, -⟩
  · rw [inside.destination_join, List.append_cancel_left_eq] at here
    exact here ▸ List.prefix_rfl
  · rcases inside.mem_wayOf_join onWay with above | ⟨-, below⟩
    · exact absurd above (vacant.not_mem_wayOf tree strict)
    · rwa [inside.destination_join, List.prefix_append_right_inj] at below

/-- A run for the frame makes its files from the templates. -/
theorem file?_of_framed (shipped : HoldsShipped disk run.config)
    {pair : TemplateFile × String} (member : pair ∈ Shipped.frameTexts) :
    middle.file? (disk.destination run.root ++ names pair.1.destination) =
      some pair.2.toUTF8 := by
  have isBase : pair.1 ∈ baseTemplates :=
    map_fst_frameTexts ▸ List.mem_map_of_mem member
  have inside := isInside_of_mem_baseTemplates pair.1 isBase
  have further := further_of_mem_baseTemplates isBase
  have missing : SeemsMissing run.config.projectRoot disk pair.1 := by
    refine .inr ?_
    rw [inside.destination_join]
    exact ⟨vacant.node?_eq_none further, vacant.not_mem_wayOf tree further⟩
  obtain ⟨text, given, file⟩ := (isFramed_of_generateBase tree framed).made pair.1 isBase missing
  obtain rfl := Except.ok.inj ((shipped.base pair member).symm.trans given)
  rwa [inside.destination_join] at file

end Fresh

section Files

variable {run : FullRun} {disk middle after : Disk} {early late : Summary} (tree : disk.IsTree)
  (vacant : disk.IsVacant run.root) (shipped : HoldsShipped disk run.config)
  (framed : execute (generateBase run.config) disk = (.ok early, middle))
  {schema : Schema} {name : String} (prepared : run.Prepared middle schema name)
  (produced : execute (run.produce schema name) middle = (.ok late, after))

include framed prepared

include shipped in
theorem readTexts_shipped {pair : TemplateFile × String} (member : pair ∈ Shipped.tableTexts) :
    readTexts middle (join run.config.templatesPath pair.1.template) = pair.2 := by
  have isTemplate : pair.1 ∈ tableTemplates ++ [poolTemplate] :=
    map_fst_tableTexts ▸ List.mem_map_of_mem member
  have given := shipped.own pair member
  have changes : ChangesOnly run.root (allPaths schema) disk middle :=
    (performs_generateBase (readTexts disk) prepared.isNamed (routesIndex_mem_allPaths schema)
      framed).changes
  have same := changes.textAt_eq (isFile_of_textAt given) fun path output =>
    destination_anyTemplate_ne prepared.isNamed output (List.mem_append_left _ isTemplate) _ _ _
  rw [readTexts, same, given]
  rfl

include produced

/-- The files of a fresh project are at the paths of both runs. -/
theorem exists_path_of_file (vacant : disk.IsVacant run.root) {inner : List String}
    (strict : inner ≠ []) {content : ByteArray}
    (standing : after.file? (disk.destination run.root ++ inner) = some content) :
    ∃ path ∈ allPaths schema, inner = names path := by
  have first := staysWithin_of_framed framed
  have second : StaysWithin run.root (outputs schema) middle after :=
    (run.staysWithin_produce schema name).of_execute produced
  have here {path : String} (output : path ∈ allPaths schema)
      (same : disk.destination run.root ++ inner = disk.destination (join run.root path)) :
      inner = names path := by
    rw [(isInside_of_mem_allPaths prepared.isNamed output).1.destination_join] at same
    exact List.append_cancel_left same
  by_cases kept : after.file? (disk.destination run.root ++ inner) =
      middle.file? (disk.destination run.root ++ inner)
  · have changed : middle.file? (disk.destination run.root ++ inner) ≠
        disk.file? (disk.destination run.root ++ inner) := by
      rw [← kept, standing, Disk.file?, vacant.node?_eq_none strict]
      simp
    obtain ⟨path, member, place⟩ := first.file? changed
    have output : path ∈ allPaths schema := List.mem_append_right _ member
    exact ⟨path, output, here output place⟩
  · obtain ⟨path, member, place⟩ := second.file? kept
    rw [first.1.destination] at place
    have output : path ∈ allPaths schema := List.mem_append_left _ member
    exact ⟨path, output, here output place⟩

include tree

/-- A full run after one for the frame does its steps. -/
theorem node?_of_produced {path : String} (output : path ∈ allPaths schema) :
    ∃ collection, after.node? (disk.destination run.root ++ names path) =
      actAt path (fullSteps run.config (readTexts middle) schema name collection)
        (middle.node? (disk.destination run.root ++ names path)) := by
  have frame : (⟨"routes.index.js.tmpl", routesIndex⟩ : TemplateFile) ∈ baseTemplates := by decide
  have found := hasEntry_of_generateBase framed frame
  have first := staysWithin_of_framed framed
  have middleTree : middle.IsTree := Respects.of_execute (respects_generateBase chains_keepsTree
    fun _ _ text => keepsTree_writeFile_skip _ text) framed tree
  have direct : middle.Direct run.root :=
    Disk.direct_of_hasEntry middleTree isInside_routesIndex (by decide) found
  have ground : IsGround run.config (readTexts middle) middle := by
    refine ⟨middleTree, direct, fun path member => ?_, fun path _ text given => ?_⟩
    · rcases List.mem_append.1 member with own | base
      · obtain ⟨file, isTemplate, rfl⟩ := List.mem_map.1 own
        exact prepared.templates file isTemplate
      · obtain ⟨file, isBase, rfl⟩ := List.mem_map.1 base
        obtain ⟨text, given⟩ := exists_textAt_of_generateBase framed isBase
        exact first.1.isFile (isFile_of_textAt given)
    · rw [readTexts, given]
      rfl
  obtain ⟨collection, -, performs⟩ := prepared.performs (readTexts middle) output produced
  have node := performs.node ground
    ⟨after, Grows.refl after, performs.changes.1.hasEntry found⟩
  have inside := (isInside_of_mem_allPaths prepared.isNamed output).1
  have root : middle.destination run.config.projectRoot = disk.destination run.root :=
    first.1.destination run.root
  rw [inside.destination_join, root] at node
  exact ⟨collection, node⟩

include vacant shipped

/-- Apart from the documents all files are made from shipped templates. -/
theorem exists_isMadeFrom {path : String} (output : path ∈ allPaths schema)
    (noDocument : ∀ document ∈ documentPaths, names document ≠ names path) :
    ∃ content text, after.file? (disk.destination run.root ++ names path) = some content ∧
      String.fromUTF8? content = some text ∧ IsMadeFrom schema (names path) text := by
  obtain ⟨collection, node⟩ := node?_of_produced tree framed prepared produced output
  by_cases index : names path = names routesIndex
  · have given : (⟨"routes.index.js.tmpl", routesIndex⟩, Shipped.indexText) ∈
        Shipped.frameTexts := by
      simp [Shipped.frameTexts, baseTemplates]
    have file := file?_of_framed tree vacant framed shipped given
    rw [actAt_congr index, index, Disk.file?_eq_some.1 file, actAt_fullSteps_standing] at node
    obtain ⟨content, registered, decoded⟩ :=
      exists_registerAll (Text.fromUTF8?_toUTF8 Shipped.indexText) schema.tableNames
    rw [index]
    exact ⟨content, _, Disk.file?_eq_some.2 (node.trans registered), decoded, .index⟩
  · have creates : ∀ step ∈ fullSteps run.config (readTexts middle) schema name collection,
        names step.path = names path → ∃ text, step = .create step.path text :=
      creates_of_fullSteps index noDocument
    by_cases frame : ∃ other ∈ framePaths, names other = names path
    · obtain ⟨other, member, same⟩ := frame
      obtain ⟨file, isBase, rfl⟩ := List.mem_map.1 member
      rw [← map_fst_frameTexts] at isBase
      obtain ⟨pair, given, rfl⟩ := List.mem_map.1 isBase
      have file := file?_of_framed tree vacant framed shipped given
      rw [same] at file
      rw [Disk.file?_eq_some.1 file, actAt_of_creates creates] at node
      refine ⟨_, pair.2, Disk.file?_eq_some.2 node, Text.fromUTF8?_toUTF8 _, same ▸ .frame given ?_⟩
      exact fun isIndex => index (same.symm.trans (congrArg names isIndex))
    · have own : path ∈ outputs schema := (List.mem_append.1 output).resolve_right fun member =>
        frame ⟨path, member, rfl⟩
      have further := (isInside_of_mem_allPaths prepared.isNamed output).2
      have empty : middle.node? (disk.destination run.root ++ names path) = none := by
        by_contra standing
        obtain ⟨other, member, below⟩ := exists_prefix_of_framed tree vacant framed further standing
        exact frame ⟨other, member, (names_eq_of_isAbove prepared.isNamed output
          (List.mem_append_right _ member) below).symm⟩
      have hasTables : schema.tables ≠ [] := by
        have tables := prepared.tables
        simpa [Schema.isEmpty] using tables
      obtain ⟨other, text, member, same, result⟩ :=
        exists_create_of_actAt creates (exists_step_of_mem_outputs hasTables own)
      rw [empty, result] at node
      refine ⟨_, text, Disk.file?_eq_some.2 node, Text.fromUTF8?_toUTF8 _, ?_⟩
      have readTexts_eq {pair : TemplateFile × String} (given : pair ∈ Shipped.tableTexts) :=
        readTexts_shipped shipped framed prepared given
      rw [← same]
      rcases create_mem_fullSteps member with ⟨table, inside, file, isTemplate, rfl, rfl⟩ |
        ⟨rfl, rfl⟩
      · have either : file ∈ Shipped.tableTexts.map (·.1) :=
          map_fst_tableTexts ▸ List.mem_append_left _ isTemplate
        obtain ⟨pair, given, rfl⟩ := List.mem_map.1 either
        rw [readTexts_eq given]
        exact .own inside given isTemplate
      · have given : (poolTemplate, Shipped.poolText) ∈ Shipped.tableTexts := by
          simp [Shipped.tableTexts, tableTemplates]
        rw [readTexts_eq given]
        exact .pool

end Files

end Project
end SchemaScaffold
