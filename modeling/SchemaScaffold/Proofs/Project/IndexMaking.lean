import SchemaScaffold.Proofs.Project.Registration
import SchemaScaffold.Proofs.Project.TableFiles

/-!
# Making the index

What the routes index of a project has in it after a run. An index that is there from the start,
or that no table makes, knows all tables afterwards. A table that is named like the index makes
it from the template for routes, and then it is up to that text to have the lines of the tables
in front.
-/

namespace SchemaScaffold
namespace Project

open Disk (Grows)
open Disk.Path (IsInside join names)
open RoutesIndex (Registered)

section Index

variable {root directory : String} {disk after : Disk}

/-- Once a table has its files, the project is reached without detours. -/
theorem direct_of_makeTableFiles {table : Table} (tree : disk.IsTree)
    {files : List (String × WriteResult)}
    (made : execute (makeTableFiles root directory table) disk = (.ok files, after)) :
    after.IsTree ∧ after.Direct root := by
  have stillTree : after.IsTree := (respects_makeTableFiles chains_keepsTree
    fun _ _ text => keepsTree_writeFile_skip _ text).of_execute made tree
  obtain ⟨_, _, middle, -, poolMade, -⟩ := execute_makeTableFiles_eq_ok.1 made
  obtain ⟨template, outcome, -, written, -⟩ := execute_makeFile_eq_ok.1 poolMade
  exact ⟨stillTree, Disk.direct_of_hasEntry stillTree
    (isInside_of_mem_sharedPaths poolTemplate.destination List.mem_cons_self) (by decide)
    (hasEntry_of_writeFile written)⟩

/-- No file is made at the place of the index. -/
def KeepsAbsent (root : String) (before after : Disk) : Prop :=
  Grows before after ∧ (before.file? (before.destination (join root routesIndex)) = none →
    after.file? (before.destination (join root routesIndex)) = none)

theorem chains_keepsAbsent (root : String) : Chains (KeepsAbsent root) where
  refl disk := ⟨Grows.refl disk, fun absent => absent⟩
  trans first second := by
    refine ⟨first.1.trans second.1, fun absent => ?_⟩
    have middle := first.2 absent
    rw [← first.1.destination] at middle ⊢
    exact second.2 middle

theorem keepsAbsent_careful {table : Table} (named : IsNamed table) {path : String}
    (careful : path ∈ carefulPaths table) (apart : names path ≠ names routesIndex)
    (text : String) : Respects (KeepsAbsent root) (writeFile (join root path) text .skip) := by
  intro disk
  have touched := respects_writeFile_skip (join root path) text disk
  refine ⟨touched.grows, fun absent => ?_⟩
  rw [touched.file?_of_ne, absent]
  rw [isInside_routesIndex.destination_join,
    (isInside_of_mem_carefulPaths named path careful).destination_join]
  exact fun same => apart (List.append_cancel_left same).symm

/-- A table that is not named like the index makes no index. -/
theorem keepsAbsent_generateTable {table : Table} (named : IsNamed table)
    (other : table.name ≠ "index") :
    Respects (KeepsAbsent root) (generateTable root directory table) :=
  respects_generateTable (chains_keepsAbsent root)
    (fun _ careful => keepsAbsent_careful named careful fun same =>
      other (eq_routesIndex_of_careful named careful same).2)
    fun disk isFile text => ⟨(respects_overwrite _ text disk).grows,
      fun absent => absurd absent (Disk.file?_of_isFile isFile)⟩

theorem keepsAbsent_writeDocuments {config : Config} (schema : Schema) (name : String) :
    Respects (KeepsAbsent config.projectRoot) (writeDocuments config schema name) := by
  refine respects_writeDocuments (chains_keepsAbsent _) (fun path document text disk => ?_) _ _
  have touched := respects_writeFile_overwrite (join config.projectRoot path) text disk
  refine ⟨touched.grows, fun absent => ?_⟩
  rw [touched.file?_of_ne, absent]
  exact destination_shared_ne (by simp [sharedPaths]) (mem_sharedPaths_of_document document)
    (ne_routesIndex_of_document document).symm _ _

/-- Without a table that is named like the index, a run makes no index. -/
theorem keepsAbsent_produce {run : FullRun} {schema : Schema}
    (named : ∀ table ∈ schema.tables, IsNamed table)
    (noIndex : ∀ table ∈ schema.tables, table.name ≠ "index") (name : String) :
    Respects (KeepsAbsent run.root) (run.produce schema name) := by
  have chains := chains_keepsAbsent run.root
  refine Respects.bind chains (Respects.mapM chains fun table member => ?_) fun outcomes => ?_
  · exact keepsAbsent_generateTable (named table member) (noIndex table member)
  · exact Respects.bind chains (keepsAbsent_writeDocuments schema name) fun documents =>
      Respects.pure chains _

/-- An index that is there after a run is a text: it was there when the routes of the last table
were updated. -/
theorem isReadable_of_produce {run : FullRun} {schema : Schema} {name : String}
    {summary : Summary} (tree : disk.IsTree) (named : ∀ table ∈ schema.tables, IsNamed table)
    (hasTables : schema.tables ≠ [])
    (produced : execute (run.produce schema name) disk = (.ok summary, after)) :
    IsReadable run.root after := by
  intro found
  obtain ⟨_, _, middle, tablesMade, documentsMade, -⟩ := FullRun.execute_produce_eq_ok.1 produced
  obtain ⟨front, table, shape⟩ : ∃ front table, schema.tables = front ++ [table] :=
    ⟨_, _, (List.dropLast_concat_getLast hasTables).symm⟩
  rw [shape] at tablesMade
  obtain ⟨_, _, before, frontMade, lastMade, -⟩ := execute_mapM_append_eq_ok.1 tablesMade
  obtain ⟨_, _, last, own, done, -⟩ := execute_mapM_cons_eq_ok.1 lastMade
  obtain rfl : last = middle := (Prod.mk.inj done).2
  obtain ⟨-, settled, made, updated⟩ := execute_generateTable_eq_ok.1 own
  have beforeTree : before.IsTree := (Respects.mapM chains_keepsTree fun other _ =>
    keepsTree_generateTable _ _ other).of_execute frontMade tree
  obtain ⟨settledTree, direct⟩ := direct_of_makeTableFiles beforeTree made
  have changes : ChangesOnly run.root documentPaths last after :=
    (changesOnly_writeDocuments name).of_execute documentsMade
  have apart : ∀ path ∈ documentPaths,
      last.destination (join run.root routesIndex) ≠ last.destination (join run.root path) :=
    fun path document => destination_shared_ne (by simp [sharedPaths])
      (mem_sharedPaths_of_document document) (ne_routesIndex_of_document document).symm _ _
  have isFile : settled.isFile (join run.root routesIndex) = true := by
    by_contra missing
    rw [execute_updateRoutes_of_missing (by simpa using missing)] at updated
    obtain rfl : settled = last := (Prod.mk.inj updated).2
    refine missing (isInside_routesIndex.isFile_of_grows settledTree direct changes.1 ?_ found)
    have standing := Disk.file?_of_isFile found
    rwa [changes.1.destination, changes.2 _ apart] at standing
  obtain ⟨content, text, -⟩ :=
    registered_of_updateRoutes (named table (by simp [shape])).2 isFile updated
  refine ⟨content, ?_⟩
  rw [changes.textAt_eq (isFile_of_textAt text) apart]
  exact text

/-- The files of a table are there once they have been made. -/
theorem hasEntry_of_makeTableFiles {table : Table} {files : List (String × WriteResult)}
    (made : execute (makeTableFiles root directory table) disk = (.ok files, after))
    {file : TemplateFile} (member : file ∈ tableTemplates) :
    after.hasEntry (join root (tablePath table file)) = true := by
  obtain ⟨_, _, middle, ownMade, poolMade, -⟩ := execute_makeTableFiles_eq_ok.1 made
  obtain ⟨_, _, last, -, fileMade, grows⟩ := exists_execute_of_mem chains_grows
    (fun other _ => grows_makeFile _ _ _ other) ownMade member
  obtain ⟨template, outcome, -, written, -⟩ := execute_makeFile_table_eq_ok.1 fileMade
  exact ((grows_makeFile _ _ _ _).of_execute poolMade).hasEntry
    (grows.hasEntry (hasEntry_of_writeFile written))

/-- An index that is there after a run is there from the files of the first table on, if it was
there before, or if the first table is named like it. -/
theorem isFile_of_makeTableFiles {table : Table} {files : List (String × WriteResult)}
    {last : Disk} (tree : disk.IsTree)
    (made : execute (makeTableFiles root directory table) disk = (.ok files, after))
    (grows : Grows after last) (found : last.isFile (join root routesIndex) = true)
    (early : disk.file? (disk.destination (join root routesIndex)) ≠ none ∨
      table.name = "index") : after.isFile (join root routesIndex) = true := by
  rcases early with standing | index
  · obtain ⟨stillTree, direct⟩ := direct_of_makeTableFiles tree made
    refine isInside_routesIndex.isFile_of_grows stillTree direct grows ?_ found
    have larger : Grows disk after := (grows_makeTableFiles _ _ _).of_execute made
    rw [larger.destination]
    exact larger.file?_ne_none standing
  · have routes : routesTemplate ∈ tableTemplates := by decide
    have entry := hasEntry_of_makeTableFiles made routes
    rw [tablePath_of_index index, Disk.hasEntry, Bool.or_eq_true] at entry
    refine entry.resolve_right fun isDirectory => ?_
    simp [Disk.isFile_of_isDirectory (grows.isDirectory isDirectory)] at found

/-- From a table on all are registered if the index was there before, or if the table makes it. -/
theorem isRegistered_of_produce {run : FullRun} {schema : Schema} {name : String}
    {summary : Summary} (tree : disk.IsTree) (named : ∀ table ∈ schema.tables, IsNamed table)
    {front back : List Table} {table : Table} (shape : schema.tables = front ++ table :: back)
    (produced : execute (run.produce schema name) disk = (.ok summary, after))
    (found : after.isFile (join run.root routesIndex) = true)
    (early : disk.file? (disk.destination (join run.root routesIndex)) ≠ none ∨
      table.name = "index") :
    ∀ other ∈ table :: back, IsRegistered run.root after other := by
  obtain ⟨_, _, middle, tablesMade, documentsMade, -⟩ := FullRun.execute_produce_eq_ok.1 produced
  rw [shape] at named tablesMade
  have laterNamed : ∀ other ∈ table :: back, IsNamed other :=
    fun other member => named other (List.mem_append_right _ member)
  obtain ⟨_, _, before, frontMade, laterMade, -⟩ := execute_mapM_append_eq_ok.1 tablesMade
  obtain ⟨_, _, next, own, backMade, -⟩ := execute_mapM_cons_eq_ok.1 laterMade
  obtain ⟨-, settled, made, updated⟩ := execute_generateTable_eq_ok.1 own
  have frontTree : before.IsTree := (Respects.mapM chains_keepsTree fun other _ =>
    keepsTree_generateTable _ _ other).of_execute frontMade tree
  have frontGrows : Grows disk before := (grows_generateTables _ _ _).of_execute frontMade
  have indexGrows : Grows settled next := (grows_updateRoutes _ _).of_execute updated
  have backGrows : Grows next middle := (grows_generateTables _ _ _).of_execute backMade
  have documentsPatch : PatchesIndex run.root [] middle after :=
    (patchesIndex_writeDocuments schema name).of_execute documentsMade
  have growsTables := indexGrows.trans backGrows
  have isFile : settled.isFile (join run.root routesIndex) = true := by
    refine isFile_of_makeTableFiles frontTree made (growsTables.trans documentsPatch.1) found ?_
    rw [frontGrows.destination]
    exact early.imp_left frontGrows.file?_ne_none
  intro other member
  exact documentsPatch.isRegistered (laterNamed other member) (growsTables.isFile isFile)
    (isRegistered_of_first laterNamed made isFile laterMade other member)

end Index

/-- The index is there before a run, or the text that one of the tables makes of it has the lines
of all tables in front. -/
def FullRun.KnowsTables (run : FullRun) (disk : Disk) (schema : Schema) : Prop :=
  disk.node? (disk.destination (join run.root routesIndex)) ≠ none ∨
    ∀ front maker back, schema.tables = front ++ maker :: back → maker.name = "index" →
      ∀ template, textAt disk (join run.templates routesTemplate.template) = .ok template →
        ∀ table ∈ front, Registered
          (Template.render template (Template.entityTokens maker.entityNames)) table.name

section Maker

variable {run : FullRun} {disk after : Disk} {schema : Schema} {name : String}
  {summary : Summary} {front back : List Table} {maker : Table}
  (named : ∀ table ∈ schema.tables, IsNamed table) (shape : schema.tables = front ++ maker :: back)
  (index : maker.name = "index")
  (produced : execute (run.produce schema name) disk = (.ok summary, after))

include named shape index produced

/-- If nothing is at the place of the index when its turn comes, it is made from the template for
routes, and later registrations alone change it. -/
theorem exists_index_made {early : Disk → Disk → Prop} (chains : Chains early)
    (frontEarly : ∀ other ∈ front, Respects early (generateTable run.root run.templates other))
    (ownEarly : ∀ file ∈ tableTemplates, file ≠ routesTemplate → Respects early
      (makeFile run.root run.templates (Template.entityTokens maker.entityNames) file))
    (missing : ∀ middle, early disk middle → Grows middle after →
      ¬ middle.hasEntry (join run.root routesIndex) = true) :
    ∃ middle template last, early disk middle ∧
      textAt middle (join run.templates routesTemplate.template) = .ok template ∧
      last.isFile (join run.root routesIndex) = true ∧
      textAt last (join run.root routesIndex) = .ok
        (Template.render template (Template.entityTokens maker.entityNames)) ∧
      PatchesIndex run.root (maker :: back) last after := by
  have late := chains_patchesIndex run.root (maker :: back)
  have makerNamed : IsNamed maker := named maker (by simp [shape])
  have files : tableTemplates = tableTemplates.dropLast ++ routesTemplate :: [] := by decide
  have others : ∀ file ∈ tableTemplates.dropLast,
      file ∈ tableTemplates ∧ file ≠ routesTemplate := by decide
  obtain ⟨middle, result, last, before, made, behind⟩ :=
    FullRun.exists_execute_makeFile chains late shape files frontEarly
      (fun file member => ownEarly file (others file member).1 (others file member).2)
      (fun file member => absurd member List.not_mem_nil)
      (respects_pool late (patchesIndex_writeFile_skip makerNamed
        (List.mem_append_right _ (List.mem_singleton.2 rfl))))
      (patchesIndex_updateRoutes makerNamed List.mem_cons_self)
      (fun other member => patchesIndex_generateTable (named other (by simp [shape, member]))
        (List.mem_cons_of_mem _ member))
      (patchesIndex_writeDocuments schema name) produced
  have path := tablePath_of_index index
  have grows := ((grows_makeFile _ _ _ _).of_execute made).trans behind.1
  obtain ⟨template, text, there, content⟩ :=
    read_of_makeFile (path ▸ missing middle before grows) made
  rw [path] at there content
  exact ⟨middle, template, last, before, text, there, textAt_of_read content, behind⟩

/-- Tables in front of the one that makes the index are registered if the text that is made has
their lines. -/
theorem isRegistered_of_made
    (template : disk.isFile (join run.templates routesTemplate.template) = true)
    (absent : disk.file? (disk.destination (join run.root routesIndex)) = none)
    (others : ∀ table ∈ front, table.name ≠ "index")
    (known : ∀ original, textAt disk (join run.templates routesTemplate.template) = .ok original →
      ∀ table ∈ front, Registered
        (Template.render original (Template.entityTokens maker.entityNames)) table.name)
    (found : after.isFile (join run.root routesIndex) = true) :
    ∀ table ∈ front, IsRegistered run.root after table := by
  have chains := (chains_changesOnly run.root (outputs schema)).and (chains_keepsAbsent run.root)
  have routes : routesTemplate ∈ tableTemplates := by decide
  have makerMember : maker ∈ schema.tables := by simp [shape]
  have makerNamed := named maker makerMember
  have frontMember {table : Table} (inFront : table ∈ front) : table ∈ schema.tables := by
    simp [shape, inFront]
  obtain ⟨middle, loaded, last, ⟨changes, -⟩, text, there, content, patches⟩ :=
    exists_index_made named shape index produced chains
      (fun table inFront disk => ⟨changesOnly_generateTable (frontMember inFront) disk,
        keepsAbsent_generateTable (named table (frontMember inFront)) (others table inFront) disk⟩)
      (fun file member other => by
        have careful : tablePath maker file ∈ carefulPaths maker :=
          List.mem_append_left _ (List.mem_map_of_mem member)
        have apart : names (tablePath maker file) ≠ names routesIndex := fun same => other
          (names_tablePath_shared makerNamed member (by simp [sharedPaths]) same).2.1
        exact respects_makeFile chains fun text disk =>
          ⟨changesOnly_careful makerMember careful text disk,
            keepsAbsent_careful makerNamed careful apart text disk⟩)
      (fun middle before grows entry => by
        rw [Disk.hasEntry, Bool.or_eq_true] at entry
        rcases entry with isFile | isDirectory
        · refine absurd ?_ (Disk.file?_of_isFile isFile)
          rw [before.1.1.destination]
          exact before.2.2 absent
        · simp [Disk.isFile_of_isDirectory (grows.isDirectory isDirectory)] at found)
  rw [changes.textAt_eq template fun output isOutput =>
    destination_template_ne named isOutput (List.mem_append_left _ routes) _ _ _] at text
  intro table inFront
  exact patches.isRegistered (named table (frontMember inFront)) there
    fun _ => ⟨_, content, known loaded text table inFront⟩

end Maker

section Complete

variable {run : FullRun} {disk after : Disk} {schema : Schema} {name : String}
  {summary : Summary}
  (named : ∀ table ∈ schema.tables, IsNamed table)
  (template : disk.isFile (join run.templates routesTemplate.template) = true)
  (produced : execute (run.produce schema name) disk = (.ok summary, after))

include named template produced

/-- A run registers all tables if the index knows them. -/
theorem isComplete_of_knowsTables (tree : disk.IsTree) (known : run.KnowsTables disk schema) :
    IsComplete run.root after schema := by
  intro table member found
  by_cases standing : disk.file? (disk.destination (join run.root routesIndex)) = none
  · rcases known with occupied | known
    · have grows : Grows disk after := (run.grows_produce schema name).of_execute produced
      refine absurd ?_ (Disk.file?_of_isFile found)
      rw [grows.destination]
      exact grows.file?_eq_none occupied standing
    · cases made : schema.tables.find? (·.name = "index") with
      | none =>
        have noIndex : ∀ table ∈ schema.tables, table.name ≠ "index" := by
          simpa using made
        have keeps := (keepsAbsent_produce named noIndex name).of_execute produced
        refine absurd ?_ (Disk.file?_of_isFile found)
        rw [keeps.1.destination]
        exact keeps.2 standing
      | some maker =>
        obtain ⟨isIndex, front, back, shape, others⟩ := List.find?_eq_some_iff_append.1 made
        have index : maker.name = "index" := by simpa using isIndex
        rw [shape, List.mem_append] at member
        rcases member with inFront | later
        · exact isRegistered_of_made named shape index produced template standing
            (fun other inFront => by simpa using others other inFront)
            (known front maker back shape index) found table inFront found
        · exact isRegistered_of_produce tree named shape produced found (.inr index) table later
            found
  · obtain ⟨first, rest, shape⟩ : ∃ first rest, schema.tables = [] ++ first :: rest :=
      List.exists_cons_of_ne_nil (List.ne_nil_of_mem member)
    exact isRegistered_of_produce tree named shape produced found (.inl standing) table
      (by simpa [shape] using member) found

/-- If a run registers all tables, the index knows them. -/
theorem knowsTables_of_isComplete (nodup : schema.tableNames.Nodup)
    (direct : disk.Direct run.root) (complete : IsComplete run.root after schema) :
    run.KnowsTables disk schema := by
  by_cases empty : disk.node? (disk.destination (join run.root routesIndex)) = none
  · refine .inr fun front maker back shape index original given table inFront => ?_
    have routes : routesTemplate ∈ tableTemplates := by decide
    have makerMember : maker ∈ schema.tables := by simp [shape]
    have path := tablePath_of_index index
    have apart : ∀ other ∈ front, ∀ later ∈ maker :: back, other.name ≠ later.name := by
      rw [Schema.tableNames, shape, List.map_append, List.nodup_append] at nodup
      exact fun other isFront later isLater =>
        nodup.2.2 _ (List.mem_map_of_mem isFront) _ (List.mem_map_of_mem isLater)
    have frontApart (other : Table) (isFront : other ∈ front) :
        tablePath other routesTemplate ≠ tablePath maker routesTemplate := by
      intro same
      have words := ((tablePath_eq_iff (named other (by simp [shape, isFront]))
        (named maker makerMember) routes routes).1 same).2
      exact apart other isFront maker List.mem_cons_self (by simpa [TemplateFile.word] using words)
    obtain ⟨middle, loaded, last, before, text, there, content, patches⟩ :=
      exists_index_made named shape index produced
        (chains_approaches run.root (tablePath maker routesTemplate) (outputs schema))
        (fun other isFront => approaches_generateTable named makerMember routes
          (by simp [shape, isFront]) (frontApart other isFront) _ _)
        (fun file member other => approaches_makeFile named makerMember routes member other _ _)
        (fun middle before _ found => by
          have stillEmpty := before.2.2.2 direct (path ▸ empty)
          rw [path, ← before.1.1.destination] at stillEmpty
          exact isInside_routesIndex.node?_of_hasEntry (by decide) found stillEmpty)
    rw [before.1.textAt_eq template fun output isOutput =>
      destination_template_ne named isOutput (List.mem_append_left _ routes) _ _ _, given] at text
    obtain rfl : original = loaded := Except.ok.inj text
    have isTable : table ∈ schema.tables := by simp [shape, inFront]
    exact patches.registered (named table isTable)
      (fun other later => ⟨named other (by simpa [shape] using .inr (by simpa using later)),
        apart table inFront other later⟩) there content (complete table isTable)
  · exact .inl empty

end Complete

end Project
end SchemaScaffold
