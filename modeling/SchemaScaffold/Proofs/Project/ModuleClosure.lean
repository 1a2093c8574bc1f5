import SchemaScaffold.Proofs.Artifact.LoadedPaths
import SchemaScaffold.Proofs.Disk.ModuleLookup
import SchemaScaffold.Proofs.Project.FreshProject
import SchemaScaffold.Proofs.Project.Success

/-!
# Modules that load each other

Every relative path by which a module of a fresh project loads another one leads to a file of the
project. The paths come from the templates and from the registration of tables, the files from the
places that the runs choose; they agree whatever the tables are called, and if entities share
their names.
-/

namespace SchemaScaffold
namespace Project

open Disk (IsPlainName arrival arrival_plain)
open Disk.Path (join names)
open Modules (EndsIn IsRelative)

/-- A path that leads from a folder of a project to one of the files that runs write. -/
def LeadsToFile (schema : Schema) (folder : List String) (path : String) : Prop :=
  ∃ base name front, EndsIn path base name ∧
    (∀ root : Location, arrival (root ++ folder) (names base) = root ++ front) ∧
    ∃ output ∈ allPaths schema,
      names output = front ++ [name ++ ".js"] ∨ names output = front ++ [name, "index.js"]

section Leading

variable {schema : Schema} {path base name : String} (ends : EndsIn path base name)
  {inner : List String} (plain : ∀ other ∈ inner, IsPlainName other) {output : String}
  (member : output ∈ allPaths schema)

include ends plain member

/-- A path that starts in the folder itself. -/
theorem leadsToFile_here {folder : List String} (start : names base = "." :: inner)
    (same : names output = folder ++ inner ++ [name ++ ".js"] ∨
      names output = folder ++ inner ++ [name, "index.js"]) :
    LeadsToFile schema folder path := by
  refine ⟨base, name, folder ++ inner, ends, fun root => ?_, output, member, same⟩
  rw [start, Disk.arrival_cons, Disk.follow_dot, arrival_plain plain, List.append_assoc]

/-- A path that starts in the folder above. -/
theorem leadsToFile_beside {front : List String} (last : String)
    (start : names base = ".." :: inner) (same : names output = front ++ inner ++ [name ++ ".js"]) :
    LeadsToFile schema (front ++ [last]) path := by
  refine ⟨base, name, front ++ inner, ends, fun root => ?_, output, member, .inl same⟩
  rw [start, Disk.arrival_cons, Disk.follow_dots, ← List.append_assoc, List.dropLast_concat,
    arrival_plain plain, List.append_assoc]

end Leading

section Made

variable {schema : Schema}

/-- What a module made from a template of the frame loads belongs to the frame. -/
theorem leadsToFile_of_frame {pair : TemplateFile × String} (member : pair ∈ Shipped.frameTexts)
    {path : String} (dotted : path.toList ∈ Text.dottedPieces pair.2.toList) :
    LeadsToFile schema (names pair.1.destination).dropLast path := by
  have none {text : String} (isPlain : text ∈ [Shipped.packageText, Shipped.readmeText,
      Shipped.indexText, Shipped.authText, Shipped.errorHandlerText, Shipped.notFoundText,
      Shipped.poolText]) (inside : path.toList ∈ Text.dottedPieces text.toList)
      (folder : List String) : LeadsToFile schema folder path := by
    rw [Shipped.dottedPieces_eq_nil text isPlain] at inside
    simp at inside
  have frame {other : String} (inside : other ∈ framePaths) : other ∈ allPaths schema :=
    List.mem_append_right _ inside
  simp only [Shipped.frameTexts, baseTemplates, List.zip_cons_cons, List.zip_nil_left,
    List.mem_cons, List.not_mem_nil, or_false] at member
  rcases member with rfl | rfl | rfl | rfl | rfl | rfl | rfl | rfl
  · rw [Shipped.dottedPieces_serverText] at dotted
    have ends : EndsIn path "./src" "app" :=
      ⟨List.mem_singleton.1 dotted, by decide, by decide, by decide⟩
    have inside : "src/app.js" ∈ framePaths := by decide
    have start : names "./src" = ["." , "src"] := by decide
    exact leadsToFile_here ends (by decide) (frame inside) start (.inl (by decide))
  · exact none (by simp) dotted _
  · exact none (by simp) dotted _
  · rw [Shipped.dottedPieces_appText] at dotted
    simp only [List.mem_cons, List.not_mem_nil, or_false] at dotted
    have here : names "." = ["."] := by decide
    have below : names "./middlewares" = [".", "middlewares"] := by decide
    rcases dotted with shape | shape | shape
    · have ends : EndsIn path "." "routes" := ⟨shape, by decide, by decide, by decide⟩
      have inside : routesIndex ∈ framePaths := by decide
      exact leadsToFile_here ends (by decide) (frame inside) here (.inr (by decide))
    · have ends : EndsIn path "./middlewares" "notFound" :=
        ⟨shape, by decide, by decide, by decide⟩
      have inside : "src/middlewares/notFound.js" ∈ framePaths := by decide
      exact leadsToFile_here ends (by decide) (frame inside) below (.inl (by decide))
    · have ends : EndsIn path "./middlewares" "errorHandler" :=
        ⟨shape, by decide, by decide, by decide⟩
      have inside : "src/middlewares/errorHandler.js" ∈ framePaths := by decide
      exact leadsToFile_here ends (by decide) (frame inside) below (.inl (by decide))
  · exact none (by simp) dotted _
  · exact none (by simp) dotted _
  · exact none (by simp) dotted _
  · exact none (by simp) dotted _

/-- A name without dots is plain. -/
theorem endsIn_of_not_mem {path base name : String}
    (shape : path.toList = base.toList ++ '/' :: name.toList) (noSlash : '/' ∉ name.toList)
    (noDot : '.' ∉ name.toList) (nonempty : name ≠ "") : EndsIn path base name := by
  refine ⟨shape, noSlash, ⟨?_, ?_⟩, nonempty⟩ <;>
    (rintro rfl; exact noDot (by decide))

/-- The characters of a text are checked one by one. -/
theorem notMem_of_all {text special : List Char}
    (checked : text.all (fun c => !special.contains c) = true) : ∀ c ∈ text, c ∉ special := by
  intro c member inside
  have apart := List.all_eq_true.1 checked c member
  simp [inside] at apart

variable (named : ∀ table ∈ schema.tables, IsNamed table)

include named

/-- What the routes index loads are the routers of tables. -/
theorem leadsToFile_of_index {path : String}
    (dotted : path.toList ∈
      Text.dottedPieces (RoutesIndex.patchNames Shipped.indexText schema.tableNames).toList) :
    LeadsToFile schema (names routesIndex).dropLast path := by
  have isName : ∀ name ∈ schema.tableNames, IsNameText name.toList := by
    intro name member
    obtain ⟨table, inside, rfl⟩ := List.mem_map.1 member
    exact (named table inside).2
  have start : RoutesIndex.LoadsOnly schema.tableNames Shipped.indexText.toList := by
    constructor
    · rw [Shipped.dottedPieces_eq_nil _ (by simp)]
      simp
    · rw [Shipped.indexText, Shipped.toList_lines]
      decide
  obtain ⟨name, member, shape⟩ :=
    (RoutesIndex.loadsOnly_patchNames isName start).pieces _ dotted
  obtain ⟨table, inside, rfl⟩ := List.mem_map.1 member
  obtain ⟨nonempty, isTable⟩ := named table inside
  have ends : EndsIn path "." table.name :=
    endsIn_of_not_mem shape (isTable.not_mem (by decide)) (isTable.not_mem (by decide)) nonempty
  have pair : (routesTemplate, (⟨"src/routes", (·.table), ".js"⟩ : TablePlace)) ∈
      tableTemplates.zip tablePlaces := .tail _ (.tail _ (.tail _ (.head _)))
  have output : tablePath table routesTemplate ∈ allPaths schema :=
    mem_allPaths_iff.2 (.inl ⟨table, inside, routesTemplate, List.of_mem_zip pair |>.1, rfl⟩)
  have here : names "." = ["."] := by decide
  have folder : (names routesIndex).dropLast = names "src/routes" := by decide
  refine leadsToFile_here ends (by simp) output here (.inl ?_)
  rw [names_tablePath (named table inside) pair, folder, List.append_nil]
  rfl

/-- The folder of a table's file is that of its place. -/
theorem dropLast_names_tablePath {table : Table} (member : table ∈ schema.tables)
    {file : TemplateFile} {place : TablePlace}
    (pair : (file, place) ∈ tableTemplates.zip tablePlaces) {front : List String} {last : String}
    (folder : names place.folder = front ++ [last]) :
    (names (tablePath table file)).dropLast = front ++ [last] := by
  rw [names_tablePath (named table member) pair, List.dropLast_concat, folder]

/-- A path that names the entity of a table leads to the file of the table in another folder. -/
theorem leadsToFile_of_entity {table : Table} (member : table ∈ schema.tables)
    {file : TemplateFile} {place : TablePlace}
    (pair : (file, place) ∈ tableTemplates.zip tablePlaces) (word : place.word = (·.camel))
    {folder ending text : String} (whole : place.ending = ending ++ ".js")
    (code : ∀ c ∈ ending.toList, c ∉ ['\x7b', '/', '.']) (nonempty : ending ≠ "")
    (noBrace : '\x7b' ∉ folder.toList) {front inner : List String} (last : String)
    (start : names folder = ".." :: inner) (plain : ∀ other ∈ inner, IsPlainName other)
    (beside : names place.folder = front ++ inner)
    (leading : ∀ other ∈ Template.leadingPieces text.toList,
      other = folder.toList ++ '/' :: (Template.token "entity" ++ ending.toList) ∨
        other = Template.token "Entity" ++ " not found".toList ∨ other = Template.token "table")
    {path : String} (dotted : path.toList ∈ Text.dottedPieces
      (Template.render text (Template.entityTokens table.entityNames)).toList) :
    LeadsToFile schema (front ++ [last]) path := by
  have isTable := (named table member).2
  have camel : IsNameText table.entityNames.camel.toList := EntityNames.isNameText_camel isTable
  have without {c : Char} (special : c ∈ ['\x7b', '/', '.']) : c ∉ ending.toList :=
    fun inside => code c inside special
  have before : '\x7b' ∉ folder.toList ++ ['/'] := by simp [noBrace]
  have rendered := Template.renderChars_entity (EntityNames.ofTable table.name) before
    (without (by simp)) (camel.not_mem (by decide))
  rw [Template.render, String.toList_ofList] at dotted
  have shape := Template.eq_of_mem_dottedPieces isTable leading dotted
  have ends : EndsIn path folder (table.entityNames.camel ++ ending) := by
    refine endsIn_of_not_mem ?_ ?_ ?_ ?_
    · rw [shape]
      simpa [Table.entityNames] using rendered
    · simp [camel.not_mem (c := '/') (by decide), without (c := '/') (by simp)]
    · simp [camel.not_mem (c := '.') (by decide), without (c := '.') (by simp)]
    · simp [nonempty]
  have output : tablePath table file ∈ allPaths schema :=
    mem_allPaths_iff.2 (.inl ⟨table, member, file, (List.of_mem_zip pair).1, rfl⟩)
  refine leadsToFile_beside ends plain output last start ?_
  rw [names_tablePath (named table member) pair, beside, TablePlace.name, word, whole,
    String.append_assoc]

/-- What a module of a table loads is a module of the same table or the pool. -/
theorem leadsToFile_of_table {table : Table} (member : table ∈ schema.tables)
    {pair : TemplateFile × String} (given : pair ∈ Shipped.tableTexts)
    (isTemplate : pair.1 ∈ tableTemplates) {path : String}
    (dotted : path.toList ∈ Text.dottedPieces
      (Template.render pair.2 (Template.entityTokens table.entityNames)).toList) :
    LeadsToFile schema (names (tablePath table pair.1)).dropLast path := by
  have toServices : names "../services" = ["..", "services"] := by decide
  have toRepositories : names "../repositories" = ["..", "repositories"] := by decide
  have toPool : names "../db" = ["..", "db"] := by decide
  have toControllers : names "../controllers" = ["..", "controllers"] := by decide
  simp only [Shipped.tableTexts, tableTemplates, List.cons_append, List.nil_append,
    List.zip_cons_cons, List.zip_nil_left, List.mem_cons, List.not_mem_nil, or_false] at given
  rcases given with rfl | rfl | rfl | rfl | rfl
  · have folder : names "src/controllers" = ["src"] ++ ["controllers"] := by decide
    rw [dropLast_names_tablePath named member (.head _) folder]
    exact leadsToFile_of_entity named member (.tail _ (.head _)) rfl (by decide)
      (notMem_of_all (by decide)) (by decide) (by decide) _ toServices (by decide) (by decide)
      Shipped.leadingPieces_controllerText dotted
  · have folder : names "src/services" = ["src"] ++ ["services"] := by decide
    rw [dropLast_names_tablePath named member (.tail _ (.head _)) folder]
    exact leadsToFile_of_entity named member (.tail _ (.tail _ (.head _))) rfl (by decide)
      (notMem_of_all (by decide)) (by decide) (by decide) _ toRepositories (by decide) (by decide)
      Shipped.leadingPieces_serviceText dotted
  · have folder : names "src/repositories" = ["src"] ++ ["repositories"] := by decide
    rw [dropLast_names_tablePath named member (.tail _ (.tail _ (.head _))) folder]
    rw [Template.render, String.toList_ofList] at dotted
    have shape := Template.eq_of_mem_dottedPieces (named table member).2
      Shipped.leadingPieces_repositoryText dotted
    rw [Template.renderChars_of_not_mem (by decide)] at shape
    have ends : EndsIn path "../db" "pool" := ⟨shape, by decide, by decide, by decide⟩
    have output : poolTemplate.destination ∈ allPaths schema :=
      mem_allPaths_iff.2 (.inr (by decide))
    exact leadsToFile_beside ends (by decide) output _ toPool (by decide)
  · have folder : names "src/routes" = ["src"] ++ ["routes"] := by decide
    rw [dropLast_names_tablePath named member (.tail _ (.tail _ (.tail _ (.head _)))) folder]
    exact leadsToFile_of_entity named member (.head _) rfl (by decide)
      (notMem_of_all (by decide)) (by decide) (by decide) _ toControllers (by decide) (by decide)
      Shipped.leadingPieces_routesText dotted
  · exact absurd isTemplate (by decide)

/-- What a module of a fresh project loads leads to a file of the project. -/
theorem leadsToFile_of_isMadeFrom {inner : List String} {text path : String}
    (made : IsMadeFrom schema inner text) (loads : Modules.Loads text path)
    (relative : IsRelative path) :
    LeadsToFile schema inner.dropLast path := by
  have dotted := loads.mem_dottedPieces relative
  cases made with
  | frame member noIndex => exact leadsToFile_of_frame member dotted
  | index => exact leadsToFile_of_index named dotted
  | own member given isTemplate => exact leadsToFile_of_table named member given isTemplate dotted
  | pool =>
    rw [Shipped.dottedPieces_eq_nil _ (by simp)] at dotted
    simp at dotted

/-- Only one path of a project ends in the name of a manifest. -/
theorem length_of_manifest {output : String} (member : output ∈ allPaths schema)
    (manifest : (names output).getLast? = some "package.json") : (names output).length = 1 := by
  rcases mem_allPaths_iff.1 member with ⟨table, inside, file, isTemplate, rfl⟩ | fixed
  · obtain ⟨place, pair⟩ := exists_place isTemplate
    rw [names_tablePath (named table inside) pair, List.getLast?_concat] at manifest
    have last : (place.name table).toList.getLast? = some 's' := by
      rw [TablePlace.name, String.toList_append, List.getLast?_append,
        (ending_of_mem_zip pair).2.2]
      rfl
    rw [Option.some.inj manifest] at last
    exact absurd last (by decide)
  · have known : ∀ names ∈ fixedNames, names.getLast? = some "package.json" →
        names.length = 1 := by decide
    exact known _ (names_mem_fixedNames fixed) manifest

end Made

/-- No document is a module. -/
theorem names_document_ne {document : String} (isDocument : document ∈ documentPaths)
    {front : List String} {name : String} (code : ".js".toList <:+ name.toList) :
    names document ≠ front ++ [name] := by
  have known : ∀ document ∈ documentPaths,
      (names document).getLast?.any (".js".toList.isSuffixOf ·.toList) = false := by
    decide
  intro same
  have noCode := known document isDocument
  rw [same, List.getLast?_concat, Option.any_some] at noCode
  rw [List.isSuffixOf_iff_suffix.2 code] at noCode
  simp at noCode

/-! ## Closed projects -/

/-- Every relative path by which a module below a root loads another one is resolved to a file below
the root. -/
def IsClosed (disk : Disk) (root : Location) : Prop :=
  ∀ folder name content, disk.file? (root ++ (folder ++ [name])) = some content →
    ".js".toList <:+ name.toList → ∃ text, String.fromUTF8? content = some text ∧
      ∀ path, Modules.Loads text path → IsRelative path →
        ∃ inner ≠ [], Modules.resolve? disk (root ++ folder) path = some (root ++ inner) ∧
          disk.file? (root ++ inner) ≠ none

section Closed

variable {run : FullRun} {disk middle after : Disk} {early late : Summary} (tree : disk.IsTree)
  (vacant : disk.IsVacant run.root) (shipped : HoldsShipped disk run.config)
  (framed : execute (generateBase run.config) disk = (.ok early, middle))
  {schema : Schema} {name : String} (prepared : run.Prepared middle schema name)
  (produced : execute (run.produce schema name) middle = (.ok late, after))

include tree vacant shipped framed prepared produced

/-- A path that leads to a file of the project is resolved to a file of the project. -/
theorem LeadsToFile.exists_resolve? {folder : List String} {path : String}
    (leads : LeadsToFile schema folder path) :
    ∃ inner ≠ [], Modules.resolve? after (disk.destination run.root ++ folder) path =
        some (disk.destination run.root ++ inner) ∧
      after.file? (disk.destination run.root ++ inner) ≠ none := by
  obtain ⟨base, last, front, ends, arrives, output, member, same⟩ := leads
  have arrival_eq : arrival (disk.destination run.root ++ folder) (names path) =
      disk.destination run.root ++ (front ++ [last]) := by
    rw [ends.arrival_eq, arrives, List.append_assoc]
  have file {place : List String} {code : String} (here : names output = place ++ [code])
      (isCode : ".js".toList <:+ code.toList) :
      after.file? (disk.destination run.root ++ (place ++ [code])) ≠ none := by
    obtain ⟨content, text, standing, -⟩ := exists_isMadeFrom tree vacant shipped framed prepared
      produced member fun document isDocument =>
        here ▸ names_document_ne isDocument isCode
    rw [← here, standing]
    simp
  rcases same with asFile | asIndex
  · have candidate := ends.code_mem_candidates after (disk.destination run.root ++ folder)
    rw [arrives, List.append_assoc] at candidate
    refine Modules.exists_resolve? arrival_eq (by simp) candidate (file asFile ?_)
    rw [String.toList_append]
    exact List.suffix_append _ _
  · have noManifest : after.file? (arrival (disk.destination run.root ++ folder) (names base) ++
        [last, "package.json"]) = none := by
      rw [arrives, List.append_assoc]
      by_contra standing
      obtain ⟨content, found⟩ := Option.ne_none_iff_exists'.1 standing
      obtain ⟨other, isPath, there⟩ := exists_path_of_file framed prepared produced vacant
        (by simp) found
      have length := length_of_manifest prepared.isNamed isPath (by simp [← there])
      simp [← there] at length
    have candidate := ends.index_mem_candidates noManifest
    rw [arrives, List.append_assoc] at candidate
    refine Modules.exists_resolve? arrival_eq (by simp) candidate ?_
    have here : names output = (front ++ [last]) ++ ["index.js"] := by simpa using asIndex
    have standing := file here (by decide)
    simpa using standing

/-- The modules of a fresh project load nothing but files of the project by relative paths. -/
theorem isClosed_of_produced : IsClosed after (disk.destination run.root) := by
  intro folder last content standing code
  obtain ⟨path, member, here⟩ := exists_path_of_file framed prepared produced vacant
    (by simp) standing
  obtain ⟨own, text, found, decoded, made⟩ := exists_isMadeFrom tree vacant shipped framed prepared
    produced member fun document isDocument => here ▸ names_document_ne isDocument code
  rw [← here] at found made
  obtain rfl : own = content := Option.some.inj (found.symm.trans standing)
  refine ⟨text, decoded, fun path loads relative => ?_⟩
  have leads := leadsToFile_of_isMadeFrom prepared.isNamed made loads relative
  rw [List.dropLast_concat] at leads
  exact leads.exists_resolve? tree vacant shipped framed prepared produced

end Closed

/-- The frame is made in a vacant root that leaves room for the documents. -/
theorem exists_framed {config : Config} {disk : Disk} (vacant : disk.IsVacant config.projectRoot)
    (shipped : HoldsShipped disk config)
    (room : (join config.projectRoot postmanPath).utf8ByteSize < Disk.maxPathSize) :
    ∃ summary after, execute (generateBase config) disk = (.ok summary, after) := by
  have none : ∀ table ∈ (⟨.none, []⟩ : Schema).tables, IsNamed table := by simp
  have entry (path : String) (shared : path ∈ sharedPaths) :=
    isEntry_of_mem_fixedPaths path (List.mem_append_left _ shared)
  have known : ∀ path ∈ sharedPaths, path.utf8ByteSize ≤ postmanPath.utf8ByteSize ∧
      ∀ name ∈ names path, name.utf8ByteSize ≤ Disk.maxNameSize := by decide
  have hasRoom : HasRoom config.projectRoot ⟨.none, []⟩ := by
    intro path shared _
    rw [Disk.Path.utf8ByteSize_join (entry path shared).relative]
    rw [Disk.Path.utf8ByteSize_join (entry postmanPath (by simp [sharedPaths])).relative] at room
    have size := (known path shared).1
    omega
  have apart := areApart_allPaths none (Disk.IsReady.root_ne_empty (.inr vacant)) hasRoom
    fun path shared => (known path shared).2
  have sources : ∀ file ∈ baseTemplates, IsSource disk config.projectRoot
      (allPaths ⟨.none, []⟩) (join config.baseTemplatesPath file.template) := by
    intro file isBase
    rw [← map_fst_frameTexts] at isBase
    obtain ⟨pair, member, rfl⟩ := List.mem_map.1 isBase
    refine ⟨⟨pair.2, shipped.base pair member⟩, fun other output => ?_⟩
    refine destination_anyTemplate_ne none output (List.mem_append_right _ ?_) _ _ _
    exact map_fst_frameTexts ▸ List.mem_map_of_mem member
  obtain ⟨summary, after, succeeds, -⟩ := succeeds_generateBase apart
    (List.subset_append_right _ _) shipped.directory sources disk (opens_of_isVacant vacant apart)
  exact ⟨summary, after, succeeds⟩

/-- A run for the frame and a full run that succeeds, in a root that was empty and with the
templates that come with the program, leave modules behind of which each relative path that they
load is resolved to a file below the root. -/
theorem fresh_project_is_closed {run : FullRun} {disk after : Disk} {summary : Summary}
    (tree : disk.IsTree) (vacant : disk.IsVacant run.root)
    (shipped : HoldsShipped disk run.config)
    (succeeds : execute run.program (execute (generateBase run.config) disk).2 =
      (.ok summary, after)) :
    IsClosed after (disk.destination run.root) := by
  obtain ⟨early, middle, framed⟩ := exists_framed vacant shipped (room_of_succeeds succeeds)
  rw [framed] at succeeds
  obtain ⟨schema, name, prepared, produced⟩ := FullRun.execute_program_eq_ok.1 succeeds
  exact isClosed_of_produced tree vacant shipped framed prepared produced

/-- An empty working directory, beside a schema and the templates that come with the program. -/
def shippedDisk : Disk where
  workingDirectory := ["out"]
  nodes := [(["out"], .directory), (["tpl"], .directory), (["frame"], .directory),
      (["schema.sql"], .file sharingSql.toUTF8)] ++
    Shipped.tableTexts.map (fun pair => (["tpl", pair.1.template], .file pair.2.toUTF8)) ++
    Shipped.frameTexts.map fun pair => (["frame", pair.1.template], .file pair.2.toUTF8)

/-- A run for the schema in the empty directory. -/
def shippedRun : FullRun where
  config := { projectRoot := ".", templatesDir := "/tpl", baseTemplatesDir := "/frame" }
  sqlPath := some "/schema.sql"
  database := none
  answer := .error .noSuchEntry

theorem isTree_shippedDisk : shippedDisk.IsTree := by
  decide

theorem isVacant_shippedDisk : shippedDisk.IsVacant shippedRun.root :=
  Disk.isVacant_of_nodes (by decide) (by decide)

theorem textAt_shippedDisk_input : textAt shippedDisk shippedRun.input = .ok sharingSql :=
  textAt_of_read (by rfl)

theorem holdsShipped_shippedDisk : HoldsShipped shippedDisk shippedRun.config where
  directory := by decide
  own pair member := by
    refine textAt_of_read ?_
    simp only [Shipped.tableTexts, tableTemplates, List.cons_append, List.nil_append,
      List.zip_cons_cons, List.zip_nil_left, List.mem_cons, List.not_mem_nil, or_false] at member
    rcases member with rfl | rfl | rfl | rfl | rfl <;> rfl
  base pair member := by
    refine textAt_of_read ?_
    simp only [Shipped.frameTexts, baseTemplates, List.zip_cons_cons, List.zip_nil_left,
      List.mem_cons, List.not_mem_nil, or_false] at member
    rcases member with rfl | rfl | rfl | rfl | rfl | rfl | rfl | rfl <;> rfl

theorem prepared_shippedRun :
    shippedRun.Prepared shippedDisk (Sql.parse sharingSql) "shop" where
  input := isFile_of_textAt textAt_shippedDisk_input
  directory := by decide
  text := ⟨sharingSql, textAt_shippedDisk_input, isAllBlank_sharingSql, rfl⟩
  tables := prepared_sharingRun.tables
  named := prepared_sharingRun.named
  templates file member := by
    rw [← map_fst_tableTexts] at member
    obtain ⟨pair, given, rfl⟩ := List.mem_map.1 member
    exact isFile_of_textAt (holdsShipped_shippedDisk.own pair given)

theorem isRunnable_shippedRun :
    shippedRun.IsRunnable shippedDisk (Sql.parse sharingSql) "shop" := by
  refine .of_short prepared_shippedRun (by decide) (by decide) short_sharingSql
    (fun _ output => destination_beside_ne prepared_shippedRun.isNamed output (by decide))
    (fun file isTemplate => ?_) Postman.isOk_parse_baseUrl
  rw [← map_fst_tableTexts] at isTemplate
  obtain ⟨pair, given, rfl⟩ := List.mem_map.1 isTemplate
  exact ⟨pair.2, holdsShipped_shippedDisk.own pair given⟩

/-- The run succeeds in the frame of the project. -/
theorem exists_execute_shippedRun : ∃ early middle late after,
    execute (generateBase shippedRun.config) shippedDisk = (.ok early, middle) ∧
      execute shippedRun.program middle = (.ok late, after) := by
  have framed := isRunnable_shippedRun.succeeds_frame holdsShipped_shippedDisk.directory
    fun file isBase => by
      rw [← map_fst_frameTexts] at isBase
      obtain ⟨pair, given, rfl⟩ := List.mem_map.1 isBase
      exact ⟨pair.2, holdsShipped_shippedDisk.base pair given⟩
  obtain ⟨early, middle, frame, opens⟩ :=
    framed shippedDisk (opens_of_isVacant isVacant_shippedDisk isRunnable_shippedRun.apart)
  obtain ⟨late, after, succeeds, -⟩ := isRunnable_shippedRun.succeeds_program middle opens
  exact ⟨early, middle, late, after, frame, succeeds⟩

/-- The modules of a project for two tables that share their entity load each other. -/
theorem shippedRun_is_closed : shippedDisk.IsTree ∧ shippedDisk.IsVacant shippedRun.root ∧
    HoldsShipped shippedDisk shippedRun.config ∧ ∃ summary after,
      execute shippedRun.program (execute (generateBase shippedRun.config) shippedDisk).2 =
        (.ok summary, after) ∧ IsClosed after (shippedDisk.destination shippedRun.root) := by
  obtain ⟨early, middle, late, after, framed, succeeds⟩ := exists_execute_shippedRun
  have both : execute shippedRun.program
      (execute (generateBase shippedRun.config) shippedDisk).2 = (.ok late, after) := by
    rw [framed, succeeds]
  exact ⟨isTree_shippedDisk, isVacant_shippedDisk, holdsShipped_shippedDisk, late, after, both,
    fresh_project_is_closed isTree_shippedDisk isVacant_shippedDisk holdsShipped_shippedDisk both⟩

end Project
end SchemaScaffold
