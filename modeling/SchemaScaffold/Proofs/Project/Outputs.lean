import SchemaScaffold.Project.Generate
import SchemaScaffold.Proofs.Artifact.Template
import SchemaScaffold.Proofs.Disk.Inside
import SchemaScaffold.Proofs.Sql.ParsedNames

/-!
# Outputs of runs

The paths that a full run writes, and where they lead. Each of a table's files has a folder of
its own kind and is told apart from the files of other tables by one word, which is the small
name of the table's entity or, for routes, the name of the table.
-/

namespace SchemaScaffold
namespace Project

open Disk (IsPlainName)
open Disk.Path (IsInside names join)

/-- The path of the file that a template makes for a table. -/
def tablePath (table : Table) (file : TemplateFile) : String :=
  Template.render file.destination (Template.entityTokens table.entityNames)

/-- The folder and the name of a file that is made for a table. -/
structure TablePlace where
  folder : String
  /-- The word that tells tables apart. -/
  word : EntityNames → String
  ending : String

/-- The place of each template for tables, in the same order. -/
def tablePlaces : List TablePlace := [
  ⟨"src/controllers", (·.camel), "Controller.js"⟩,
  ⟨"src/services", (·.camel), "Service.js"⟩,
  ⟨"src/repositories", (·.camel), "Repository.js"⟩,
  ⟨"src/routes", (·.table), ".js"⟩]

/-- The template of the controller of a table, which is the first file that a run makes. -/
def controllerTemplate : TemplateFile :=
  ⟨"controller.js.tmpl", "src/controllers/\x7b\x7bentity\x7d\x7dController.js"⟩

/-- The template of the routes of a table. -/
def routesTemplate : TemplateFile :=
  ⟨"routes.js.tmpl", "src/routes/\x7b\x7btable\x7d\x7d.js"⟩

/-- The word that tells the file of a table apart from those of other tables. -/
def TemplateFile.word (file : TemplateFile) (table : Table) : String :=
  if file = routesTemplate then table.name else table.entityNames.camel

/-- The name of the file of a table in its folder. -/
def TablePlace.name (place : TablePlace) (table : Table) : String :=
  place.word table.entityNames ++ place.ending

/-- A table whose name has the characters of names. -/
def IsNamed (table : Table) : Prop :=
  table.name ≠ "" ∧ IsNameText table.name.toList

theorem isNamed_of_mem_parse {sql : String} {table : Table}
    (member : table ∈ (Sql.parse sql).tables) : IsNamed table :=
  Sql.name_of_mem_parse member

theorem exists_place {file : TemplateFile} (member : file ∈ tableTemplates) :
    ∃ place, (file, place) ∈ tableTemplates.zip tablePlaces := by
  simp only [tableTemplates, List.mem_cons, List.not_mem_nil, or_false] at member
  rcases member with rfl | rfl | rfl | rfl
  · exact ⟨_, .head _⟩
  · exact ⟨_, .tail _ (.head _)⟩
  · exact ⟨_, .tail _ (.tail _ (.head _))⟩
  · exact ⟨_, .tail _ (.tail _ (.tail _ (.head _)))⟩

section Places

variable {table : Table} {file : TemplateFile} {place : TablePlace}

theorem isNameText_word (named : IsNamed table)
    (pair : (file, place) ∈ tableTemplates.zip tablePlaces) :
    IsNameText (place.word table.entityNames).toList := by
  have camel : IsNameText table.entityNames.camel.toList :=
    EntityNames.isNameText_camel named.2
  simp only [tableTemplates, tablePlaces, List.zip_cons_cons, List.zip_nil_left, List.mem_cons,
    List.not_mem_nil, or_false, Prod.mk.injEq] at pair
  rcases pair with ⟨-, rfl⟩ | ⟨-, rfl⟩ | ⟨-, rfl⟩ | ⟨-, rfl⟩
  · exact camel
  · exact camel
  · exact camel
  · exact named.2

/-- The path of a table's file is a folder, a slash and a name. -/
theorem tablePath_eq (named : IsNamed table)
    (pair : (file, place) ∈ tableTemplates.zip tablePlaces) :
    tablePath table file =
      String.ofList (place.folder.toList ++ '/' :: (place.name table).toList) := by
  have camel : '\x7b' ∉ table.entityNames.camel.toList :=
    (EntityNames.isNameText_camel named.2).not_mem (by decide)
  have entity (front back : List Char) (before : '\x7b' ∉ front) (behind : '\x7b' ∉ back) :
      Template.renderChars (Template.entityTokens table.entityNames)
        (front ++ (Template.token "entity" ++ back)) =
          front ++ (table.entityNames.camel.toList ++ back) :=
    Template.renderChars_entity _ before behind camel
  unfold tablePath Template.render TablePlace.name
  congr 1
  simp only [tableTemplates, tablePlaces, List.zip_cons_cons, List.zip_nil_left, List.mem_cons,
    List.not_mem_nil, or_false, Prod.mk.injEq] at pair
  rcases pair with ⟨rfl, rfl⟩ | ⟨rfl, rfl⟩ | ⟨rfl, rfl⟩ | ⟨rfl, rfl⟩
  · simpa [Template.token] using
      entity "src/controllers/".toList "Controller.js".toList (by decide) (by decide)
  · simpa [Template.token] using
      entity "src/services/".toList "Service.js".toList (by decide) (by decide)
  · simpa [Template.token] using
      entity "src/repositories/".toList "Repository.js".toList (by decide) (by decide)
  · have routes := Template.renderChars_table table.entityNames
      (show '\x7b' ∉ "src/routes/".toList by decide) (show '\x7b' ∉ ".js".toList by decide)
      (named.2.not_mem (by decide))
    simpa [Template.token] using routes

/-- What a place adds to the word that tells tables apart is more than dots, and no way down. -/
theorem ending_of_mem_zip (pair : (file, place) ∈ tableTemplates.zip tablePlaces) :
    '/' ∉ place.ending.toList ∧ 's' ∈ place.ending.toList ∧
      place.ending.toList.getLast? = some 's' := by
  have known : ∀ place ∈ tablePlaces, '/' ∉ place.ending.toList ∧ 's' ∈ place.ending.toList ∧
      place.ending.toList.getLast? = some 's' := by decide
  exact known place (List.of_mem_zip pair).2

theorem isPlainName_name (pair : (file, place) ∈ tableTemplates.zip tablePlaces) :
    IsPlainName (place.name table) := by
  have inside : 's' ∈ (place.name table).toList := by
    simp [TablePlace.name, (ending_of_mem_zip pair).2.1]
  constructor <;> intro dots <;> simp [dots] at inside

/-- The names of the path are those of the folder and the name of the file. -/
theorem names_tablePath (named : IsNamed table)
    (pair : (file, place) ∈ tableTemplates.zip tablePlaces) :
    names (tablePath table file) = names place.folder ++ [place.name table] := by
  obtain ⟨noSlash, inside, -⟩ := ending_of_mem_zip pair
  have free : '/' ∉ (place.name table).toList := by
    simp [TablePlace.name, noSlash, (isNameText_word named pair).not_mem (c := '/') (by decide)]
  have nonempty : (place.name table).toList ≠ [] := by
    intro empty
    simp only [TablePlace.name, String.toList_append, List.append_eq_nil_iff] at empty
    simp [empty.2] at inside
  rw [tablePath_eq named pair, Disk.Path.names_slash, Disk.Path.names_of_not_mem nonempty free]
  simp

theorem isInside_tablePath (named : IsNamed table) (member : file ∈ tableTemplates) :
    IsInside (tablePath table file) := by
  obtain ⟨place, pair⟩ := exists_place member
  have folders : ∀ place ∈ tablePlaces, place.folder.toList.head? = some 's' ∧
      ∀ name ∈ names place.folder, IsPlainName name := by decide
  obtain ⟨start, plain⟩ := folders place (List.of_mem_zip pair).2
  constructor
  · obtain ⟨rest, shape⟩ := List.head?_eq_some_iff.1 start
    simp [tablePath_eq named pair, Disk.Path.isAbsolute, shape]
  · intro name inside
    rw [names_tablePath named pair] at inside
    rcases List.mem_append.1 inside with early | last
    · exact plain name early
    · obtain rfl := List.mem_singleton.1 last
      exact isPlainName_name pair

theorem place_unique {otherPlace : TablePlace}
    (pair : (file, place) ∈ tableTemplates.zip tablePlaces)
    (otherPair : (file, otherPlace) ∈ tableTemplates.zip tablePlaces) : place = otherPlace := by
  simp only [tableTemplates, tablePlaces, List.zip_cons_cons, List.zip_nil_left, List.mem_cons,
    List.not_mem_nil, or_false, Prod.mk.injEq] at pair otherPair
  rcases pair with ⟨rfl, rfl⟩ | ⟨rfl, rfl⟩ | ⟨rfl, rfl⟩ | ⟨rfl, rfl⟩ <;>
    exact (by simpa using otherPair : otherPlace = _).symm

theorem place_of_routes (pair : (file, place) ∈ tableTemplates.zip tablePlaces)
    (folder : place.folder = "src/routes") :
    file = routesTemplate ∧ place = ⟨"src/routes", (·.table), ".js"⟩ := by
  simp only [tableTemplates, tablePlaces, List.zip_cons_cons, List.zip_nil_left, List.mem_cons,
    List.not_mem_nil, or_false, Prod.mk.injEq] at pair
  rcases pair with ⟨-, rfl⟩ | ⟨-, rfl⟩ | ⟨-, rfl⟩ | ⟨rfl, rfl⟩
  · simp at folder
  · simp at folder
  · simp at folder
  · exact ⟨rfl, rfl⟩

/-- Files of two tables are the same file exactly if one template makes them and the words that
tell the tables apart are the same. -/
theorem names_tablePath_inj {other : Table} {otherFile : TemplateFile} {otherPlace : TablePlace}
    (named : IsNamed table) (otherNamed : IsNamed other)
    (pair : (file, place) ∈ tableTemplates.zip tablePlaces)
    (otherPair : (otherFile, otherPlace) ∈ tableTemplates.zip tablePlaces) :
    names (tablePath table file) = names (tablePath other otherFile) ↔
      file = otherFile ∧ place.word table.entityNames = place.word other.entityNames := by
  have folders : ∀ one ∈ tableTemplates.zip tablePlaces,
      ∀ two ∈ tableTemplates.zip tablePlaces,
        names one.2.folder = names two.2.folder → one.1 = two.1 := by decide +kernel
  rw [names_tablePath named pair, names_tablePath otherNamed otherPair]
  constructor
  · intro same
    obtain ⟨front, last⟩ := List.append_inj' same rfl
    obtain rfl := folders _ pair _ otherPair front
    obtain rfl := place_unique pair otherPair
    refine ⟨rfl, ?_⟩
    have words : place.name table = place.name other := by simpa using last
    apply String.toList_injective
    have characters := congrArg String.toList words
    simp only [TablePlace.name, String.toList_append] at characters
    exact List.append_cancel_right characters
  · rintro ⟨rfl, words⟩
    obtain rfl := place_unique pair otherPair
    rw [TablePlace.name, TablePlace.name, words]

end Places

theorem word_eq_of_mem_zip {table : Table} {file : TemplateFile} {place : TablePlace}
    (pair : (file, place) ∈ tableTemplates.zip tablePlaces) :
    file.word table = place.word table.entityNames := by
  simp only [tableTemplates, tablePlaces, List.zip_cons_cons, List.zip_nil_left, List.mem_cons,
    List.not_mem_nil, or_false, Prod.mk.injEq] at pair
  rcases pair with ⟨rfl, rfl⟩ | ⟨rfl, rfl⟩ | ⟨rfl, rfl⟩ | ⟨rfl, rfl⟩ <;>
    simp [TemplateFile.word, routesTemplate, Table.entityNames]

section Sharing

variable {table other : Table} {file otherFile : TemplateFile}

/-- Two files of tables lead to one place exactly if their templates and their words agree. -/
theorem names_tablePath_eq_iff (named : IsNamed table) (otherNamed : IsNamed other)
    (member : file ∈ tableTemplates) (otherMember : otherFile ∈ tableTemplates) :
    names (tablePath table file) = names (tablePath other otherFile) ↔
      file = otherFile ∧ file.word table = file.word other := by
  obtain ⟨place, pair⟩ := exists_place member
  obtain ⟨otherPlace, otherPair⟩ := exists_place otherMember
  rw [names_tablePath_inj named otherNamed pair otherPair, word_eq_of_mem_zip pair,
    word_eq_of_mem_zip pair]

/-- Files of tables that lead to one place have one path. -/
theorem tablePath_eq_iff (named : IsNamed table) (otherNamed : IsNamed other)
    (member : file ∈ tableTemplates) (otherMember : otherFile ∈ tableTemplates) :
    tablePath table file = tablePath other otherFile ↔
      file = otherFile ∧ file.word table = file.word other := by
  rw [← names_tablePath_eq_iff named otherNamed member otherMember]
  refine ⟨congrArg names, fun same => ?_⟩
  obtain ⟨rfl, words⟩ :=
    (names_tablePath_eq_iff named otherNamed member otherMember).1 same
  obtain ⟨place, pair⟩ := exists_place member
  rw [word_eq_of_mem_zip pair, word_eq_of_mem_zip pair] at words
  rw [tablePath_eq named pair, tablePath_eq otherNamed pair, TablePlace.name, words,
    TablePlace.name]

theorem length_names_tablePath (named : IsNamed table) (member : file ∈ tableTemplates) :
    (names (tablePath table file)).length = 3 := by
  obtain ⟨place, pair⟩ := exists_place member
  have folders : ∀ place ∈ tablePlaces, (names place.folder).length = 2 := by decide
  rw [names_tablePath named pair, List.length_append, folders place (List.of_mem_zip pair).2]
  rfl

end Sharing

theorem names_tablePath_ne_nil {table : Table} {file : TemplateFile} (named : IsNamed table)
    (member : file ∈ tableTemplates) : names (tablePath table file) ≠ [] := by
  obtain ⟨place, pair⟩ := exists_place member
  simp [names_tablePath named pair]

/-! ## All outputs -/

/-- The paths that runs for all tables share. -/
def sharedPaths : List String :=
  [poolTemplate.destination, routesIndex, readmePath, openApiPath, postmanPath, envPath]

/-- The paths of the frame of a project. -/
def framePaths : List String :=
  baseTemplates.map (·.destination)

/-- The paths that do not depend on a schema. -/
def fixedPaths : List String :=
  sharedPaths ++ framePaths

/-- The names of these paths, in the same order. -/
def fixedNames : List (List String) := [
  ["src", "db", "pool.js"],
  ["src", "routes", "index.js"],
  ["README.md"],
  ["test", "openapi.yaml"],
  ["test", "BD_creada.postman_collection.json"],
  [".env"],
  ["server.js"],
  ["package.json"],
  ["README.md"],
  ["src", "app.js"],
  ["src", "routes", "index.js"],
  ["src", "middlewares", "auth.js"],
  ["src", "middlewares", "errorHandler.js"],
  ["src", "middlewares", "notFound.js"]]

theorem map_fixedPaths : fixedPaths.map (fun path => (Disk.Path.isAbsolute path, names path)) =
    fixedNames.map (Prod.mk false) := by
  simp only [fixedPaths, sharedPaths, framePaths, baseTemplates, poolTemplate, routesIndex,
    readmePath, openApiPath, postmanPath, envPath, fixedNames, List.map_cons, List.map_nil,
    List.cons_append, List.nil_append, List.cons.injEq, Prod.mk.injEq, and_true]
  refine ⟨?_, ?_, ?_, ?_, ?_, ?_, ?_, ?_, ?_, ?_, ?_, ?_, ?_, ?_⟩ <;>
    exact ⟨Disk.Path.isAbsolute_ofList _, Disk.Path.names_ofList _⟩

theorem fixed_cases {path : String} (fixed : path ∈ fixedPaths) :
    Disk.Path.isAbsolute path = false ∧ names path ∈ fixedNames := by
  have both : (Disk.Path.isAbsolute path, names path) ∈ fixedNames.map (Prod.mk false) := by
    rw [← map_fixedPaths]
    exact List.mem_map_of_mem fixed
  obtain ⟨_, known, same⟩ := List.mem_map.1 both
  obtain ⟨relative, rfl⟩ := Prod.mk.inj same
  exact ⟨relative.symm, known⟩

theorem names_mem_fixedNames {path : String} (fixed : path ∈ fixedPaths) :
    names path ∈ fixedNames :=
  (fixed_cases fixed).2

/-- A path and its names are at the same place of both lists. -/
theorem mem_zip_fixedNames {path : String} (fixed : path ∈ fixedPaths) :
    (path, names path) ∈ fixedPaths.zip fixedNames := by
  have inOrder : fixedPaths.map names = fixedNames := by
    simpa [Function.comp_def] using congrArg (List.map Prod.snd) map_fixedPaths
  rw [← inOrder, ← List.map_prod_left_eq_zip]
  exact List.mem_map_of_mem fixed

/-- Fixed paths with the same names are one path. -/
theorem eq_of_fixed {path other : String} (fixed : path ∈ fixedPaths)
    (otherFixed : other ∈ fixedPaths) (same : names path = names other) : path = other := by
  have known : ∀ pair ∈ fixedPaths.zip fixedNames, ∀ other ∈ fixedPaths.zip fixedNames,
      pair.2 = other.2 → pair.1 = other.1 := by decide
  exact known _ (mem_zip_fixedNames fixed) _ (mem_zip_fixedNames otherFixed) same

/-- The templates for tables, of the pool and for the frame. -/
def allTemplates : List TemplateFile :=
  tableTemplates ++ [poolTemplate] ++ baseTemplates

/-- The paths that a full run writes. -/
def outputs (schema : Schema) : List String :=
  schema.tables.flatMap (fun table => tableTemplates.map (tablePath table)) ++ sharedPaths

/-- The paths that full runs and runs for the frame write. -/
def allPaths (schema : Schema) : List String :=
  outputs schema ++ framePaths

/-- A written path is that of a table's file or does not depend on the schema. -/
theorem mem_allPaths_iff {schema : Schema} {path : String} :
    path ∈ allPaths schema ↔
      (∃ table ∈ schema.tables, ∃ file ∈ tableTemplates, tablePath table file = path) ∨
        path ∈ fixedPaths := by
  simp [allPaths, outputs, fixedPaths]

theorem isInside_of_mem_fixedPaths :
    ∀ path ∈ fixedPaths, IsInside path ∧ names path ≠ [] := by
  intro path fixed
  have known : ∀ names ∈ fixedNames, (∀ name ∈ names, IsPlainName name) ∧ names ≠ [] := by decide
  obtain ⟨relative, member⟩ := fixed_cases fixed
  exact ⟨⟨relative, (known _ member).1⟩, (known _ member).2⟩

theorem isInside_of_mem_sharedPaths (path : String) (shared : path ∈ sharedPaths) :
    IsInside path :=
  (isInside_of_mem_fixedPaths path (List.mem_append_left _ shared)).1

/-- Shared paths lead to places of their own. -/
theorem destination_shared_ne {path other : String} (member : path ∈ sharedPaths)
    (otherMember : other ∈ sharedPaths) (apart : path ≠ other) (disk : Disk) (root : String) :
    disk.destination (join root path) ≠ disk.destination (join root other) := by
  rw [(isInside_of_mem_sharedPaths path member).destination_join,
    (isInside_of_mem_sharedPaths other otherMember).destination_join]
  exact fun same => apart (eq_of_fixed (List.mem_append_left _ member)
    (List.mem_append_left _ otherMember) (List.append_cancel_left same))

theorem isInside_of_mem_baseTemplates (file : TemplateFile) (member : file ∈ baseTemplates) :
    IsInside file.destination :=
  (isInside_of_mem_fixedPaths _ (List.mem_append_right _ (List.mem_map_of_mem member))).1

/-- The templates lie in their directory. -/
theorem names_template : ∀ file ∈ allTemplates,
    IsInside file.template ∧ names file.template = [file.template] := by
  decide +kernel

/-- A file of a table has a path that does not depend on tables only if it is the routes index, as
the routes of a table with that name. -/
theorem names_tablePath_fixed {table : Table} {file : TemplateFile} {path : String}
    (named : IsNamed table) (member : file ∈ tableTemplates) (fixed : path ∈ fixedPaths)
    (same : names (tablePath table file) = names path) :
    path = routesIndex ∧ file = routesTemplate ∧ table.name = "index" := by
  obtain ⟨place, pair⟩ := exists_place member
  have folders : ∀ place ∈ tablePlaces, names place.folder ∈ fixedNames.map List.dropLast →
      place.folder = "src/routes" := by decide
  have inFolder : ∀ pair ∈ fixedPaths.zip fixedNames, pair.2.dropLast = names "src/routes" →
      pair.1 = routesIndex := by decide
  rw [names_tablePath named pair] at same
  have front : names place.folder = (names path).dropLast := by
    rw [← same, List.dropLast_concat]
  have folder := folders place (List.of_mem_zip pair).2
    (front ▸ List.mem_map_of_mem (names_mem_fixedNames fixed))
  obtain rfl : path = routesIndex :=
    inFolder _ (mem_zip_fixedNames fixed) (by rw [← front, folder])
  obtain ⟨rfl, rfl⟩ := place_of_routes pair folder
  have shape : names routesIndex = ["src", "routes"] ++ ["index.js"] := by decide
  rw [shape] at same
  have last : table.name ++ ".js" = "index" ++ ".js" := by
    simpa [TablePlace.name, Table.entityNames] using (List.append_inj' same rfl).2
  refine ⟨rfl, rfl, String.toList_injective ?_⟩
  have characters := congrArg String.toList last
  simp only [String.toList_append] at characters
  exact List.append_cancel_right characters

/-- A file of a table is shared only if it is the routes index. -/
theorem names_tablePath_shared {table : Table} {file : TemplateFile} {path : String}
    (named : IsNamed table) (member : file ∈ tableTemplates) (shared : path ∈ sharedPaths)
    (same : names (tablePath table file) = names path) :
    path = routesIndex ∧ file = routesTemplate ∧ table.name = "index" :=
  names_tablePath_fixed named member (List.mem_append_left _ shared) same

/-- No written path is named like a template. -/
theorem getLast?_output {schema : Schema} (named : ∀ table ∈ schema.tables, IsNamed table)
    {path : String} (output : path ∈ allPaths schema) {file : TemplateFile}
    (member : file ∈ allTemplates) :
    (names path).getLast? ≠ some file.template := by
  have ends : ∀ file ∈ allTemplates, file.template.toList.getLast? = some 'l' := by
    decide +kernel
  rcases mem_allPaths_iff.1 output with ⟨table, inside, template, templateMember, rfl⟩ | fixed
  · obtain ⟨place, pair⟩ := exists_place templateMember
    have last : (place.name table).toList.getLast? = some 's' := by
      rw [TablePlace.name, String.toList_append, List.getLast?_append,
        (ending_of_mem_zip pair).2.2]
      rfl
    rw [names_tablePath (named table inside) pair, List.getLast?_concat]
    intro same
    rw [Option.some.inj same, ends file member] at last
    simp at last
  · have known : ∀ names ∈ fixedNames, ∀ file ∈ allTemplates,
        names.getLast? ≠ some file.template := by decide +kernel
    exact known _ (names_mem_fixedNames fixed) file member

theorem isInside_of_mem_allPaths {schema : Schema} (named : ∀ table ∈ schema.tables, IsNamed table)
    {path : String} (output : path ∈ allPaths schema) : IsInside path ∧ names path ≠ [] := by
  rcases mem_allPaths_iff.1 output with ⟨table, inside, file, member, rfl⟩ | fixed
  · exact ⟨isInside_tablePath (named table inside) member,
      names_tablePath_ne_nil (named table inside) member⟩
  · exact isInside_of_mem_fixedPaths path fixed

theorem isInside_of_mem_outputs {schema : Schema} (named : ∀ table ∈ schema.tables, IsNamed table)
    {path : String} (output : path ∈ outputs schema) : IsInside path ∧ names path ≠ [] :=
  isInside_of_mem_allPaths named (List.mem_append_left _ output)

/-- Nothing is written to the place of a template. -/
theorem destination_anyTemplate_ne {schema : Schema}
    (named : ∀ table ∈ schema.tables, IsNamed table) {path : String}
    (output : path ∈ allPaths schema) {file : TemplateFile} (member : file ∈ allTemplates)
    (disk : Disk) (root directory : String) :
    disk.destination (join directory file.template) ≠ disk.destination (join root path) := by
  obtain ⟨inside, further⟩ := isInside_of_mem_allPaths named output
  obtain ⟨templateInside, single⟩ := names_template file member
  rw [templateInside.destination_join, inside.destination_join, single]
  intro same
  have last := congrArg List.getLast? same
  rw [List.getLast?_concat, List.getLast?_append, List.getLast?_eq_some_getLast further,
    Option.some_or, ← List.getLast?_eq_some_getLast further] at last
  exact getLast?_output named output member last.symm

/-- No output is written to the place of a template for tables or of the pool. -/
theorem destination_template_ne {schema : Schema}
    (named : ∀ table ∈ schema.tables, IsNamed table) {path : String}
    (output : path ∈ outputs schema) {file : TemplateFile}
    (member : file ∈ tableTemplates ++ [poolTemplate]) (disk : Disk) (root directory : String) :
    disk.destination (join directory file.template) ≠ disk.destination (join root path) :=
  destination_anyTemplate_ne named (List.mem_append_left _ output) (List.mem_append_left _ member)
    disk root directory

/-- Nothing is written beside the root of a project. -/
theorem destination_beside_ne {schema : Schema} (named : ∀ table ∈ schema.tables, IsNamed table)
    {path : String} (output : path ∈ allPaths schema) {disk : Disk} {root input : String}
    (beside : ¬ disk.destination root <+: disk.destination input) :
    disk.destination input ≠ disk.destination (join root path) := by
  rw [(isInside_of_mem_allPaths named output).1.destination_join]
  exact fun same => beside ⟨names path, same.symm⟩

/-- Nothing is written to a file at the top of a project that has none of the fixed names. -/
theorem destination_top_ne {schema : Schema} (named : ∀ table ∈ schema.tables, IsNamed table)
    {path : String} (output : path ∈ allPaths schema) (file : String) (apart : [file] ∉ fixedNames)
    {disk : Disk} {root input : String}
    (top : disk.destination input = disk.destination root ++ [file]) :
    disk.destination input ≠ disk.destination (join root path) := by
  rw [(isInside_of_mem_allPaths named output).1.destination_join, top]
  intro same
  have single : [file] = names path := List.append_cancel_left same
  rcases mem_allPaths_iff.1 output with ⟨table, inside, made, isTemplate, rfl⟩ | fixed
  · have length := length_names_tablePath (named table inside) isTemplate
    simp [← single] at length
  · exact apart (single ▸ names_mem_fixedNames fixed)

/-- No written path leads below another one. -/
theorem names_eq_of_isAbove {schema : Schema} (named : ∀ table ∈ schema.tables, IsNamed table)
    {path other : String} (output : path ∈ allPaths schema) (otherOutput : other ∈ allPaths schema)
    (below : names path <+: names other) : names path = names other := by
  rcases mem_allPaths_iff.1 output with ⟨table, inside, file, member, rfl⟩ | fixed
  · refine below.eq_of_length_le ?_
    rw [length_names_tablePath (named table inside) member]
    rcases mem_allPaths_iff.1 otherOutput with ⟨also, alsoInside, made, isTemplate, rfl⟩ | fixed
    · exact Nat.le_of_eq (length_names_tablePath (named also alsoInside) isTemplate)
    · have lengths : ∀ names ∈ fixedNames, names.length ≤ 3 := by decide
      exact lengths _ (names_mem_fixedNames fixed)
  · rcases mem_allPaths_iff.1 otherOutput with ⟨table, inside, file, member, rfl⟩ | otherFixed
    · obtain ⟨place, pair⟩ := exists_place member
      have folders : ∀ place ∈ tablePlaces, ∀ upper ∈ fixedNames,
          ¬ upper <+: names place.folder := by decide
      rw [names_tablePath (named table inside) pair] at below ⊢
      rcases List.prefix_concat_iff.1 below with same | above
      · exact same
      · exact absurd above
          (folders place (List.of_mem_zip pair).2 _ (names_mem_fixedNames fixed))
    · have known : ∀ names ∈ fixedNames, ∀ others ∈ fixedNames, names <+: others →
          names = others := by decide
      exact known _ (names_mem_fixedNames fixed) _ (names_mem_fixedNames otherFixed) below

end Project
end SchemaScaffold
