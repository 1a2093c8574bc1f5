import SchemaScaffold.Proofs.Project.TableFiles

/-!
# The layout of projects

Whatever schema is read, and however a full run ends, it writes only at the paths of a fixed
layout, in which tables choose nothing but one name each. These names have no characters that
lead out of a directory, so that no schema sends a file elsewhere.
-/

namespace SchemaScaffold
namespace Project

open Disk (Furnished Grows)
open Disk.Path (join)
open Sql (isNameChar)

def isControl (c : Char) : Bool :=
  c.toNat < 0x20 || (0x7F ≤ c.toNat && c.toNat < 0xA0)

/-- Characters that part or hide names in paths, or that end a text or a placeholder in code. -/
def isSpecial (c : Char) : Bool :=
  "/\\.\x27\x22\x60\x7b\x7d".toList.contains c || Text.isBlank c || isControl c

/-- A name that is safe as a part of paths and of code. -/
def IsHarmless (name : String) : Prop :=
  ∀ c ∈ name.toList, isSpecial c = false

theorem isSpecial_eq_false {c : Char} (named : isNameChar c = true) : isSpecial c = false :=
  forall_nameChar (isSpecial · = false) (by decide) (by decide) (by decide) c named

/-- The name of a table and that of its entity in code are harmless. -/
theorem IsNamed.isHarmless {table : Table} (named : IsNamed table) :
    IsHarmless table.name ∧ IsHarmless table.entityNames.camel :=
  ⟨fun c member => isSpecial_eq_false (named.2 c member), fun c member =>
    isSpecial_eq_false (EntityNames.isNameText_camel named.2 c member)⟩

/-- The paths of a project for some tables. -/
inductive InLayout (tables : List Table) : String → Prop where
  | readme : InLayout tables "README.md"
  | openApi : InLayout tables "test/openapi.yaml"
  | postman : InLayout tables "test/BD_creada.postman_collection.json"
  | env : InLayout tables ".env"
  | pool : InLayout tables "src/db/pool.js"
  | routesIndex : InLayout tables "src/routes/index.js"
  | controller {table : Table} (member : table ∈ tables) :
      InLayout tables ("src/controllers/" ++ table.entityNames.camel ++ "Controller.js")
  | service {table : Table} (member : table ∈ tables) :
      InLayout tables ("src/services/" ++ table.entityNames.camel ++ "Service.js")
  | repository {table : Table} (member : table ∈ tables) :
      InLayout tables ("src/repositories/" ++ table.entityNames.camel ++ "Repository.js")
  | routes {table : Table} (member : table ∈ tables) :
      InLayout tables ("src/routes/" ++ table.name ++ ".js")

/-- The files of a table have their places in the layout. -/
theorem inLayout_tablePath {tables : List Table} {table : Table} (member : table ∈ tables)
    (named : IsNamed table) {file : TemplateFile} (isTemplate : file ∈ tableTemplates) :
    InLayout tables (tablePath table file) := by
  obtain ⟨place, pair⟩ := exists_place isTemplate
  have path := tablePath_eq named pair
  have shape : tablePath table file =
      place.folder ++ "/" ++ place.word table.entityNames ++ place.ending := by
    rw [path]
    apply String.toList_injective
    simp [TablePlace.name]
  rw [shape]
  simp only [tableTemplates, tablePlaces, List.zip_cons_cons, List.zip_nil_left, List.mem_cons,
    List.not_mem_nil, or_false, Prod.mk.injEq] at pair
  rcases pair with ⟨-, rfl⟩ | ⟨-, rfl⟩ | ⟨-, rfl⟩ | ⟨-, rfl⟩
  · exact .controller member
  · exact .service member
  · exact .repository member
  · exact .routes member

theorem inLayout_of_mem_outputs {schema : Schema}
    (named : ∀ table ∈ schema.tables, IsNamed table) {path : String}
    (output : path ∈ outputs schema) : InLayout schema.tables path := by
  rcases List.mem_append.1 output with own | shared
  · obtain ⟨table, member, made⟩ := List.mem_flatMap.1 own
    obtain ⟨file, isTemplate, rfl⟩ := List.mem_map.1 made
    exact inLayout_tablePath member (named table member) isTemplate
  · simp only [sharedPaths, List.mem_cons, List.not_mem_nil, or_false] at shared
    rcases shared with rfl | rfl | rfl | rfl | rfl | rfl
    · exact .pool
    · exact .routesIndex
    · exact .readme
    · exact .openApi
    · exact .postman
    · exact .env

/-- A disk has grown, and what is new on it stands at the destination of one of some paths, or is
a directory on the way to one. -/
def StaysWithin (root : String) (paths : List String) (before after : Disk) : Prop :=
  Grows before after ∧ ∀ place, after.node? place ≠ before.node? place →
    ∃ path ∈ paths, place = before.destination (join root path) ∨
      place ∈ before.wayOf (join root path) ∧ after.node? place = some .directory

theorem chains_staysWithin (root : String) (paths : List String) :
    Chains (StaysWithin root paths) where
  refl disk := ⟨Grows.refl disk, fun _ changed => absurd rfl changed⟩
  trans {before middle after} first second := by
    refine ⟨first.1.trans second.1, fun place changed => ?_⟩
    by_cases early : middle.node? place = before.node? place
    · rw [← early] at changed
      obtain ⟨path, member, found⟩ := second.2 place changed
      rw [first.1.destination, first.1.wayOf] at found
      exact ⟨path, member, found⟩
    · obtain ⟨path, member, found⟩ := first.2 place early
      exact ⟨path, member, found.imp_right fun ⟨onWay, directory⟩ =>
        ⟨onWay, second.1.directory place directory⟩⟩

/-- A file that is new or has another content stands at the destination of a path. -/
theorem StaysWithin.file? {root : String} {paths : List String} {before after : Disk}
    (within : StaysWithin root paths before after) {place : Location}
    (changed : after.file? place ≠ before.file? place) :
    ∃ path ∈ paths, place = before.destination (join root path) := by
  have node : after.node? place ≠ before.node? place := fun same =>
    changed (by rw [Disk.file?, Disk.file?, same])
  obtain ⟨path, member, here | ⟨-, directory⟩⟩ := within.2 place node
  · exact ⟨path, member, here⟩
  · -- Where a directory stands now there was no file.
    have noFile : after.file? place = none := by simp [Disk.file?, directory]
    refine absurd ?_ changed
    rw [noFile]
    by_contra standing
    exact within.1.file?_ne_none (Ne.symm standing) noFile

theorem Touched.staysWithin {root path text : String} {paths : List String}
    (member : path ∈ paths) {before after : Disk}
    (touched : Touched (join root path) text before after) :
    StaysWithin root paths before after := by
  refine ⟨touched.grows, fun place changed => ⟨path, member, ?_⟩⟩
  by_cases here : place = before.destination (join root path)
  · exact .inl here
  · obtain ⟨middle, furnished, outcome⟩ := touched
    have same : after.node? place = middle.node? place := by
      rcases outcome with rfl | ⟨-, rfl⟩
      · rfl
      · rw [furnished.grows.destination, Disk.node?_set_of_ne here]
    rw [same] at changed ⊢
    obtain ⟨-, directory, onWay⟩ := (furnished.places place).resolve_left changed
    exact .inr ⟨onWay, directory⟩

/-- Producing files stays within the outputs. -/
theorem FullRun.staysWithin_produce (run : FullRun) (schema : Schema) (name : String) :
    Respects (StaysWithin run.root (outputs schema)) (run.produce schema name) := by
  refine FullRun.respects_produce (chains_staysWithin _ _) ?_ ?_ ?_ name
  · intro table member path careful text disk
    exact (respects_writeFile_skip _ text disk).staysWithin (mem_outputs_of_careful member careful)
  · intro disk _ text
    exact (respects_overwrite _ text disk).staysWithin
      (List.mem_append_right _ (by simp [sharedPaths]))
  · intro path document text disk
    exact (respects_writeFile_overwrite _ text disk).staysWithin
      (List.mem_append_right _ (mem_sharedPaths_of_document document))

/-- A path of the layout for the schema that a run reads. -/
def FullRun.MayWrite (run : FullRun) (disk : Disk) (path : String) : Prop :=
  ∃ sql, textAt disk run.input = .ok sql ∧ InLayout (Sql.parse sql).tables path

/-- A run that leaves another disk behind has prepared, and stays within the outputs. -/
theorem FullRun.exists_staysWithin (run : FullRun) (disk : Disk) :
    (execute run.program disk).2 = disk ∨ ∃ schema name, run.Prepared disk schema name ∧
      StaysWithin run.root (outputs schema) disk (execute run.program disk).2 := by
  have produces {schema : Schema} {name : String} {answer : Except Failure Summary}
      {after : Disk} (prepared : run.Prepared disk schema name)
      (produced : execute (run.produce schema name) disk = (answer, after)) :
      ∃ schema name, run.Prepared disk schema name ∧
        StaysWithin run.root (outputs schema) disk after :=
    ⟨schema, name, prepared, (run.staysWithin_produce schema name).of_execute produced⟩
  cases outcome : execute run.program disk with
  | mk answer after =>
    cases answer with
    | ok summary =>
      obtain ⟨schema, name, prepared, produced⟩ := execute_program_eq_ok.1 outcome
      exact .inr (produces prepared produced)
    | error cause =>
      rcases execute_program_eq_error outcome with ⟨same, -⟩ | ⟨schema, name, prepared, produced⟩
      · exact .inl same
      · exact .inr (produces prepared produced)

/-- A full run changes files only at paths of the layout, and makes directories only on the way
there. The names that tables put into these paths are harmless. -/
theorem full_run_stays_in_layout (run : FullRun) (disk : Disk) :
    (∀ place, (execute run.program disk).2.file? place ≠ disk.file? place →
      ∃ path, run.MayWrite disk path ∧ place = disk.destination (join run.root path)) ∧
      (∀ place, (execute run.program disk).2.node? place ≠ disk.node? place →
        ∃ path, run.MayWrite disk path ∧ (place = disk.destination (join run.root path) ∨
          place ∈ disk.wayOf (join run.root path) ∧
            (execute run.program disk).2.node? place = some .directory)) ∧
      ∀ sql, ∀ table ∈ (Sql.parse sql).tables,
        IsHarmless table.name ∧ IsHarmless table.entityNames.camel := by
  have mayWrite {schema : Schema} {name path : String} (prepared : run.Prepared disk schema name)
      (output : path ∈ outputs schema) : run.MayWrite disk path := by
    have layout := inLayout_of_mem_outputs prepared.isNamed output
    obtain ⟨sql, text, -, rfl⟩ := prepared.text
    exact ⟨sql, text, layout⟩
  refine ⟨fun place changed => ?_, fun place changed => ?_, fun sql table member =>
    (isNamed_of_mem_parse member).isHarmless⟩
  · rcases run.exists_staysWithin disk with same | ⟨schema, name, prepared, within⟩
    · exact absurd (by rw [same]) changed
    · obtain ⟨path, output, here⟩ := within.file? changed
      exact ⟨path, mayWrite prepared output, here⟩
  · rcases run.exists_staysWithin disk with same | ⟨schema, name, prepared, within⟩
    · exact absurd (by rw [same]) changed
    · obtain ⟨path, output, found⟩ := within.2 place changed
      exact ⟨path, mayWrite prepared output, found⟩

/-- The shared controller of two tables is a path of the layout. -/
theorem sharingRun_makes_controller :
    (execute sharingRun.program sharingDisk).2.file?
        ["out", "src", "controllers", "indexController.js"] ≠
      sharingDisk.file? ["out", "src", "controllers", "indexController.js"] ∧
    ∃ path, sharingRun.MayWrite sharingDisk path ∧
      ["out", "src", "controllers", "indexController.js"] =
        sharingDisk.destination (join sharingRun.root path) := by
  have changed : (execute sharingRun.program sharingDisk).2.file?
        ["out", "src", "controllers", "indexController.js"] ≠
      sharingDisk.file? ["out", "src", "controllers", "indexController.js"] := by
    have missing : sharingDisk.file? ["out", "src", "controllers", "indexController.js"] =
      none := rfl
    rw [execute_sharingRun, missing]
    simp
  exact ⟨changed, (full_run_stays_in_layout sharingRun sharingDisk).1 _ changed⟩

end Project
end SchemaScaffold
