import SchemaScaffold.Proofs.Artifact.RegistrationSequence
import SchemaScaffold.Proofs.Project.Registration

/-!
# Patched tables

The tables that a run registers in a routes index that is there: those of which the index lacked
a line before the run. The run registers the tables of its schema in order, and nothing else
changes the index.
-/

namespace SchemaScaffold
namespace Project

open Disk.Path (join)
open RoutesIndex (count lacks lines patch patchNames requireLine)

section Tables

variable {root directory : String} {disk after : Disk}

/-- Updating the routes of a table registers it, and tells whether the index lacked a line. -/
theorem exists_execute_updateRoutes {path table : String} (named : IsNameText table.toList)
    (isFile : disk.isFile path = true) {content : String}
    (text : textAt disk path = .ok content) :
    ∃ after, execute (updateRoutes path table) disk = (.ok (lacks content table), after) ∧
      textAt after path = .ok (patch content table) := by
  by_cases registered : RoutesIndex.Registered content table
  · have complete : lacks content table = false := by
      rw [← Bool.not_eq_true, RoutesIndex.lacks_iff_not_registered, not_not]
      exact registered
    refine ⟨disk, ?_, ?_⟩
    · rw [complete]
      exact execute_updateRoutes_of_registered named isFile text registered
    · rw [(RoutesIndex.patch_eq_self_iff named).2 registered]
      exact text
  · obtain ⟨after, run, -, patched⟩ :=
      execute_updateRoutes_of_unregistered named isFile text registered
    rw [← RoutesIndex.lacks_iff_not_registered.2 registered] at run
    exact ⟨after, run, patched⟩

/-- Between the updates of routes the index stays as it is. -/
theorem PatchesIndex.textAt_eq (patches : PatchesIndex root [] disk after)
    (isFile : disk.isFile (join root routesIndex) = true) {content : String}
    (text : textAt disk (join root routesIndex) = .ok content) :
    textAt after (join root routesIndex) = .ok content := by
  obtain ⟨patched, within, later⟩ := patches.2 isFile content text
  obtain rfl := List.subset_nil.1 within
  exact later

/-- Generating tables registers them one after another in an index that is there. -/
theorem textAt_of_mapM {tables : List Table} (named : ∀ table ∈ tables, IsNamed table)
    (nodup : (tables.map (·.name)).Nodup)
    (isFile : disk.isFile (join root routesIndex) = true) {content : String}
    (text : textAt disk (join root routesIndex) = .ok content) {outcomes : List TableOutcome}
    (generated : execute (tables.mapM (generateTable root directory)) disk =
      (.ok outcomes, after)) :
    after.isFile (join root routesIndex) = true ∧
      textAt after (join root routesIndex) = .ok (patchNames content (tables.map (·.name))) ∧
      outcomes.map (·.registered) = tables.map fun table => lacks content table.name := by
  induction tables generalizing disk content outcomes with
  | nil =>
    obtain ⟨rfl, rfl⟩ : [] = outcomes ∧ disk = after := by simpa using generated
    exact ⟨isFile, text, rfl⟩
  | cons table rest ih =>
    obtain ⟨ownNamed, restNamed⟩ := List.forall_mem_cons.1 named
    obtain ⟨fresh, restNodup⟩ := List.nodup_cons.1 nodup
    obtain ⟨outcome, others, next, own, later, rfl⟩ := execute_mapM_cons_eq_ok.1 generated
    obtain ⟨-, middle, made, updated⟩ := execute_generateTable_eq_ok.1 own
    have files : PatchesIndex root [] disk middle :=
      (patchesIndex_makeTableFiles ownNamed).of_execute made
    have middleFile := files.1.isFile isFile
    obtain ⟨last, run, patched⟩ :=
      exists_execute_updateRoutes ownNamed.2 middleFile (files.textAt_eq isFile text)
    obtain ⟨flag, rfl⟩ : lacks content table.name = outcome.registered ∧ last = next := by
      simpa using run.symm.trans updated
    have nextFile := ((grows_updateRoutes _ _).of_execute updated).isFile middleFile
    obtain ⟨afterFile, afterText, flags⟩ := ih restNamed restNodup nextFile patched later
    refine ⟨afterFile, afterText, ?_⟩
    rw [List.map_cons, List.map_cons, flag, flags]
    refine congrArg _ (List.map_congr_left fun other member => ?_)
    have apart : other.name ∉ [table.name] := by
      intro same
      exact fresh (List.mem_map.2 ⟨other, member, List.mem_singleton.1 same⟩)
    exact RoutesIndex.lacks_patchNames (by simpa using ownNamed.2) (restNamed other member).2
      apart content

end Tables

/-- The members of a list that are marked in a second list. -/
theorem map_filter_zip {α β : Type} {marked : β → Bool} {chosen : α → Bool} {left : List α}
    {right : List β} (marks : right.map marked = left.map chosen) :
    ((left.zip right).filter (marked ·.2)).map (·.1) = left.filter chosen := by
  induction left generalizing right with
  | nil => rfl
  | cons a rest ih =>
    obtain ⟨b, others, rfl, mark, later⟩ := List.map_eq_cons_iff.1 marks
    cases own : chosen a with
    | true => simp [own, mark, ih later]
    | false => simp [own, mark, ih later]

/-- A full run registers its tables in an index that is there, and reports those of which the
index lacked a line. -/
theorem FullRun.patched_eq {run : FullRun} {disk after : Disk} {summary : Summary}
    (isFile : disk.isFile (join run.root routesIndex) = true) {content : String}
    (text : textAt disk (join run.root routesIndex) = .ok content)
    (succeeded : execute run.program disk = (.ok summary, after)) :
    textAt after (join run.root routesIndex) = .ok (patchNames content summary.tables) ∧
      summary.patched = summary.tables.filter (lacks content) := by
  obtain ⟨schema, name, prepared, produced⟩ := execute_program_eq_ok.1 succeeded
  obtain ⟨outcomes, documents, middle, generated, documented, rfl⟩ :=
    execute_produce_eq_ok.1 produced
  have nodup : schema.tableNames.Nodup := by
    obtain ⟨sql, -, -, rfl⟩ := prepared.text
    exact Sql.nodup_tableNames_parse sql
  obtain ⟨middleFile, middleText, flags⟩ :=
    textAt_of_mapM prepared.isNamed nodup isFile text generated
  have written : PatchesIndex run.root [] middle after :=
    (patchesIndex_writeDocuments schema name).of_execute documented
  refine ⟨written.textAt_eq middleFile middleText, map_filter_zip ?_⟩
  simpa [Schema.tableNames, Function.comp_def] using flags

/-- Tables with names that can be read are registered one after another, whatever the index is
and whether or not names are repeated. Each line of a table that did not occur occurs once, and
each that did occurs as often as before. Repetitions make no difference, and neither does a second
turn. The first step for a table changes the index exactly if one of its lines did not occur at the
beginning, and a full run reports exactly these tables. -/
theorem registers_each_table {names : List String}
    (readable : ∀ name ∈ names, ∃ sql, name ∈ (Sql.parse sql).tableNames) (content : String) :
    (∀ name ∈ names, ∀ line ∈ lines name, count (patchNames content names) line =
        if count content line = 0 then 1 else count content line) ∧
      patchNames content names.eraseDups = patchNames content names ∧
      patchNames (patchNames content names) names = patchNames content names ∧
      (∀ front name back, names = front ++ name :: back → name ∉ front →
        (patch (patchNames content front) name ≠ patchNames content front ↔
          ∃ line ∈ lines name, count content line = 0) ∧
        ∀ path disk, disk.isFile path = true →
          textAt disk path = .ok (patchNames content front) →
          ∃ after, execute (updateRoutes path name) disk = (.ok (lacks content name), after) ∧
            textAt after path = .ok (patch (patchNames content front) name)) ∧
      ∀ (run : FullRun) disk summary after,
        disk.isFile (join run.root routesIndex) = true →
        textAt disk (join run.root routesIndex) = .ok content →
        execute run.program disk = (.ok summary, after) → summary.tables = names →
        textAt after (join run.root routesIndex) = .ok (patchNames content names) ∧
          summary.patched = names.filter (lacks content) := by
  have named : ∀ name ∈ names, IsNameText name.toList := by
    intro name member
    obtain ⟨sql, parsed⟩ := readable name member
    obtain ⟨table, inside, rfl⟩ := List.mem_map.1 parsed
    exact (Sql.name_of_mem_parse inside).2
  refine ⟨fun name member line isLine => ?_, RoutesIndex.patchNames_eraseDups named content,
    RoutesIndex.patchNames_patchNames named content, fun front name back shape fresh => ?_,
    fun run disk summary after isFile text succeeded tables => ?_⟩
  · rw [RoutesIndex.count_patchNames named (named name member) isLine, if_pos member]
    split <;> omega
  · subst shape
    obtain ⟨frontNamed, restNamed⟩ := List.forall_mem_append.1 named
    have own := restNamed name List.mem_cons_self
    refine ⟨?_, fun path disk isFile text => ?_⟩
    · rw [RoutesIndex.patch_patchNames_ne_iff frontNamed own fresh, RoutesIndex.lacks_iff]
    · rw [← RoutesIndex.lacks_patchNames frontNamed own fresh]
      exact exists_execute_updateRoutes own isFile text
  · rw [← tables]
    exact run.patched_eq isFile text succeeded

/-- An index that loads the router of one table and mounts none. -/
def indexText : String :=
  String.join ["const router = express.Router();\n", requireLine "users", "\n",
    "module.exports = router;\n"]

/-- A working directory with the index. -/
def indexDisk : Disk where
  workingDirectory := []
  nodes := [(["index.js"], .file indexText.toUTF8)]

/-- The text of a schema with two tables. -/
def usersLogSql : String :=
  "CREATE TABLE users () ENGINE=InnoDB; CREATE TABLE log () ENGINE=InnoDB;"

theorem tableNames_usersLogSql : (Sql.parse usersLogSql).tableNames = ["users", "log"] := by
  rw [Sql.parse_eq, usersLogSql, String.toList_ofList]
  decide

/-- A table with half of its lines and one with none of them are registered, the first one twice. -/
theorem registers_users_log :
    (∀ name ∈ ["users", "log", "users"], ∃ sql, name ∈ (Sql.parse sql).tableNames) ∧
      (∀ name ∈ ["users", "log", "users"], ∀ line ∈ lines name,
        count (patchNames indexText ["users", "log", "users"]) line = 1) ∧
      patchNames indexText ["users", "log", "users"].eraseDups =
        patchNames indexText ["users", "log", "users"] ∧
      ∃ after, execute (updateRoutes "index.js" "users") indexDisk = (.ok true, after) ∧
        textAt after "index.js" = .ok (patch indexText "users") := by
  have readable : ∀ name ∈ ["users", "log", "users"],
      ∃ sql, name ∈ (Sql.parse sql).tableNames := by
    refine fun name member => ⟨usersLogSql, ?_⟩
    rw [tableNames_usersLogSql]
    revert name
    decide
  obtain ⟨counts, erased, -, steps, -⟩ := registers_each_table readable indexText
  have given : textAt indexDisk "index.js" = .ok indexText := textAt_of_read (by rfl)
  obtain ⟨after, updated, text⟩ := (steps [] "users" ["log", "users"] rfl (by simp)).2 "index.js"
    indexDisk (isFile_of_textAt given) (by rw [RoutesIndex.patchNames_nil, given])
  have incomplete : lacks indexText "users" = true := by decide +kernel
  rw [incomplete] at updated
  rw [RoutesIndex.patchNames_nil] at text
  refine ⟨readable, fun name member line isLine => ?_, erased, after, updated, text⟩
  rw [counts name member line isLine]
  revert name line
  decide +kernel

end Project
end SchemaScaffold
