import SchemaScaffold.Proofs.Disk.Inside

/-!
# Looking up modules

A path by which a module is loaded is followed from the folder of the module that loads it, by the
rules of Node: it stands for a file, whose ending it may leave out, or else for the index of a
directory.
-/

namespace SchemaScaffold
namespace Modules

open Disk (IsPlainName arrival arrival_append arrival_plain)
open Disk.Path (names names_of_not_mem names_slash pieces)

/-- The endings that a path may leave out, in the order in which they are tried. -/
def endings : List String :=
  [".js", ".json", ".node"]

/-- The files for which a path to a place may stand. -/
def fileCandidates (place : Location) : List Location :=
  match place.getLast? with
  | none => []
  | some name => ("" :: endings).map fun ending => place.dropLast ++ [name ++ ending]

/-- The index files of a directory. They do not count in a directory with a manifest, which may
name another file. -/
def indexCandidates (disk : Disk) (place : Location) : List Location :=
  if (disk.file? (place ++ ["package.json"])).isSome then []
  else endings.map fun ending => place ++ ["index" ++ ending]

/-- A path that can only be that of a directory. -/
def isOfDirectory (path : String) : Bool :=
  (pieces path).getLast? ∈ [some "", some ".", some ".."]

/-- The files for which a path may stand, in the order in which they are tried. -/
def candidates (disk : Disk) (folder : Location) (path : String) : List Location :=
  (if isOfDirectory path then [] else fileCandidates (arrival folder (names path))) ++
    indexCandidates disk (arrival folder (names path))

/-- The file that is loaded by a path from a folder. -/
def resolve? (disk : Disk) (folder : Location) (path : String) : Option Location :=
  (candidates disk folder path).find? fun place => (disk.file? place).isSome

section Candidates

variable {disk : Disk} {folder root place : Location} {inner : List String} {path : String}

/-- The candidates of a path that leads into a directory are in the directory. -/
theorem exists_inner_of_mem_candidates (arrives : arrival folder (names path) = root ++ inner)
    (strict : inner ≠ []) (member : place ∈ candidates disk folder path) :
    ∃ other ≠ [], place = root ++ other := by
  obtain ⟨front, last, rfl⟩ : ∃ front last, inner = front ++ [last] :=
    ⟨_, _, (List.dropLast_concat_getLast strict).symm⟩
  rw [candidates, arrives, ← List.append_assoc] at member
  rcases List.mem_append.1 member with asFile | asIndex
  · split at asFile
    · simp at asFile
    · rw [fileCandidates, List.getLast?_concat, List.dropLast_concat] at asFile
      obtain ⟨ending, -, rfl⟩ := List.mem_map.1 asFile
      exact ⟨front ++ [last ++ ending], by simp, List.append_assoc _ _ _⟩
  · rw [indexCandidates] at asIndex
    split at asIndex
    · simp at asIndex
    · obtain ⟨ending, -, rfl⟩ := List.mem_map.1 asIndex
      exact ⟨front ++ [last] ++ ["index" ++ ending], by simp, by simp⟩

/-- A path that leads into a directory and has a file among its candidates is resolved to a file
in the directory. -/
theorem exists_resolve? (arrives : arrival folder (names path) = root ++ inner)
    (strict : inner ≠ []) (member : place ∈ candidates disk folder path)
    (file : disk.file? place ≠ none) :
    ∃ other ≠ [], resolve? disk folder path = some (root ++ other) ∧
      disk.file? (root ++ other) ≠ none := by
  have succeeds : (resolve? disk folder path).isSome = true :=
    List.find?_isSome.2 ⟨place, member, Option.isSome_iff_ne_none.2 file⟩
  obtain ⟨found, resolved⟩ := Option.isSome_iff_exists.1 succeeds
  obtain ⟨other, further, rfl⟩ :=
    exists_inner_of_mem_candidates arrives strict (List.mem_of_find?_eq_some resolved)
  have standing := List.find?_some resolved
  exact ⟨other, further, resolved, Option.isSome_iff_ne_none.1 standing⟩

end Candidates

/-- A path of a folder, a slash and a name. -/
structure EndsIn (path base name : String) : Prop where
  shape : path.toList = base.toList ++ '/' :: name.toList
  noSlash : '/' ∉ name.toList
  plain : IsPlainName name
  nonempty : name ≠ ""

namespace EndsIn

variable {path base name : String} (ends : EndsIn path base name)

include ends

theorem arrival_eq (folder : Location) :
    arrival folder (names path) = arrival folder (names base) ++ [name] := by
  have whole : path = String.ofList (base.toList ++ '/' :: name.toList) := by
    rw [← ends.shape, String.ofList_toList]
  rw [whole, names_slash, arrival_append, names_of_not_mem (by simpa using ends.nonempty)
    ends.noSlash, String.ofList_toList, String.ofList_toList]
  exact arrival_plain (by simpa using ends.plain) _

theorem isOfDirectory_eq_false : isOfDirectory path = false := by
  have last : (pieces path).getLast? = some name := by
    rw [pieces, ends.shape, Text.splitOn_append_separator, Text.splitOn_of_not_mem ends.noSlash]
    simp
  simp [isOfDirectory, last, ends.nonempty, ends.plain.1, ends.plain.2]

/-- The path may leave out the ending of code. -/
theorem code_mem_candidates (disk : Disk) (folder : Location) :
    arrival folder (names base) ++ [name ++ ".js"] ∈ candidates disk folder path := by
  rw [candidates, ends.arrival_eq, ends.isOfDirectory_eq_false]
  refine List.mem_append_left _ ?_
  simp [fileCandidates, endings]

/-- The path may be that of a directory without a manifest. -/
theorem index_mem_candidates {disk : Disk} {folder : Location}
    (noManifest : disk.file? (arrival folder (names base) ++ [name, "package.json"]) = none) :
    arrival folder (names base) ++ [name, "index.js"] ∈ candidates disk folder path := by
  rw [candidates, ends.arrival_eq]
  refine List.mem_append_right _ ?_
  simp [indexCandidates, endings, noManifest]

end EndsIn

end Modules
end SchemaScaffold
