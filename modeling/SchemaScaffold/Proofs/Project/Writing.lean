import SchemaScaffold.Proofs.Disk.Tree
import SchemaScaffold.Proofs.Project.Execution

/-!
# Effects of writing

What writing a file does to a disk. Every run of it adds directories on the way and changes at
most the file at the destination; a file that is there already is left alone by a careful write.
-/

namespace SchemaScaffold
namespace Project

open Disk (Furnished Grows SameFiles)
open Disk.Path (join)

/-- Write a file and the directories on the way, whatever is there. -/
def put (path text : String) : Run (StateM Disk) WriteResult := do
  createParent path
  overwrite path text
  return .written

/-- A disk differs from another one by directories on the way of a path and, if the path was
written, by the file at its destination. -/
def Touched (path text : String) (before after : Disk) : Prop :=
  ∃ middle, Furnished (before.wayOf path) before middle ∧
    (after = middle ∨ middle.Writable path ∧
      after = middle.set (middle.destination path) (.file text.toUTF8))

namespace Touched

variable {path text : String} {before after : Disk}

theorem refl (path text : String) (disk : Disk) : Touched path text disk disk :=
  ⟨disk, Furnished.refl _ disk, .inl rfl⟩

theorem grows (touched : Touched path text before after) : Grows before after := by
  obtain ⟨middle, furnished, rfl | ⟨writable, rfl⟩⟩ := touched
  · exact furnished.grows
  · have free := writable.free
    exact furnished.grows.trans (Disk.grows_set (Disk.ne_nil_of_free free) free _)

/-- Only the file at the destination may differ. -/
theorem file?_of_ne (touched : Touched path text before after) {place : Location}
    (apart : place ≠ before.destination path) : after.file? place = before.file? place := by
  obtain ⟨middle, furnished, rfl | ⟨writable, rfl⟩⟩ := touched
  · exact furnished.sameFiles place
  · rw [furnished.grows.destination, Disk.file?_set_of_ne apart]
    exact furnished.sameFiles place

/-- Nothing is new off the way. -/
theorem node?_of_not_mem (touched : Touched path text before after) {place : Location}
    (off : place ∉ before.wayOf path) (apart : place ≠ before.destination path) :
    after.node? place = before.node? place := by
  obtain ⟨middle, furnished, rfl | ⟨writable, rfl⟩⟩ := touched
  · exact furnished.node?_of_not_mem off
  · rw [furnished.grows.destination, Disk.node?_set_of_ne apart]
    exact furnished.node?_of_not_mem off

end Touched

theorem execute_createParent_furnished (path : String) (disk : Disk) :
    Furnished (disk.wayOf path) disk (execute (createParent path) disk).2 := by
  rw [execute_createParent]
  split
  · exact Furnished.refl _ disk
  · next parent found =>
    split
    · exact Furnished.refl _ disk
    · next named =>
      have nonempty : parent ≠ "" := by simpa using named
      exact (Disk.createDirectories_furnished disk parent).mono
        (Disk.wayOf_parent found nonempty disk)

/-- A parent that has been created is there when it is created again. -/
theorem execute_createParent_again {path : String} {disk middle after : Disk}
    (created : execute (createParent path) disk = (.ok (), middle))
    (grows : Grows middle after) : execute (createParent path) after = (.ok (), after) := by
  rw [execute_createParent] at created ⊢
  split at created
  · rfl
  · next parent found =>
    split at created
    · next empty => rw [if_pos empty]
    · next named =>
      rw [if_neg named]
      cases run : disk.createDirectories parent with
      | mk answer last =>
        rw [run] at created
        cases answer with
        | error fault => simp at created
        | ok value =>
          obtain rfl : last = middle := by simpa using created
          rw [Disk.createDirectories_again run grows]
          rfl

/-- Putting a file succeeds if its directories can be created and the file be written. -/
theorem execute_put_eq_ok {path text : String} {disk after : Disk} {result : WriteResult} :
    execute (put path text) disk = (.ok result, after) ↔
      result = .written ∧ ∃ middle, execute (createParent path) disk = (.ok (), middle) ∧
        middle.write path text = .ok after := by
  unfold put
  rw [execute_bind_eq_ok]
  constructor
  · rintro ⟨⟨⟩, middle, created, later⟩
    obtain ⟨⟨⟩, last, written, done⟩ := execute_bind_eq_ok.1 later
    rw [execute_overwrite] at written
    obtain ⟨rfl, rfl⟩ : WriteResult.written = result ∧ last = after := by simpa using done
    refine ⟨rfl, middle, created, ?_⟩
    split at written
    · next changed => simp_all
    · simp at written
  · rintro ⟨rfl, middle, created, written⟩
    refine ⟨(), middle, created, execute_bind_eq_ok.2 ⟨(), after, ?_, rfl⟩⟩
    rw [execute_overwrite, written]

theorem respects_put (path text : String) : Respects (Touched path text) (put path text) := by
  intro disk
  have furnished := execute_createParent_furnished path disk
  unfold put
  rw [execute_bind]
  cases created : execute (createParent path) disk with
  | mk answer middle =>
    rw [created] at furnished
    cases answer with
    | error cause => exact ⟨middle, furnished, .inl rfl⟩
    | ok value =>
      dsimp only
      rw [execute_bind, execute_overwrite]
      cases written : middle.write path text with
      | error fault => exact ⟨middle, furnished, .inl rfl⟩
      | ok last => exact ⟨middle, furnished, .inr (Disk.write_eq_ok.1 written)⟩

/-- A file that was put can be read. -/
theorem read_of_put {path text : String} {disk after : Disk} {result : WriteResult}
    (run : execute (put path text) disk = (.ok result, after)) :
    after.isFile path = true ∧ after.read path = .ok text.toUTF8 := by
  obtain ⟨-, middle, -, written⟩ := execute_put_eq_ok.1 run
  exact Disk.read_of_write written

/-- Putting the same file again changes nothing. -/
theorem execute_put_again {path text : String} {disk middle after : Disk}
    {result : WriteResult} (run : execute (put path text) disk = (.ok result, middle))
    (grows : Grows middle after) (same : after.read path = .ok text.toUTF8) :
    execute (put path text) after = (.ok .written, after) := by
  obtain ⟨-, first, created, written⟩ := execute_put_eq_ok.1 run
  have fileThere := Disk.isFile_of_read same
  obtain ⟨content, standing, given⟩ := Disk.read_of_isFile fileThere
  obtain ⟨noSlash, older, followed⟩ := Disk.isFile_iff.1 fileThere
  obtain rfl : text.toUTF8 = content := Except.ok.inj (same.symm.trans given)
  have node := Disk.file?_eq_some.1 standing
  have free : after.node? (after.destination path) ≠ some .directory := by simp [node]
  have rewritten : after.write path text = .ok after :=
    Disk.write_eq_ok.2 ⟨⟨noSlash, _, followed, by simp⟩,
      (Disk.set_eq_self (Disk.ne_nil_of_free free) node).symm⟩
  have firstGrows : Grows first middle := by
    obtain ⟨writable, rfl⟩ := Disk.write_eq_ok.1 written
    exact Disk.grows_set (Disk.ne_nil_of_free writable.free) writable.free _
  exact execute_put_eq_ok.2
    ⟨rfl, after, execute_createParent_again created (firstGrows.trans grows), rewritten⟩

theorem respects_overwrite (path text : String) :
    Respects (Touched path text) (overwrite path text) := by
  intro disk
  rw [execute_overwrite]
  cases written : disk.write path text with
  | error fault => exact Touched.refl path text disk
  | ok after => exact ⟨disk, Furnished.refl _ disk, .inr (Disk.write_eq_ok.1 written)⟩

/-- What is at the path of a careful write is left alone; anything else is put. -/
theorem execute_writeFile_skip (path text : String) (disk : Disk) :
    execute (writeFile path text .skip) disk =
      if disk.hasEntry path then (.ok .skipped, disk) else execute (put path text) disk := by
  unfold writeFile Disk.hasEntry
  simp only [execute_bind, execute_isFile, execute_isDirectory]
  cases disk.isFile path || disk.isDirectory path <;> rfl

/-- A write that replaces puts its file in any case. -/
theorem execute_writeFile_overwrite (path text : String) (disk : Disk) :
    execute (writeFile path text .overwrite) disk = execute (put path text) disk := by
  unfold writeFile put
  simp only [execute_bind, execute_isFile, execute_isDirectory]

theorem respects_writeFile_skip (path text : String) :
    Respects (Touched path text) (writeFile path text .skip) := by
  intro disk
  rw [execute_writeFile_skip]
  split
  · exact Touched.refl path text disk
  · exact respects_put path text disk

theorem respects_writeFile_overwrite (path text : String) :
    Respects (Touched path text) (writeFile path text .overwrite) := by
  intro disk
  rw [execute_writeFile_overwrite]
  exact respects_put path text disk

/-- After a careful write something is at its path. -/
theorem hasEntry_of_writeFile {path text : String} {disk after : Disk} {result : WriteResult}
    (run : execute (writeFile path text .skip) disk = (.ok result, after)) :
    after.hasEntry path = true := by
  rw [execute_writeFile_skip] at run
  split at run
  · next found =>
    obtain ⟨-, rfl⟩ : WriteResult.skipped = result ∧ disk = after := by simpa using run
    exact found
  · simp [Disk.hasEntry, (read_of_put run).1]

/-- A put file stands at its destination. -/
theorem file?_of_put {path text : String} {disk after : Disk} {result : WriteResult}
    (run : execute (put path text) disk = (.ok result, after)) :
    after.file? (disk.destination path) = some text.toUTF8 := by
  obtain ⟨isFile, read⟩ := read_of_put run
  obtain ⟨content, standing, given⟩ := Disk.read_of_isFile isFile
  have grows := ((respects_put path text).of_execute run).grows
  rw [read] at given
  rw [← grows.destination, standing, Except.ok.inj given]

/-- The cause of a failed write: a fault that lies in the tree and not in a content. -/
def IsWriteFault (cause : Failure) : Prop :=
  ∃ fault, cause = .disk fault ∧ fault ≠ .notText

theorem failsOnly_createParent (path : String) : FailsOnly IsWriteFault (createParent path) := by
  intro disk after cause run
  rw [execute_createParent] at run
  split at run
  · simp at run
  · next parent found =>
    split at run
    · simp at run
    · cases created : disk.createDirectories parent with
      | mk answer last =>
        rw [created] at run
        cases answer with
        | ok value => simp at run
        | error fault =>
          obtain ⟨rfl, -⟩ : Failure.disk fault = cause ∧ last = after := by
            simpa using run
          exact ⟨fault, rfl, Disk.createDirectories_error_ne_notText created⟩

theorem failsOnly_overwrite (path text : String) :
    FailsOnly IsWriteFault (overwrite path text) := by
  intro disk after cause run
  rw [execute_overwrite] at run
  cases written : disk.write path text with
  | ok last => simp [written] at run
  | error fault =>
    obtain ⟨rfl, -⟩ : Failure.disk fault = cause ∧ disk = after := by simpa [written] using run
    exact ⟨fault, rfl, Disk.write_error_ne_notText written⟩

theorem failsOnly_put (path text : String) : FailsOnly IsWriteFault (put path text) :=
  FailsOnly.bind (failsOnly_createParent path) fun _ =>
    FailsOnly.bind (failsOnly_overwrite path text) fun _ => FailsOnly.pure _

theorem failsOnly_writeFile_skip (path text : String) :
    FailsOnly IsWriteFault (writeFile path text .skip) := by
  intro disk after cause run
  rw [execute_writeFile_skip] at run
  split at run
  · simp at run
  · exact failsOnly_put path text disk after cause run

theorem failsOnly_writeFile_overwrite (path text : String) :
    FailsOnly IsWriteFault (writeFile path text .overwrite) := by
  intro disk after cause run
  rw [execute_writeFile_overwrite] at run
  exact failsOnly_put path text disk after cause run

/-- A disk has grown, and files differ at most at the destinations of some paths. -/
def ChangesOnly (root : String) (paths : List String) (before after : Disk) : Prop :=
  Grows before after ∧ ∀ place, (∀ path ∈ paths, place ≠ before.destination (join root path)) →
    after.file? place = before.file? place

theorem chains_changesOnly (root : String) (paths : List String) :
    Chains (ChangesOnly root paths) where
  refl disk := ⟨Grows.refl disk, fun _ _ => rfl⟩
  trans first second := by
    refine ⟨first.1.trans second.1, fun place apart => ?_⟩
    rw [second.2 place fun path member => by
      rw [first.1.destination]
      exact apart path member, first.2 place apart]

theorem ChangesOnly.mono {root : String} {paths wider : List String} (within : paths ⊆ wider)
    {before after : Disk} (changes : ChangesOnly root paths before after) :
    ChangesOnly root wider before after :=
  ⟨changes.1, fun place apart => changes.2 place fun path member => apart path (within member)⟩

/-- A path at which nothing has changed reads the same. -/
theorem ChangesOnly.read_eq {root : String} {paths : List String} {before after : Disk}
    (changes : ChangesOnly root paths before after) {path : String}
    (isFile : before.isFile path = true)
    (apart : ∀ other ∈ paths, before.destination path ≠ before.destination (join root other)) :
    after.read path = before.read path :=
  changes.1.read isFile (changes.2 _ apart)

theorem ChangesOnly.textAt_eq {root : String} {paths : List String} {before after : Disk}
    (changes : ChangesOnly root paths before after) {path : String}
    (isFile : before.isFile path = true)
    (apart : ∀ other ∈ paths, before.destination path ≠ before.destination (join root other)) :
    textAt after path = textAt before path := by
  rw [textAt, textAt, changes.read_eq isFile apart]

theorem Touched.changesOnly {root path text : String} {paths : List String}
    (member : path ∈ paths) {before after : Disk}
    (touched : Touched (join root path) text before after) :
    ChangesOnly root paths before after :=
  ⟨touched.grows, fun _ apart => touched.file?_of_ne (apart path member)⟩

/-- From a tree a tree is made. -/
def KeepsTree (before after : Disk) : Prop :=
  before.IsTree → after.IsTree

theorem chains_keepsTree : Chains KeepsTree :=
  ⟨fun _ tree => tree, fun first second tree => second (first tree)⟩

theorem keepsTree_createParent (path : String) : Respects KeepsTree (createParent path) := by
  intro disk tree
  rw [execute_createParent]
  split
  · exact tree
  · split
    · exact tree
    · exact tree.createDirectories _

theorem keepsTree_overwrite (path text : String) :
    Respects KeepsTree (overwrite path text) := by
  intro disk tree
  rw [execute_overwrite]
  cases written : disk.write path text with
  | error fault => exact tree
  | ok after => exact tree.write written

theorem keepsTree_put (path text : String) : Respects KeepsTree (put path text) :=
  Respects.bind chains_keepsTree (keepsTree_createParent path) fun _ =>
    Respects.bind chains_keepsTree (keepsTree_overwrite path text) fun _ =>
      Respects.pure chains_keepsTree _

theorem keepsTree_writeFile_skip (path text : String) :
    Respects KeepsTree (writeFile path text .skip) := by
  intro disk tree
  rw [execute_writeFile_skip]
  split
  · exact tree
  · exact keepsTree_put path text disk tree

theorem keepsTree_writeFile_overwrite (path text : String) :
    Respects KeepsTree (writeFile path text .overwrite) := by
  intro disk
  rw [execute_writeFile_overwrite]
  exact keepsTree_put path text disk

end Project
end SchemaScaffold
