import SchemaScaffold.Proofs.Disk.Destination

/-!
# Growth of disks

A disk grows when directories stay directories and files stay files, whatever comes to be in the
files and beside them. Paths that lead somewhere on a disk lead there on a disk that has grown.
Creating directories and writing files make a disk grow; the first leaves all files alone, and
the second changes one file.
-/

namespace SchemaScaffold
namespace Disk

/-- The content of the file at a place. -/
def file? (disk : Disk) (place : Location) : Option ByteArray :=
  match disk.node? place with
  | some (.file content) => some content
  | _ => none

theorem file?_eq_some {disk : Disk} {place : Location} {content : ByteArray} :
    disk.file? place = some content ↔ disk.node? place = some (.file content) := by
  unfold file?
  split
  · next standing => simp [standing]
  · next other =>
    simp only [reduceCtorEq, false_iff]
    exact other content

/-- Two disks have the same files with the same contents. -/
def SameFiles (before after : Disk) : Prop :=
  ∀ place, after.file? place = before.file? place

/-- What stands on a disk is there on the other one and of the same kind. -/
structure Grows (before after : Disk) : Prop where
  workingDirectory : after.workingDirectory = before.workingDirectory
  directory : ∀ place, before.node? place = some .directory →
    after.node? place = some .directory
  file : ∀ place content, before.node? place = some (.file content) →
    ∃ newer, after.node? place = some (.file newer)

namespace Grows

variable {before middle after : Disk}

theorem refl (disk : Disk) : Grows disk disk :=
  ⟨rfl, fun _ standing => standing, fun _ content standing => ⟨content, standing⟩⟩

theorem trans (first : Grows before middle) (second : Grows middle after) :
    Grows before after where
  workingDirectory := second.workingDirectory.trans first.workingDirectory
  directory place standing := second.directory place (first.directory place standing)
  file place content standing := by
    obtain ⟨newer, stays⟩ := first.file place content standing
    exact second.file place newer stays

/-- Where a file stands, a file goes on standing. -/
theorem file?_ne_none (grows : Grows before after) {place : Location}
    (standing : before.file? place ≠ none) : after.file? place ≠ none := by
  obtain ⟨content, found⟩ := Option.ne_none_iff_exists'.1 standing
  obtain ⟨newer, stays⟩ := grows.file place content (file?_eq_some.1 found)
  simp [file?_eq_some.2 stays]

/-- What stands and is no file never becomes one. -/
theorem file?_eq_none (grows : Grows before after) {place : Location}
    (occupied : before.node? place ≠ none) (noFile : before.file? place = none) :
    after.file? place = none := by
  cases found : before.node? place with
  | none => exact absurd found occupied
  | some node =>
    cases node with
    | directory => rw [Disk.file?, grows.directory place found]
    | file content => simp [file?_eq_some.2 found] at noFile

/-- Where something stands, something goes on standing. -/
theorem occupied (grows : Grows before after) {place : Location}
    (standing : before.node? place ≠ none) : after.node? place ≠ none := by
  cases found : before.node? place with
  | none => exact absurd found standing
  | some node =>
    cases node with
    | directory => simp [grows.directory place found]
    | file content =>
      obtain ⟨newer, stays⟩ := grows.file place content found
      simp [stays]

theorem origin (grows : Grows before after) (path : String) :
    after.origin path = before.origin path := by
  simp [Disk.origin, grows.workingDirectory]

theorem destination (grows : Grows before after) (path : String) :
    after.destination path = before.destination path := by
  simp [Disk.destination, grows.origin]

theorem wayOf (grows : Grows before after) (path : String) :
    after.wayOf path = before.wayOf path := by
  simp [Disk.wayOf, grows.origin]

theorem start (grows : Grows before after) (path : String) :
    after.start path = before.start path := by
  simp [Disk.start, grows.workingDirectory]

/-- Names that lead to a directory go on leading to it. -/
theorem walk_directory (grows : Grows before after) {place location : Location}
    {names : List String} (found : before.walk place names = .ok (.directory location)) :
    after.walk place names = .ok (.directory location) := by
  induction names generalizing place with
  | nil => simpa [walk] using found
  | cons name rest ih =>
    rcases name_cases name with rfl | rfl | plain
    · rw [walk_dot] at found ⊢
      exact ih found
    · rw [walk_dots] at found ⊢
      exact ih found
    · rw [walk_plain plain] at found ⊢
      split at found
      · simp at found
      · next short =>
        rw [if_neg short]
        split at found
        · next standing =>
          rw [grows.directory _ standing]
          exact ih found
        all_goals
          split at found <;> simp at found

/-- Names that lead to a file go on leading to it. -/
theorem walk_file (grows : Grows before after) {place location : Location}
    {names : List String} {content : ByteArray}
    (found : before.walk place names = .ok (.file location content)) :
    ∃ newer, after.walk place names = .ok (.file location newer) := by
  induction names generalizing place with
  | nil => simp [walk] at found
  | cons name rest ih =>
    rcases name_cases name with rfl | rfl | plain
    · rw [walk_dot] at found ⊢
      exact ih found
    · rw [walk_dots] at found ⊢
      exact ih found
    · rw [walk_plain plain] at found ⊢
      split at found
      · simp at found
      · next short =>
        rw [if_neg short]
        split at found
        · next standing =>
          rw [grows.directory _ standing]
          exact ih found
        · next older standing =>
          obtain ⟨newer, stays⟩ := grows.file _ older standing
          rw [stays]
          split at found
          · next last =>
            simp only [Except.ok.injEq, Target.file.injEq] at found
            exact ⟨newer, by simp [last, found.1]⟩
          · simp at found
        · split at found <;> simp at found

end Grows

theorem locate_eq (disk : Disk) (path : String) :
    disk.locate path = (disk.start path).bind fun place =>
      disk.walk place (Path.names path) := rfl

/-- A path is followed from its origin, unless it cannot be followed at all. -/
theorem start_eq_ok {disk : Disk} {path : String} {place : Location}
    (started : disk.start path = .ok place) : place = disk.origin path := by
  unfold start at started
  split at started
  · simp at started
  · split at started
    · simp at started
    · split at started
      · simp at started
      · exact (Except.ok.inj started).symm

theorem locate_eq_ok {disk : Disk} {path : String} {target : Target} :
    disk.locate path = .ok target ↔
      disk.start path = .ok (disk.origin path) ∧
        disk.walk (disk.origin path) (Path.names path) = .ok target := by
  rw [locate_eq]
  cases started : disk.start path with
  | error fault => simp [Except.bind]
  | ok place =>
    obtain rfl := start_eq_ok started
    simp [Except.bind]

/-- A path that can be followed leads to its destination. -/
theorem location_of_locate {disk : Disk} {path : String} {target : Target}
    (found : disk.locate path = .ok target) : target.location = disk.destination path :=
  location_of_walk (locate_eq_ok.1 found).2

theorem isFile_iff {disk : Disk} {path : String} :
    disk.isFile path = true ↔ Path.endsWithSlash path = false ∧
      ∃ content, disk.locate path = .ok (.file (disk.destination path) content) := by
  unfold isFile
  split
  · next location content found =>
    obtain rfl : location = disk.destination path := location_of_locate found
    simp [found]
  · next other =>
    simp only [Bool.false_eq_true, false_iff, not_and, not_exists]
    intro _ content found
    exact other _ _ found

theorem isDirectory_iff {disk : Disk} {path : String} :
    disk.isDirectory path = true ↔
      disk.locate path = .ok (.directory (disk.destination path)) := by
  unfold isDirectory
  split
  · next location found =>
    obtain rfl : location = disk.destination path := location_of_locate found
    simp [found]
  · next other =>
    simp only [Bool.false_eq_true, false_iff]
    exact other _

/-- A file to which a path leads stands at the destination of the path. -/
theorem file?_of_locate {disk : Disk} {path : String} {location : Location}
    {content : ByteArray} (found : disk.locate path = .ok (.file location content)) :
    disk.file? (disk.destination path) = some content := by
  have atEnd : location = disk.destination path := location_of_locate found
  rcases stands_of_walk (locate_eq_ok.1 found).2 with standing | other
  · rw [← atEnd, file?_eq_some]
    exact standing
  · simp at other

namespace Grows

variable {before after : Disk}

theorem isFile (grows : Grows before after) {path : String}
    (found : before.isFile path = true) : after.isFile path = true := by
  obtain ⟨noSlash, content, followed⟩ := isFile_iff.1 found
  obtain ⟨started, walked⟩ := locate_eq_ok.1 followed
  obtain ⟨newer, stays⟩ := grows.walk_file walked
  refine isFile_iff.2 ⟨noSlash, newer, locate_eq_ok.2 ?_⟩
  rw [grows.start, grows.origin, grows.destination]
  exact ⟨started, stays⟩

theorem isDirectory (grows : Grows before after) {path : String}
    (found : before.isDirectory path = true) : after.isDirectory path = true := by
  obtain ⟨started, walked⟩ := locate_eq_ok.1 (isDirectory_iff.1 found)
  refine isDirectory_iff.2 (locate_eq_ok.2 ?_)
  rw [grows.start, grows.origin, grows.destination]
  exact ⟨started, grows.walk_directory walked⟩

theorem hasEntry (grows : Grows before after) {path : String}
    (found : before.hasEntry path = true) : after.hasEntry path = true := by
  simp only [Disk.hasEntry, Bool.or_eq_true] at found ⊢
  exact found.imp grows.isFile grows.isDirectory

end Grows

/-- What is a directory is no file. -/
theorem isFile_of_isDirectory {disk : Disk} {path : String}
    (found : disk.isDirectory path = true) : disk.isFile path = false := by
  simp [isFile, isDirectory_iff.1 found]

/-- Reading gives the content of the file at the destination. -/
theorem read_of_isFile {disk : Disk} {path : String} (found : disk.isFile path = true) :
    ∃ content, disk.file? (disk.destination path) = some content ∧
      disk.read path = .ok content := by
  obtain ⟨noSlash, content, followed⟩ := isFile_iff.1 found
  refine ⟨content, file?_of_locate followed, ?_⟩
  simp [read, followed, noSlash, bind, Except.bind, pure, Except.pure]

/-- A file stands at the destination of a path that leads to one. -/
theorem file?_of_isFile {disk : Disk} {path : String} (found : disk.isFile path = true) :
    disk.file? (disk.destination path) ≠ none := by
  obtain ⟨content, standing, -⟩ := read_of_isFile found
  simp [standing]

/-- Only files can be read. -/
theorem isFile_of_read {disk : Disk} {path : String} {content : ByteArray}
    (given : disk.read path = .ok content) : disk.isFile path = true := by
  cases found : disk.locate path with
  | error fault => simp [read, found, bind, Except.bind] at given
  | ok target =>
    have atEnd := location_of_locate found
    cases target with
    | directory location => simp [read, found, bind, Except.bind, throw, throwThe,
        MonadExceptOf.throw] at given
    | absent location => simp [read, found, bind, Except.bind, throw, throwThe,
        MonadExceptOf.throw] at given
    | file location older =>
      obtain rfl : location = disk.destination path := atEnd
      cases slash : Path.endsWithSlash path with
      | false => exact isFile_iff.2 ⟨slash, older, found⟩
      | true => simp [read, found, slash, bind, Except.bind, throw, throwThe,
          MonadExceptOf.throw] at given

/-- A path reads the same on a disk that has grown if its file has stayed the same. -/
theorem Grows.read {before after : Disk} (grows : Grows before after) {path : String}
    (found : before.isFile path = true)
    (same : after.file? (before.destination path) = before.file? (before.destination path)) :
    after.read path = before.read path := by
  obtain ⟨content, standing, given⟩ := read_of_isFile found
  obtain ⟨newer, later, givenLater⟩ := read_of_isFile (grows.isFile found)
  rw [grows.destination, same, standing] at later
  rw [given, givenLater, Option.some.inj later]

end Disk
end SchemaScaffold
