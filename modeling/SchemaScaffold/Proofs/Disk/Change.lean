import SchemaScaffold.Proofs.Disk.Growth
import SchemaScaffold.Proofs.Disk.PathNames

/-!
# Changes of disks

What the two changing operations do. Creating directories puts directories on empty places along
one way and does nothing else. Writing puts one file at the destination of a path.
-/

namespace SchemaScaffold
namespace Disk

/-- A disk differs from another one by new directories on empty places of a way. -/
structure Furnished (way : List Location) (before after : Disk) : Prop where
  workingDirectory : after.workingDirectory = before.workingDirectory
  places : ∀ place, after.node? place = before.node? place ∨
    (before.node? place = none ∧ after.node? place = some .directory ∧ place ∈ way)

namespace Furnished

variable {way : List Location} {before middle after : Disk}

theorem refl (way : List Location) (disk : Disk) : Furnished way disk disk :=
  ⟨rfl, fun _ => .inl rfl⟩

theorem trans (first : Furnished way before middle) (second : Furnished way middle after) :
    Furnished way before after where
  workingDirectory := second.workingDirectory.trans first.workingDirectory
  places place := by
    rcases first.places place with same | ⟨empty, directory, onWay⟩
    · rcases second.places place with same' | ⟨empty', directory', onWay'⟩
      · exact .inl (same'.trans same)
      · exact .inr ⟨same ▸ empty', directory', onWay'⟩
    · rcases second.places place with same' | ⟨empty', -, -⟩
      · exact .inr ⟨empty, same'.trans directory, onWay⟩
      · rw [directory] at empty'
        simp at empty'

theorem mono {wider : List Location} (within : way ⊆ wider)
    (furnished : Furnished way before after) : Furnished wider before after where
  workingDirectory := furnished.workingDirectory
  places place := (furnished.places place).imp_right fun ⟨empty, directory, onWay⟩ =>
    ⟨empty, directory, within onWay⟩

theorem grows (furnished : Furnished way before after) : Grows before after where
  workingDirectory := furnished.workingDirectory
  directory place standing := by
    rcases furnished.places place with same | ⟨empty, -, -⟩
    · rw [same, standing]
    · rw [standing] at empty
      simp at empty
  file place content standing := by
    rcases furnished.places place with same | ⟨empty, -, -⟩
    · exact ⟨content, same.trans standing⟩
    · rw [standing] at empty
      simp at empty

theorem sameFiles (furnished : Furnished way before after) : SameFiles before after := by
  intro place
  rcases furnished.places place with same | ⟨empty, directory, -⟩
  · simp [file?, same]
  · simp [file?, empty, directory]

/-- Off the way everything is as before. -/
theorem node?_of_not_mem (furnished : Furnished way before after) {place : Location}
    (off : place ∉ way) : after.node? place = before.node? place :=
  (furnished.places place).resolve_right fun other => off other.2.2

end Furnished

/-- A directory on an empty place. -/
theorem furnished_set {disk : Disk} {place : Location} (inside : place ≠ [])
    (empty : disk.node? place = none) {way : List Location} (onWay : place ∈ way) :
    Furnished way disk (disk.set place .directory) where
  workingDirectory := rfl
  places other := by
    by_cases same : other = place
    · subst same
      exact .inr ⟨empty, node?_set_self inside _, onWay⟩
    · exact .inl (node?_set_of_ne same _)

theorem createAlong_dot (disk : Disk) (place : Location) (rest : List String) :
    createAlong disk place ("." :: rest) = createAlong disk place rest := by
  simp [createAlong]

theorem createAlong_dots (disk : Disk) (place : Location) (rest : List String) :
    createAlong disk place (".." :: rest) = createAlong disk place.dropLast rest := by
  simp [createAlong]

/-- One step of creating directories by a name that is no dot. -/
theorem createAlong_plain {name : String} (plain : IsPlainName name) (disk : Disk)
    (place : Location) (rest : List String) :
    createAlong disk place (name :: rest) =
      if maxNameSize < name.utf8ByteSize then (.error .nameTooLong, disk)
      else
        match disk.node? (place ++ [name]) with
        | some .directory => createAlong disk (place ++ [name]) rest
        | some (.file _) => (.error (if rest.isEmpty then .exists else .notDirectory), disk)
        | none => createAlong (disk.set (place ++ [name]) .directory) (place ++ [name]) rest := by
  rw [createAlong, if_neg plain.1]
  exact if_neg plain.2

/-- Creating directories along names changes empty places on the way only. -/
theorem createAlong_furnished (disk : Disk) (place : Location) (names : List String) :
    Furnished (waypoints place names) disk (createAlong disk place names).2 := by
  induction names generalizing disk place with
  | nil => exact Furnished.refl _ disk
  | cons name rest ih =>
    have later : waypoints (follow place name) rest ⊆ waypoints place (name :: rest) :=
      List.subset_cons_self place _
    rcases name_cases name with rfl | rfl | plain
    · rw [createAlong_dot]
      simpa using (ih disk place).mono (by simpa using later)
    · rw [createAlong_dots]
      simpa using (ih disk place.dropLast).mono (by simpa using later)
    · rw [createAlong_plain plain]
      rw [follow_plain plain] at later
      split
      · exact Furnished.refl _ disk
      · split
        · exact (ih disk _).mono later
        · exact Furnished.refl _ disk
        · next empty =>
          have onWay := later (start_mem_waypoints (place ++ [name]) rest)
          exact (furnished_set (by simp) empty onWay).trans ((ih _ _).mono later)

/-- Directories that were created along names are there when they are created again. -/
theorem createAlong_again {disk middle after : Disk} {place : Location} {names : List String}
    (created : createAlong disk place names = (.ok (), middle)) (grows : Grows middle after) :
    createAlong after place names = (.ok (), after) := by
  induction names generalizing disk place with
  | nil => rfl
  | cons name rest ih =>
    rcases name_cases name with rfl | rfl | plain
    · rw [createAlong_dot] at created ⊢
      exact ih created
    · rw [createAlong_dots] at created ⊢
      exact ih created
    · rw [createAlong_plain plain] at created ⊢
      split at created
      · simp at created
      · next short =>
        rw [if_neg short]
        have kept (start : Disk) (there : start.node? (place ++ [name]) = some .directory)
            (found : createAlong start (place ++ [name]) rest = (.ok (), middle)) :
            after.node? (place ++ [name]) = some .directory := by
          have furnished := createAlong_furnished start (place ++ [name]) rest
          rw [found] at furnished
          exact (furnished.grows.trans grows).directory _ there
        split at created
        · next standing =>
          rw [kept disk standing created]
          exact ih created
        · simp at created
        · rw [kept _ (node?_set_self (by simp) _) created]
          exact ih created

theorem createDirectories_furnished (disk : Disk) (path : String) :
    Furnished (disk.wayOf path) disk (disk.createDirectories path).2 := by
  unfold createDirectories
  split
  · exact Furnished.refl _ disk
  · next place started =>
    obtain rfl := start_eq_ok started
    exact createAlong_furnished disk _ _

theorem createDirectories_again {disk middle after : Disk} {path : String}
    (created : disk.createDirectories path = (.ok (), middle)) (grows : Grows middle after) :
    after.createDirectories path = (.ok (), after) := by
  have furnished := createDirectories_furnished disk path
  rw [created] at furnished
  unfold createDirectories at created ⊢
  rw [(furnished.grows.trans grows).start]
  split at created
  · simp at created
  · exact createAlong_again created grows

/-- The directories on the way to a path's parent are on the way of the path. -/
theorem wayOf_parent {path parent : String} (found : Path.parent? path = some parent)
    (nonempty : parent ≠ "") (disk : Disk) : disk.wayOf parent ⊆ disk.wayOf path := by
  obtain ⟨⟨back, whole⟩, start⟩ := Path.names_parent found nonempty
  intro way member
  rw [wayOf, origin, ← whole, ← start]
  exact (waypoints_append _ _ _ _).2 (.inl member)

theorem file?_set_self {disk : Disk} {place : Location} (inside : place ≠ [])
    (content : ByteArray) : (disk.set place (.file content)).file? place = some content :=
  file?_eq_some.2 (node?_set_self inside _)

theorem file?_set_of_ne {disk : Disk} {place other : Location} (apart : other ≠ place)
    (node : Node) : (disk.set place node).file? other = disk.file? other := by
  simp [file?, node?_set_of_ne apart]

/-- A file put where no directory stands. -/
theorem grows_set {disk : Disk} {place : Location} (inside : place ≠ [])
    (free : disk.node? place ≠ some .directory) (content : ByteArray) :
    Grows disk (disk.set place (.file content)) where
  workingDirectory := rfl
  directory other standing := by
    have apart : other ≠ place := by
      rintro rfl
      exact free standing
    rw [node?_set_of_ne apart, standing]
  file other older standing := by
    by_cases same : other = place
    · subst same
      exact ⟨content, node?_set_self inside _⟩
    · exact ⟨older, (node?_set_of_ne same _).trans standing⟩

/-- Setting what stands at a place anyway changes nothing. -/
theorem set_eq_self {disk : Disk} {place : Location} (inside : place ≠ []) {node : Node}
    (standing : disk.node? place = some node) : disk.set place node = disk := by
  have fixed (nodes : List (Location × Node)) (found : nodes.lookup place = some node) :
      setNode place node nodes = nodes := by
    induction nodes with
    | nil => simp at found
    | cons head rest ih =>
      obtain ⟨other, old⟩ := head
      by_cases same : other = place
      · subst same
        obtain rfl : old = node := by simpa using found
        simp [setNode]
      · have apart : (place == other) = false := by simpa using Ne.symm same
        rw [List.lookup_cons, apart] at found
        simp [setNode, same, ih found]
  have found : disk.nodes.lookup place = some node := by
    simpa [node?, inside] using standing
  simp [set, fixed disk.nodes found]

/-- A place that has no node or a file is not the root. -/
theorem ne_nil_of_free {disk : Disk} {place : Location}
    (free : disk.node? place ≠ some .directory) : place ≠ [] := by
  rintro rfl
  simp [node?] at free

/-- Where a text can be written: a path leads to a file or to an empty place. -/
def Writable (disk : Disk) (path : String) : Prop :=
  Path.endsWithSlash path = false ∧ ∃ target, disk.locate path = .ok target ∧
    ∀ location, target ≠ .directory location

theorem Writable.free {disk : Disk} {path : String} (writable : disk.Writable path) :
    disk.node? (disk.destination path) ≠ some .directory := by
  obtain ⟨-, target, found, noDirectory⟩ := writable
  have atEnd := location_of_locate found
  rcases stands_of_walk (locate_eq_ok.1 found).2 with standing | other
  · cases target with
    | directory location => exact absurd rfl (noDirectory location)
    | file location content =>
      obtain rfl : location = disk.destination path := atEnd
      intro directory
      rw [Target.Stands, directory] at standing
      simp at standing
    | absent location =>
      obtain rfl : location = disk.destination path := atEnd
      intro directory
      rw [Target.Stands, directory] at standing
      simp at standing
  · exact absurd other (noDirectory _)

/-- Writing changes the file at the destination of the path, or nothing. -/
theorem write_eq_ok {disk after : Disk} {path text : String} :
    disk.write path text = .ok after ↔
      disk.Writable path ∧
        after = disk.set (disk.destination path) (.file text.toUTF8) := by
  unfold Writable write
  cases found : disk.locate path with
  | error fault => simp [bind, Except.bind]
  | ok target =>
    have atEnd : target.location = disk.destination path := location_of_locate found
    cases slash : Path.endsWithSlash path with
    | true => cases target <;> simp [bind, Except.bind, throw, throwThe, MonadExceptOf.throw]
    | false =>
      rw [← atEnd]
      cases target with
      | directory location => simp [bind, Except.bind, throw, throwThe, MonadExceptOf.throw]
      | file location content =>
        simpa [bind, Except.bind, pure, Except.pure, Target.location] using
          ⟨Eq.symm, Eq.symm⟩
      | absent location =>
        simpa [bind, Except.bind, pure, Except.pure, Target.location] using
          ⟨Eq.symm, Eq.symm⟩

/-- An empty place to which names lead is where they lead when a file is put there. -/
theorem walk_set_of_absent {disk : Disk} {place location : Location} {names : List String}
    (found : disk.walk place names = .ok (.absent location)) (content : ByteArray) :
    (disk.set location (.file content)).walk place names = .ok (.file location content) := by
  have empty : disk.node? location = none :=
    (stands_of_walk found).resolve_right (by simp)
  have free : disk.node? location ≠ some .directory := by simp [empty]
  have inside : location ≠ [] := ne_nil_of_free free
  have grows := grows_set inside free content
  induction names generalizing place with
  | nil => simp [walk] at found
  | cons name rest ih =>
    rcases name_cases name with rfl | rfl | plain
    · rw [walk_dot] at found ⊢
      exact ih found
    · rw [walk_dots] at found ⊢
      exact ih found
    · rw [walk_plain plain] at found ⊢
      split at found
      · simp at found
      · next short =>
        rw [if_neg short]
        split at found
        · next standing =>
          rw [grows.directory _ standing]
          exact ih found
        · split at found <;> simp at found
        · split at found
          · next last =>
            simp only [Except.ok.injEq, Target.absent.injEq] at found
            subst found
            rw [node?_set_self inside]
            simp [last]
          · simp at found

/-- What was written can be read. -/
theorem read_of_write {disk after : Disk} {path text : String}
    (written : disk.write path text = .ok after) :
    after.isFile path = true ∧ after.read path = .ok text.toUTF8 := by
  obtain ⟨writable, rfl⟩ := write_eq_ok.1 written
  have free := writable.free
  have grows := grows_set (ne_nil_of_free free) free text.toUTF8
  obtain ⟨noSlash, target, followed, noDirectory⟩ := writable
  obtain ⟨started, walked⟩ := locate_eq_ok.1 followed
  have atEnd : target.location = disk.destination path := location_of_walk walked
  have isFile : (disk.set (disk.destination path) (.file text.toUTF8)).isFile path = true := by
    cases target with
    | directory location => exact absurd rfl (noDirectory location)
    | file location older =>
      exact grows.isFile (isFile_iff.2 ⟨noSlash, older, by rw [← atEnd]; exact followed⟩)
    | absent location =>
      refine isFile_iff.2 ⟨noSlash, text.toUTF8, locate_eq_ok.2 ?_⟩
      rw [grows.start, grows.origin, grows.destination, ← atEnd]
      exact ⟨started, walk_set_of_absent walked _⟩
  refine ⟨isFile, ?_⟩
  obtain ⟨content, standing, given⟩ := read_of_isFile isFile
  rw [grows.destination, file?_set_self (ne_nil_of_free free)] at standing
  rw [given, Option.some.inj standing]

/-- Following names fails for reasons that lie in the tree, not in contents. -/
theorem walk_error_ne_notText {disk : Disk} {place : Location} {names : List String}
    {fault : Fault} (failed : disk.walk place names = .error fault) : fault ≠ .notText := by
  induction names generalizing place with
  | nil => simp [walk] at failed
  | cons name rest ih =>
    rcases name_cases name with rfl | rfl | plain
    · rw [walk_dot] at failed
      exact ih failed
    · rw [walk_dots] at failed
      exact ih failed
    · rw [walk_plain plain] at failed
      split at failed
      · simp [← Except.error.inj failed]
      · split at failed
        · exact ih failed
        all_goals
          split at failed
          · simp at failed
          · simp [← Except.error.inj failed]

theorem start_error_ne_notText {disk : Disk} {path : String} {fault : Fault}
    (failed : disk.start path = .error fault) : fault ≠ .notText := by
  unfold start at failed
  split at failed
  · simp [← Except.error.inj failed]
  · split at failed
    · simp [← Except.error.inj failed]
    · split at failed
      · simp [← Except.error.inj failed]
      · simp at failed

theorem write_error_ne_notText {disk : Disk} {path text : String} {fault : Fault}
    (failed : disk.write path text = .error fault) : fault ≠ .notText := by
  unfold write at failed
  cases found : disk.locate path with
  | error other =>
    rw [found] at failed
    obtain rfl : other = fault := Except.error.inj failed
    rw [locate_eq] at found
    cases started : disk.start path with
    | error early =>
      rw [started] at found
      rw [← Except.error.inj found]
      exact start_error_ne_notText started
    | ok place =>
      rw [started] at found
      exact walk_error_ne_notText found
  | ok target =>
    cases target <;> cases slash : Path.endsWithSlash path <;>
      simp [found, slash, bind, Except.bind, throw, throwThe, MonadExceptOf.throw, pure,
        Except.pure] at failed <;> simp [← failed]

theorem createAlong_error_ne_notText {disk after : Disk} {place : Location}
    {names : List String} {fault : Fault}
    (failed : createAlong disk place names = (.error fault, after)) : fault ≠ .notText := by
  induction names generalizing disk place with
  | nil => simp [createAlong] at failed
  | cons name rest ih =>
    rcases name_cases name with rfl | rfl | plain
    · rw [createAlong_dot] at failed
      exact ih failed
    · rw [createAlong_dots] at failed
      exact ih failed
    · rw [createAlong_plain plain] at failed
      split at failed
      · simp [← Except.error.inj (Prod.mk.inj failed).1]
      · split at failed
        · exact ih failed
        · rw [← Except.error.inj (Prod.mk.inj failed).1]
          split <;> simp
        · exact ih failed

theorem createDirectories_error_ne_notText {disk after : Disk} {path : String} {fault : Fault}
    (failed : disk.createDirectories path = (.error fault, after)) : fault ≠ .notText := by
  unfold createDirectories at failed
  split at failed
  · next other started =>
    rw [← Except.error.inj (Prod.mk.inj failed).1]
    exact start_error_ne_notText started
  · exact createAlong_error_ne_notText failed

end Disk
end SchemaScaffold
