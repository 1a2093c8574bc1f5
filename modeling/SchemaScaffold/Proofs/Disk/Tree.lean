import Mathlib.Data.List.Induction
import SchemaScaffold.Proofs.Disk.Change

/-!
# Trees of directories

On a disk that is a tree every node stands in a directory. On such a disk a path finds the file
at its destination, unless it takes a detour: a way down into directories that are missing and
up again.
-/

namespace SchemaScaffold
namespace Disk

/-- Whether a place has a directory. -/
def isDirectoryAt (disk : Disk) (place : Location) : Bool :=
  match disk.node? place with
  | some .directory => true
  | _ => false

theorem isDirectoryAt_iff {disk : Disk} {place : Location} :
    disk.isDirectoryAt place = true ↔ disk.node? place = some .directory := by
  unfold isDirectoryAt
  split
  · next standing => simp [standing]
  · next other =>
    simp only [Bool.false_eq_true, false_iff]
    exact other

/-- Every node stands in a directory, and the working directory is one. -/
structure IsTree (disk : Disk) : Prop where
  workingDirectory : disk.isDirectoryAt disk.workingDirectory = true
  nodes : ∀ entry ∈ disk.nodes, disk.isDirectoryAt entry.1.dropLast = true

instance (disk : Disk) : Decidable disk.IsTree :=
  decidable_of_iff (disk.isDirectoryAt disk.workingDirectory = true ∧
    ∀ entry ∈ disk.nodes, disk.isDirectoryAt entry.1.dropLast = true)
    ⟨fun tree => ⟨tree.1, tree.2⟩, fun tree => ⟨tree.workingDirectory, tree.nodes⟩⟩

namespace IsTree

variable {disk : Disk}

/-- What is around a node is a directory. -/
theorem around (tree : disk.IsTree) {place : Location} (standing : disk.node? place ≠ none) :
    disk.node? place.dropLast = some .directory := by
  by_cases root : place = []
  · simp [root, node?]
  · cases found : disk.nodes.lookup place with
    | none =>
      rw [node?, if_neg root] at standing
      exact absurd found standing
    | some node =>
      have member : (place, node) ∈ disk.nodes := by
        obtain ⟨front, back, shape, -⟩ := List.lookup_eq_some_iff.1 found
        simp [shape]
      exact isDirectoryAt_iff.1 (tree.nodes _ member)

/-- What is above a node is a directory. -/
theorem above (tree : disk.IsTree) (upper : Location) {lower : List String}
    (standing : disk.node? (upper ++ lower) ≠ none) (strict : lower ≠ []) :
    disk.node? upper = some .directory := by
  induction lower using List.reverseRecOn with
  | nil => exact absurd rfl strict
  | append_singleton front name ih =>
    have around := tree.around standing
    rw [← List.append_assoc, List.dropLast_concat] at around
    by_cases last : front = []
    · simpa [last] using around
    · exact ih (by simp [around]) last

theorem origin (tree : disk.IsTree) (path : String) :
    disk.node? (disk.origin path) = some .directory := by
  unfold Disk.origin
  split
  · simp [node?]
  · exact isDirectoryAt_iff.1 tree.workingDirectory

/-- A tree stays one when a node is set in a directory. -/
theorem set (tree : disk.IsTree) {place : Location} {node : Node}
    (around : disk.node? place.dropLast = some .directory)
    (grows : Grows disk (disk.set place node)) : (disk.set place node).IsTree where
  workingDirectory := isDirectoryAt_iff.2
    (grows.directory _ (isDirectoryAt_iff.1 tree.workingDirectory))
  nodes entry member := by
    have known (nodes : List (Location × Node)) (inside : entry ∈ setNode place node nodes) :
        entry.1 = place ∨ entry ∈ nodes := by
      induction nodes with
      | nil =>
        obtain rfl : entry = (place, node) := by simpa [setNode] using inside
        exact .inl rfl
      | cons head rest ih =>
        simp only [setNode] at inside
        split at inside
        · next same =>
          rcases List.mem_cons.1 inside with rfl | later
          · exact .inl same
          · exact .inr (List.mem_cons_of_mem _ later)
        · rcases List.mem_cons.1 inside with rfl | later
          · exact .inr (List.mem_cons_self)
          · exact (ih later).imp_right (List.mem_cons_of_mem _)
    refine isDirectoryAt_iff.2 (grows.directory _ ?_)
    rcases known disk.nodes member with same | older
    · rw [same, around]
    · exact isDirectoryAt_iff.1 (tree.nodes entry older)

theorem createAlong (tree : disk.IsTree) {place : Location} {names : List String}
    (start : disk.node? place = some .directory) :
    (Disk.createAlong disk place names).2.IsTree := by
  induction names generalizing disk place with
  | nil => exact tree
  | cons name rest ih =>
    rcases name_cases name with rfl | rfl | plain
    · rw [createAlong_dot]
      exact ih tree start
    · rw [createAlong_dots]
      exact ih tree (tree.around (by simp [start]))
    · rw [createAlong_plain plain]
      split
      · exact tree
      · split
        · next standing => exact ih tree standing
        · exact tree
        · next empty =>
          have grows := (furnished_set (by simp) empty (List.mem_singleton.2 rfl)).grows
          exact ih (tree.set (by simpa using start) grows) (node?_set_self (by simp) _)

theorem createDirectories (tree : disk.IsTree) (path : String) :
    (disk.createDirectories path).2.IsTree := by
  unfold Disk.createDirectories
  split
  · exact tree
  · next place started =>
    obtain rfl := start_eq_ok started
    exact tree.createAlong (tree.origin path)

/-- What names lead to stands there and is in a directory. -/
theorem walk (tree : disk.IsTree) {place : Location} {names : List String}
    {target : Target} (start : disk.node? place = some .directory)
    (found : disk.walk place names = .ok target) :
    target.Stands disk ∧ disk.node? target.location.dropLast = some .directory := by
  induction names generalizing place with
  | nil =>
    simp only [Disk.walk, Except.ok.injEq] at found
    rw [← found]
    exact ⟨start, tree.around (by simp [Target.location, start])⟩
  | cons name rest ih =>
    rcases name_cases name with rfl | rfl | plain
    · rw [walk_dot] at found
      exact ih start found
    · rw [walk_dots] at found
      exact ih (tree.around (by simp [start])) found
    · rw [walk_plain plain] at found
      split at found
      · simp at found
      · split at found
        · next standing => exact ih standing found
        all_goals
          next standing =>
          split at found
          · simp only [Except.ok.injEq] at found
            rw [← found]
            exact ⟨standing, by simpa [Target.location] using start⟩
          · simp at found

theorem write (tree : disk.IsTree) {after : Disk} {path text : String}
    (written : disk.write path text = .ok after) : after.IsTree := by
  obtain ⟨writable, rfl⟩ := write_eq_ok.1 written
  have grows := grows_set (ne_nil_of_free writable.free) writable.free text.toUTF8
  obtain ⟨-, target, followed, -⟩ := writable
  refine tree.set ?_ grows
  rw [← location_of_locate followed]
  exact (tree.walk (tree.origin path) (locate_eq_ok.1 followed).2).2

end IsTree

/-- A path takes no detour: each place on its way is above its destination or has a node. -/
def Direct (disk : Disk) (path : String) : Prop :=
  ∀ place ∈ disk.wayOf path, place <+: disk.destination path ∨ disk.node? place ≠ none

instance (disk : Disk) (path : String) : Decidable (disk.Direct path) :=
  inferInstanceAs (Decidable (∀ place ∈ disk.wayOf path, _ ∨ _))

theorem Direct.grows {before after : Disk} {path : String} (direct : before.Direct path)
    (grows : Grows before after) : after.Direct path := by
  intro place onWay
  rw [grows.wayOf] at onWay
  rw [grows.destination]
  exact (direct place onWay).imp_right grows.occupied

/-- Names that can be followed on a disk that has grown could be followed before if all places
on the way had nodes. -/
theorem walk_of_grows {before after : Disk} (grows : Grows before after) {place : Location}
    {names : List String} (occupied : ∀ way ∈ waypoints place names, before.node? way ≠ none)
    {target : Target} (found : after.walk place names = .ok target) :
    ∃ older, before.walk place names = .ok older := by
  induction names generalizing place with
  | nil => exact ⟨_, rfl⟩
  | cons name rest ih =>
    have later : ∀ way ∈ waypoints (follow place name) rest, before.node? way ≠ none :=
      fun way member => occupied way (List.mem_cons_of_mem _ member)
    rcases name_cases name with rfl | rfl | plain
    · rw [walk_dot] at found ⊢
      exact ih (by simpa using later) found
    · rw [walk_dots] at found ⊢
      exact ih (by simpa using later) found
    · rw [follow_plain plain] at later
      have here := later _ (start_mem_waypoints _ rest)
      rw [walk_plain plain] at found ⊢
      split at found
      · simp at found
      · next short =>
        rw [if_neg short]
        cases standing : before.node? (place ++ [name]) with
        | none => exact absurd standing here
        | some node =>
          cases node with
          | directory =>
            rw [grows.directory _ standing] at found
            exact ih later found
          | file content =>
            obtain ⟨newer, stays⟩ := grows.file _ content standing
            rw [stays] at found
            dsimp only at found ⊢
            split at found
            · next last => exact ⟨.file (place ++ [name]) content, by rw [if_pos last]⟩
            · simp at found

/-- On a tree, a direct path to a file that can be followed once the disk has grown can be
followed at once. -/
theorem Direct.isFile {before after : Disk} {path : String} (direct : before.Direct path)
    (tree : before.IsTree) (grows : Grows before after) {content : ByteArray}
    (standing : before.file? (before.destination path) = some content)
    (writable : after.Writable path) : before.isFile path = true := by
  have node := file?_eq_some.1 standing
  obtain ⟨noSlash, target, followed, -⟩ := writable
  obtain ⟨started, walked⟩ := locate_eq_ok.1 followed
  rw [grows.start, grows.origin] at started
  rw [grows.origin] at walked
  have occupied : ∀ way ∈ before.wayOf path, before.node? way ≠ none := by
    intro way onWay
    rcases direct way onWay with ⟨lower, whole⟩ | present
    · by_cases last : lower = []
      · rw [last, List.append_nil] at whole
        simp [whole, node]
      · have upper := tree.above way (by rw [whole]; simp [node]) last
        simp [upper]
    · exact present
  obtain ⟨older, walkedBefore⟩ := walk_of_grows grows occupied walked
  have atEnd : older.location = before.destination path := location_of_walk walkedBefore
  obtain ⟨stands, -⟩ := tree.walk (tree.origin path) walkedBefore
  refine isFile_iff.2 ⟨noSlash, content, locate_eq_ok.2 ⟨started, ?_⟩⟩
  rw [walkedBefore, ← atEnd]
  rw [← atEnd] at node
  cases older with
  | directory location =>
    rw [Target.location, stands] at node
    simp at node
  | file location found =>
    rw [Target.location, stands] at node
    simp only [Option.some.injEq, Node.file.injEq] at node
    rw [Target.location, node]
  | absent location =>
    rw [Target.location, stands] at node
    simp at node

end Disk
end SchemaScaffold
