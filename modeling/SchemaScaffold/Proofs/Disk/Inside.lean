import SchemaScaffold.Proofs.Disk.Tree

/-!
# Places inside a directory

A relative path without dots leads from any directory to a place of its own inside it. The
outputs of a project are given by such paths, as seen from the root of the project.
-/

namespace SchemaScaffold
namespace Disk

/-- A path that leads on from any directory, to a place that its names describe. -/
structure Path.IsInside (path : String) : Prop where
  relative : Path.isAbsolute path = false
  plain : ∀ name ∈ Path.names path, IsPlainName name

instance (path : String) : Decidable (Path.IsInside path) :=
  decidable_of_iff (Path.isAbsolute path = false ∧ ∀ name ∈ Path.names path, IsPlainName name)
    ⟨fun inside => ⟨inside.1, inside.2⟩, fun inside => ⟨inside.relative, inside.plain⟩⟩

namespace Path
namespace IsInside

variable {path : String}

theorem origin_join (inside : IsInside path) (disk : Disk) (root : String) :
    disk.origin (join root path) = disk.origin root := by
  simp [origin, isAbsolute_join inside.relative]

/-- The names of the path follow the destination of the directory. -/
theorem destination_join (inside : IsInside path) (disk : Disk) (root : String) :
    disk.destination (join root path) = disk.destination root ++ names path := by
  rw [destination, inside.origin_join, names_join inside.relative, arrival_append,
    arrival_plain inside.plain]
  rfl

/-- One place inside a directory is above another one if it is so for their names. -/
theorem destination_prefix_iff {other : String} (inside : IsInside path)
    (otherInside : IsInside other) (disk : Disk) (root : String) :
    disk.destination (join root path) <+: disk.destination (join root other) ↔
      names path <+: names other := by
  rw [inside.destination_join, otherInside.destination_join, List.prefix_append_right_inj]

/-- The way leads to the directory, and from there straight down. -/
theorem mem_wayOf_join (inside : IsInside path) {disk : Disk} {root : String}
    {place : Location} (onWay : place ∈ disk.wayOf (join root path)) :
    place ∈ disk.wayOf root ∨
      disk.destination root <+: place ∧ place <+: disk.destination (join root path) := by
  rw [wayOf, inside.origin_join, names_join inside.relative, waypoints_append] at onWay
  rw [inside.destination_join]
  exact onWay.imp_right (waypoints_plain inside.plain)

/-- A path inside a directory to which there is no detour takes no detour. -/
theorem direct_join (inside : IsInside path) {disk : Disk} {root : String}
    (direct : disk.Direct root) : disk.Direct (join root path) := by
  intro place onWay
  rcases inside.mem_wayOf_join onWay with early | ⟨-, above⟩
  · rw [inside.destination_join]
    exact (direct place early).imp_left fun above => above.trans (List.prefix_append _ _)
  · exact .inl above

/-- A place inside a directory that is on the way to the directory without detours is taken. -/
theorem node?_of_mem_wayOf (inside : IsInside path) (further : names path ≠ []) {disk : Disk}
    {root : String} (direct : disk.Direct root)
    (onWay : disk.destination (join root path) ∈ disk.wayOf root) :
    disk.node? (disk.destination (join root path)) ≠ none := by
  refine (direct _ onWay).resolve_left fun above => ?_
  rw [inside.destination_join] at above
  have shorter := above.length_le
  rw [List.length_append] at shorter
  exact further (List.length_eq_zero_iff.1 (by omega))

/-- Where there is no detour to the directory, a file that is seen later is seen at once. -/
theorem isFile_of_grows (inside : IsInside path) {before after : Disk} {root : String}
    (tree : before.IsTree) (direct : before.Direct root) (grows : Grows before after)
    (standing : before.file? (before.destination (join root path)) ≠ none)
    (found : after.isFile (join root path) = true) : before.isFile (join root path) = true := by
  obtain ⟨content, given⟩ := Option.ne_none_iff_exists'.1 standing
  obtain ⟨noSlash, _, followed⟩ := isFile_iff.1 found
  exact (inside.direct_join direct).isFile tree grows given ⟨noSlash, _, followed, by simp⟩

/-- What a path inside a directory leads to stands at its destination. -/
theorem stands_of_locate (inside : IsInside path) (further : names path ≠ []) {disk : Disk}
    {root : String} {target : Target} (followed : disk.locate (join root path) = .ok target) :
    target.Stands disk := by
  obtain ⟨front, last, shape⟩ : ∃ front last, names path = front ++ [last] :=
    ⟨_, _, (List.dropLast_concat_getLast further).symm⟩
  have plain : IsPlainName last := inside.plain last (by simp [shape])
  have walked := (locate_eq_ok.1 followed).2
  rw [names_join inside.relative, shape, ← List.append_assoc] at walked
  exact stands_of_walk_concat plain walked

theorem node?_of_isDirectory (inside : IsInside path) (further : names path ≠ []) {disk : Disk}
    {root : String} (found : disk.isDirectory (join root path) = true) :
    disk.node? (disk.destination (join root path)) = some .directory := by
  have node := inside.stands_of_locate further (isDirectory_iff.1 found)
  rwa [Target.Stands] at node

theorem node?_of_hasEntry (inside : IsInside path) (further : names path ≠ []) {disk : Disk}
    {root : String} (found : disk.hasEntry (join root path) = true) :
    disk.node? (disk.destination (join root path)) ≠ none := by
  simp only [hasEntry, Bool.or_eq_true] at found
  rcases found with isFile | isDirectory
  · obtain ⟨-, content, followed⟩ := isFile_iff.1 isFile
    have node := inside.stands_of_locate further followed
    rw [Target.Stands] at node
    simp [node]
  · simp [inside.node?_of_isDirectory further isDirectory]

end IsInside

/-- A text without slashes is the name that it describes. -/
theorem names_of_not_mem {text : List Char} (nonempty : text ≠ []) (free : '/' ∉ text) :
    names (String.ofList text) = [String.ofList text] := by
  simp [names_eq, Text.splitOn_of_not_mem free, nonempty]

end Path

/-- On a tree there is a directory at each place through which names lead to a directory. -/
theorem directory_of_walk {disk : Disk} (tree : disk.IsTree) {place location : Location}
    {names : List String} (start : disk.node? place = some .directory)
    (walked : disk.walk place names = .ok (.directory location)) :
    ∀ way ∈ waypoints place names, disk.node? way = some .directory := by
  induction names generalizing place with
  | nil => simp [waypoints, start]
  | cons name rest ih =>
    intro way member
    rcases List.mem_cons.1 member with rfl | later
    · exact start
    · rcases name_cases name with rfl | rfl | plain
      · rw [walk_dot] at walked
        exact ih start walked way (by simpa using later)
      · rw [walk_dots] at walked
        exact ih (tree.around (by simp [start])) walked way (by simpa using later)
      · rw [walk_plain plain] at walked
        rw [follow_plain plain] at later
        split at walked
        · simp at walked
        · split at walked
          · next standing => exact ih standing walked way later
          all_goals
            split at walked <;> simp at walked

/-- A directory in which something is found is reached without detours. -/
theorem direct_of_hasEntry {disk : Disk} {root path : String} (tree : disk.IsTree)
    (inside : Path.IsInside path) (further : Path.names path ≠ [])
    (found : disk.hasEntry (Path.join root path) = true) : disk.Direct root := by
  obtain ⟨target, followed⟩ :
      ∃ target, disk.locate (Path.join root path) = .ok target := by
    simp only [hasEntry, Bool.or_eq_true] at found
    rcases found with isFile | isDirectory
    · obtain ⟨-, content, followed⟩ := isFile_iff.1 isFile
      exact ⟨_, followed⟩
    · exact ⟨_, isDirectory_iff.1 isDirectory⟩
  have walked := (locate_eq_ok.1 followed).2
  rw [inside.origin_join, Path.names_join inside.relative] at walked
  have toRoot := (walk_append walked further).1
  refine fun place onWay => .inr ?_
  rw [directory_of_walk tree (tree.origin root) toRoot place onWay]
  exact Option.some_ne_none _

end Disk
end SchemaScaffold
