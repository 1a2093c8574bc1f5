import SchemaScaffold.Proofs.Disk.JoinedPaths

/-!
# Twin directories

Two directories, on one disk or on two, whose insides are alike. What a path leads to inside of
them, what making directories there does and what writing does is alike as well, wherever the two
are. A directory that is still to be made counts as one, as long as it will be empty.
-/

namespace SchemaScaffold
namespace Disk

open Path (IsInside join names)

/-- What stands below two places is the same. -/
def SameInside (first : Disk) (base : Location) (second : Disk) (otherBase : Location) : Prop :=
  ∀ inner ≠ [], first.node? (base ++ inner) = second.node? (otherBase ++ inner)

/-- What a path was found to lead to, if there is anything. -/
def Target.node : Target → Option Node
  | .directory _ => some .directory
  | .file _ content => some (.file content)
  | .absent _ => none

namespace SameInside

variable {first second : Disk} {base otherBase : Location}

/-- The same node set at the same place inside. -/
theorem set (same : SameInside first base second otherBase) {inner : List String}
    (strict : inner ≠ []) (node : Node) :
    SameInside (first.set (base ++ inner) node) base
      (second.set (otherBase ++ inner) node) otherBase := by
  intro lower strict'
  by_cases here : lower = inner
  · rw [here, node?_set_self (by simp [strict]), node?_set_self (by simp [strict])]
  · rw [node?_set_of_ne (by simpa using here), node?_set_of_ne (by simpa using here),
      same lower strict']

/-- Names that lead on from the same place inside find the same. -/
theorem walk (same : SameInside first base second otherBase) {names : List String}
    (plain : ∀ name ∈ names, IsPlainName name) (inner : List String) :
    (first.walk (base ++ inner) names).map Target.node =
      (second.walk (otherBase ++ inner) names).map Target.node := by
  induction names generalizing inner with
  | nil => rfl
  | cons name rest ih =>
    obtain ⟨here, later⟩ := List.forall_mem_cons.1 plain
    have next := ih later (inner ++ [name])
    simp only [← List.append_assoc] at next
    rw [walk_plain here, walk_plain here, List.append_assoc, List.append_assoc,
      same (inner ++ [name]) (by simp)]
    simp only [← List.append_assoc]
    split
    · rfl
    · split
      · exact next
      · split <;> rfl
      · split <;> rfl

/-- Directories made along the same names inside. -/
theorem createAlong (same : SameInside first base second otherBase) {names : List String}
    (plain : ∀ name ∈ names, IsPlainName name) (inner : List String) :
    (createAlong first (base ++ inner) names).1 =
        (createAlong second (otherBase ++ inner) names).1 ∧
      SameInside (createAlong first (base ++ inner) names).2 base
        (createAlong second (otherBase ++ inner) names).2 otherBase := by
  induction names generalizing first second inner with
  | nil => exact ⟨rfl, same⟩
  | cons name rest ih =>
    obtain ⟨here, later⟩ := List.forall_mem_cons.1 plain
    have strict : inner ++ [name] ≠ [] := by simp
    have made := same.set strict .directory
    rw [createAlong_plain here, createAlong_plain here, List.append_assoc, List.append_assoc,
      same (inner ++ [name]) strict]
    split
    · exact ⟨rfl, same⟩
    · cases second.node? (otherBase ++ (inner ++ [name])) with
      | none => exact ih made later (inner ++ [name])
      | some node =>
        cases node with
        | directory => exact ih same later (inner ++ [name])
        | file content => exact ⟨rfl, same⟩

end SameInside

/-- Names are followed on from the directory to which the first of them lead. -/
theorem walk_append_of_directory {disk : Disk} {place : Location} {front : List String}
    (found : disk.walk place front = .ok (.directory (arrival place front)))
    (back : List String) :
    disk.walk place (front ++ back) = disk.walk (arrival place front) back := by
  induction front generalizing place with
  | nil => rfl
  | cons name rest ih =>
    rcases name_cases name with rfl | rfl | plain
    · rw [walk_dot] at found
      rw [List.cons_append, walk_dot]
      exact ih (by simpa using found)
    · rw [walk_dots] at found
      rw [List.cons_append, walk_dots]
      exact ih (by simpa using found)
    · rw [walk_plain plain] at found
      rw [List.cons_append, walk_plain plain, arrival_cons, follow_plain plain]
      rw [arrival_cons, follow_plain plain] at found
      split at found
      · simp at found
      · next short =>
        rw [if_neg short]
        split at found
        · next standing =>
          exact ih found
        all_goals
          split at found <;> simp at found

/-- Directories are made on from the place to which the first names lead. -/
theorem createAlong_append {disk made : Disk} {place : Location} {front : List String}
    (created : createAlong disk place front = (.ok (), made)) (back : List String) :
    createAlong disk place (front ++ back) = createAlong made (arrival place front) back := by
  induction front generalizing disk place with
  | nil =>
    obtain rfl : disk = made := (Prod.mk.inj created).2
    rfl
  | cons name rest ih =>
    rcases name_cases name with rfl | rfl | plain
    · rw [createAlong_dot] at created
      rw [List.cons_append, createAlong_dot]
      exact (ih created).trans (by simp)
    · rw [createAlong_dots] at created
      rw [List.cons_append, createAlong_dots]
      exact (ih created).trans (by simp)
    · rw [createAlong_plain plain] at created
      rw [List.cons_append, createAlong_plain plain, arrival_cons, follow_plain plain]
      split at created
      · simp at created
      · next short =>
        rw [if_neg short]
        split at created
        · exact ih created
        · simp at created
        · exact ih created

/-- Where all directories have been made, they are found. -/
theorem walk_of_createAlong {disk made : Disk} {place : Location} {names : List String}
    (created : createAlong disk place names = (.ok (), made)) :
    made.walk place names = .ok (.directory (arrival place names)) := by
  induction names generalizing disk place with
  | nil => rfl
  | cons name rest ih =>
    rcases name_cases name with rfl | rfl | plain
    · rw [createAlong_dot] at created
      rw [walk_dot, ih created]
      simp
    · rw [createAlong_dots] at created
      rw [walk_dots, ih created]
      simp
    · rw [createAlong_plain plain] at created
      rw [walk_plain plain, arrival_cons, follow_plain plain]
      split at created
      · simp at created
      · next short =>
        rw [if_neg short]
        have kept (start : Disk) (there : start.node? (place ++ [name]) = some .directory)
            (found : createAlong start (place ++ [name]) rest = (.ok (), made)) :
            made.node? (place ++ [name]) = some .directory := by
          have furnished := createAlong_furnished start (place ++ [name]) rest
          rw [found] at furnished
          exact furnished.grows.directory _ there
        split at created
        · next standing =>
          rw [kept disk standing created]
          exact ih created
        · simp at created
        · rw [kept _ (node?_set_self (by simp) _) created]
          exact ih created

/-- Where directories are found, none has to be made. -/
theorem createAlong_of_walk {disk : Disk} {place : Location} {names : List String}
    (found : disk.walk place names = .ok (.directory (arrival place names))) :
    createAlong disk place names = (.ok (), disk) := by
  induction names generalizing place with
  | nil => rfl
  | cons name rest ih =>
    rcases name_cases name with rfl | rfl | plain
    · rw [walk_dot] at found
      rw [createAlong_dot]
      exact ih (by simpa using found)
    · rw [walk_dots] at found
      rw [createAlong_dots]
      exact ih (by simpa using found)
    · rw [walk_plain plain, arrival_cons, follow_plain plain] at found
      rw [createAlong_plain plain]
      split at found
      · simp at found
      · next short =>
        rw [if_neg short]
        cases standing : disk.node? (place ++ [name]) with
        | none => cases empty : rest.isEmpty <;> simp [standing, empty] at found
        | some node =>
          cases node with
          | directory => exact ih (by simpa [standing] using found)
          | file content => cases empty : rest.isEmpty <;> simp [standing, empty] at found

/-- Names that stay in place make no difference at the end, but for the fault of a failure. -/
theorem createAlong_append_dots (disk : Disk) (place : Location) (front : List String)
    {dots : List String} (still : ∀ name ∈ dots, name = ".") :
    (createAlong disk place (front ++ dots)).2 = (createAlong disk place front).2 ∧
      (createAlong disk place (front ++ dots)).1.isOk = (createAlong disk place front).1.isOk := by
  induction front generalizing disk place with
  | nil =>
    induction dots with
    | nil => exact ⟨rfl, rfl⟩
    | cons dot dots ih =>
      obtain ⟨rfl, others⟩ := List.forall_mem_cons.1 still
      rw [List.nil_append, createAlong_dot]
      exact ih others
  | cons name rest ih =>
    rcases name_cases name with rfl | rfl | plain
    · rw [List.cons_append, createAlong_dot, createAlong_dot]
      exact ih disk place
    · rw [List.cons_append, createAlong_dots, createAlong_dots]
      exact ih disk place.dropLast
    · rw [List.cons_append, createAlong_plain plain, createAlong_plain plain]
      split
      · exact ⟨rfl, rfl⟩
      · split
        · exact ih disk _
        · exact ⟨rfl, rfl⟩
        · exact ih _ _

/-- No path leads along a name that is too long. -/
theorem walk_of_overlong (disk : Disk) (place : Location) {names : List String}
    (plain : ∀ name ∈ names, IsPlainName name) {name : String} (member : name ∈ names)
    (long : maxNameSize < name.utf8ByteSize) : ∃ fault, disk.walk place names = .error fault := by
  induction names generalizing place with
  | nil => simp at member
  | cons other rest ih =>
    obtain ⟨here, later⟩ := List.forall_mem_cons.1 plain
    rw [walk_plain here]
    split
    · exact ⟨_, rfl⟩
    · next short =>
      have further : name ∈ rest := by
        rcases List.mem_cons.1 member with rfl | further
        · exact absurd long short
        · exact further
      have goesOn : rest.isEmpty = false := by
        cases rest with
        | nil => simp at further
        | cons _ _ => rfl
      rw [goesOn]
      split
      · exact ih _ later further
      · exact ⟨_, rfl⟩
      · exact ⟨_, rfl⟩

/-- What a path leads to, if it can be followed. -/
def view (disk : Disk) (path : String) : Option (Option Node) :=
  (disk.locate path).toOption.map Target.node

section View

variable {disk : Disk} {path : String}

theorem isDirectory_iff_view :
    disk.isDirectory path = true ↔ (disk.view path).join = some .directory := by
  unfold isDirectory view
  cases disk.locate path with
  | error fault => simp [Except.toOption]
  | ok target => cases target <;> simp [Except.toOption, Target.node]

variable (noSlash : Path.endsWithSlash path = false)

include noSlash

theorem isFile_iff_view :
    disk.isFile path = true ↔ ∃ content, (disk.view path).join = some (.file content) := by
  unfold isFile view
  cases disk.locate path with
  | error fault => simp [Except.toOption]
  | ok target => cases target <;> simp [Except.toOption, Target.node, noSlash]

theorem read_eq_ok_iff_view {content : ByteArray} :
    disk.read path = .ok content ↔ (disk.view path).join = some (.file content) := by
  unfold read view
  cases disk.locate path with
  | error fault => simp [Except.toOption, bind, Except.bind]
  | ok target =>
    cases target <;> simp [Except.toOption, Target.node, noSlash, bind, Except.bind, throw,
      throwThe, MonadExceptOf.throw, pure, Except.pure]

theorem writable_iff_view :
    disk.Writable path ↔ ∃ node, disk.view path = some node ∧ node ≠ some .directory := by
  unfold Writable view
  cases disk.locate path with
  | error fault => simp [Except.toOption]
  | ok target => cases target <;> simp [Except.toOption, Target.node, noSlash]

end View

/-- Making a directory is following its path and making what is not there. -/
theorem createDirectories_eq_ok {disk made : Disk} {path : String} :
    disk.createDirectories path = (.ok (), made) ↔
      disk.start path = .ok (disk.origin path) ∧
        createAlong disk (disk.origin path) (names path) = (.ok (), made) := by
  unfold createDirectories
  cases started : disk.start path with
  | error fault => simp
  | ok place =>
    obtain rfl := start_eq_ok started
    simp

/-! ## Directories to write in -/

/-- A directory is there, and so is all that its path leads through. -/
def IsMade (disk : Disk) (root : String) : Prop :=
  disk.createDirectories root = (.ok (), disk)

theorem IsMade.grows {before after : Disk} {root : String} (made : before.IsMade root)
    (grows : Grows before after) : after.IsMade root :=
  createDirectories_again made grows

/-- A directory can be made, if it is not there, and nothing is in it then. -/
def IsVacant (disk : Disk) (root : String) : Prop :=
  ∃ made, disk.createDirectories root = (.ok (), made) ∧
    ∀ inner ≠ [], made.node? (disk.destination root ++ inner) = none

/-- A directory into which files can be written. -/
def IsReady (disk : Disk) (root : String) : Prop :=
  disk.IsMade root ∨ disk.IsVacant root

/-- A path without dots to an entry below a directory. -/
structure Path.IsEntry (path : String) : Prop extends IsInside path where
  further : names path ≠ []
  noSlash : Path.endsWithSlash path = false
  noNul : '\x00' ∉ path.toList

/-- The system allows the path of an entry in a directory and the path of what is around it. Nothing
is asked of the path if one of its names is too long anyway. -/
structure Path.Fits (root path : String) : Prop where
  whole : (∀ name ∈ names path, name.utf8ByteSize ≤ maxNameSize) →
    (join root path).utf8ByteSize < maxPathSize
  parent : ∀ parent, Path.parent? (join root path) = some parent →
    parent.utf8ByteSize < maxPathSize

/-- A path can be followed from its origin if it is not too long and has no character that no path
has. -/
theorem start_eq_ok_iff {disk : Disk} {path : String} :
    disk.start path = .ok (disk.origin path) ↔
      '\x00' ∉ path.toList ∧ path ≠ "" ∧ path.utf8ByteSize < maxPathSize := by
  unfold start origin
  split_ifs with nul empty long
  all_goals simp_all

theorem endsWithSlash_join {path : String} (entry : Path.IsEntry path) (root : String) :
    Path.endsWithSlash (join root path) = false := by
  obtain ⟨front, whole⟩ : ∃ front, (join root path).toList = front ++ path.toList :=
    ⟨(join root "").toList, by rw [Path.join_eq_append entry.relative, String.toList_append]⟩
  have nonempty : path.toList ≠ [] := by
    intro empty
    exact entry.further (by simp [Path.names_eq, empty, Text.splitOn])
  have noSlash := entry.noSlash
  rw [Path.endsWithSlash, List.getLast?_eq_some_getLast nonempty] at noSlash
  rw [Path.endsWithSlash, whole, List.getLast?_append, List.getLast?_eq_some_getLast nonempty]
  exact noSlash

namespace IsReady

variable {disk : Disk} {root : String}

theorem of_isMade (made : disk.IsMade root) : disk.IsReady root := .inl made

/-- The directory can be made, and that changes nothing inside it. -/
theorem exists_made (ready : disk.IsReady root) :
    ∃ made, disk.createDirectories root = (.ok (), made) ∧
      SameInside disk (disk.destination root) made (disk.destination root) := by
  rcases ready with there | ⟨made, created, empty⟩
  · exact ⟨disk, there, fun _ _ => rfl⟩
  · refine ⟨made, created, fun inner strict => ?_⟩
    have furnished := createDirectories_furnished disk root
    rw [created] at furnished
    rcases furnished.places (disk.destination root ++ inner) with same | ⟨free, -, -⟩
    · exact same.symm
    · rw [free, empty inner strict]

theorem start (ready : disk.IsReady root) : disk.start root = .ok (disk.origin root) := by
  obtain ⟨made, created, -⟩ := ready.exists_made
  exact (createDirectories_eq_ok.1 created).1

theorem root_ne_empty (ready : disk.IsReady root) : root ≠ "" :=
  (start_eq_ok_iff.1 ready.start).2.1

theorem noNul_join (ready : disk.IsReady root) {path : String} (entry : Path.IsEntry path) :
    '\x00' ∉ (join root path).toList := by
  intro member
  rcases Path.mem_toList_join entry.relative member with inRoot | slash | inPath
  · exact (start_eq_ok_iff.1 ready.start).1 inRoot
  · simp at slash
  · exact entry.noNul inPath

theorem start_join (ready : disk.IsReady root) {path : String} (entry : Path.IsEntry path)
    (size : (join root path).utf8ByteSize < maxPathSize) :
    disk.start (join root path) = .ok (disk.origin (join root path)) := by
  refine start_eq_ok_iff.2 ⟨ready.noNul_join entry, ?_, size⟩
  obtain ⟨front, text⟩ := Path.exists_toList_join entry.relative ready.root_ne_empty
  intro empty
  simp [empty] at text

end IsReady

/-- Nothing is in a vacant directory. -/
theorem IsVacant.node?_eq_none {disk : Disk} {root : String} (vacant : disk.IsVacant root)
    {inner : List String} (strict : inner ≠ []) :
    disk.node? (disk.destination root ++ inner) = none := by
  obtain ⟨made, created, empty⟩ := vacant
  have ready : disk.IsReady root := .inr ⟨made, created, empty⟩
  obtain ⟨_, again, same⟩ := ready.exists_made
  obtain rfl := (Prod.mk.inj (created.symm.trans again)).2
  rw [same inner strict, empty inner strict]

/-- The way to a vacant directory does not lead through places inside it. -/
theorem IsVacant.not_mem_wayOf {disk : Disk} {root : String} (vacant : disk.IsVacant root)
    (tree : disk.IsTree) {inner : List String} (strict : inner ≠ []) :
    disk.destination root ++ inner ∉ disk.wayOf root := by
  intro onWay
  obtain ⟨made, created, empty⟩ := vacant
  have madeTree : made.IsTree := by
    have kept := tree.createDirectories root
    rwa [created] at kept
  have furnished := createDirectories_furnished disk root
  rw [created] at furnished
  have start := madeTree.origin root
  rw [furnished.grows.origin] at start
  -- All places on the way are there once the directory is made.
  have walked : made.walk (disk.origin root) (names root) =
      .ok (.directory (arrival (disk.origin root) (names root))) :=
    walk_of_createAlong (createDirectories_eq_ok.1 created).2
  have standing := directory_of_walk madeTree start walked _ onWay
  rw [empty inner strict] at standing
  simp at standing

/-- A directory in which something stands is there. -/
theorem IsReady.isMade {disk : Disk} {root : String} (ready : disk.IsReady root)
    {inner : List String} (strict : inner ≠ [])
    (standing : disk.node? (disk.destination root ++ inner) ≠ none) : disk.IsMade root :=
  ready.resolve_right fun vacant => standing (vacant.node?_eq_none strict)

/-- A directory that can be made is vacant if no node stands below it then. -/
theorem isVacant_of_nodes {disk : Disk} {root : String}
    (created : (disk.createDirectories root).1.isOk = true)
    (empty : ∀ entry ∈ (disk.createDirectories root).2.nodes,
      disk.destination root <+: entry.1 → entry.1 = disk.destination root) :
    disk.IsVacant root := by
  cases run : disk.createDirectories root with
  | mk answer made =>
    rw [run] at created empty
    cases answer with
    | error fault => simp [Except.isOk, Except.toBool] at created
    | ok value =>
      refine ⟨made, run, fun inner strict => ?_⟩
      cases found : made.nodes.lookup (disk.destination root ++ inner) with
      | none => simp [node?, strict, found]
      | some node =>
        obtain ⟨front, back, shape, -⟩ := List.lookup_eq_some_iff.1 found
        have here := empty (disk.destination root ++ inner, node) (by simp [shape]) (by simp)
        simp [strict] at here

section Entries

variable {disk : Disk} {root path : String}

/-- What is found inside a directory stands there. -/
theorem node?_of_view (entry : Path.IsEntry path) {node : Node}
    (seen : (disk.view (join root path)).join = some node) :
    disk.node? (disk.destination root ++ names path) = some node := by
  unfold view at seen
  cases followed : disk.locate (join root path) with
  | error fault => simp [followed, Except.toOption] at seen
  | ok target =>
    have stands := entry.stands_of_locate entry.further followed
    have atEnd := location_of_locate followed
    rw [entry.destination_join] at atEnd
    rw [← atEnd]
    cases target <;>
      simp_all [Target.Stands, Target.node, Target.location, Except.toOption]

theorem view_of_overlong (entry : Path.IsEntry path)
    (long : ¬ ∀ name ∈ names path, name.utf8ByteSize ≤ maxNameSize) :
    disk.view (join root path) = none := by
  simp only [not_forall, Nat.not_le] at long
  obtain ⟨name, member, long⟩ := long
  unfold view
  cases followed : disk.locate (join root path) with
  | error fault => rfl
  | ok target =>
    have walked := (locate_eq_ok.1 followed).2
    rw [entry.origin_join, Path.names_join entry.relative] at walked
    have last := (walk_append walked entry.further).2
    obtain ⟨fault, failed⟩ := walk_of_overlong disk _ entry.plain member long
    rw [last] at failed
    simp at failed

/-- A directory in which a file is seen is there. -/
theorem isMade_of_isFile {made : Disk} (created : disk.createDirectories root = (.ok (), made))
    (entry : Path.IsEntry path) (found : disk.isFile (join root path) = true) :
    disk.IsMade root := by
  obtain ⟨-, content, followed⟩ := isFile_iff.1 found
  have walked := (locate_eq_ok.1 followed).2
  rw [entry.origin_join, Path.names_join entry.relative] at walked
  exact createDirectories_eq_ok.2 ⟨(createDirectories_eq_ok.1 created).1,
    createAlong_of_walk (walk_append walked entry.further).1⟩

/-- From a directory that is there a path is followed by its own names. -/
theorem IsMade.view_join (made : disk.IsMade root) (entry : Path.IsEntry path)
    (size : (join root path).utf8ByteSize < maxPathSize) :
    disk.view (join root path) =
      ((disk.walk (disk.destination root) (names path)).map Target.node).toOption := by
  have ready := IsReady.of_isMade made
  have created := (createDirectories_eq_ok.1 made).2
  rw [view, locate_eq, ready.start_join entry size, entry.origin_join,
    Path.names_join entry.relative]
  change ((disk.walk (disk.origin root) (names root ++ names path)).toOption.map Target.node) = _
  rw [walk_append_of_directory (walk_of_createAlong created)]
  change ((disk.walk (disk.destination root) (names path)).toOption.map Target.node) = _
  cases disk.walk (disk.destination root) (names path) <;> rfl

/-- The directory around an entry is made by making the directory in which the path starts, and
going on from there along all but the last name. -/
theorem createDirectories_parent {made : Disk}
    (created : disk.createDirectories root = (.ok (), made)) (entry : Path.IsEntry path)
    (fits : Path.Fits root path) :
    ∃ parent, Path.parent? (join root path) = some parent ∧ parent ≠ "" ∧
      (disk.createDirectories parent).2 =
        (createAlong made (disk.destination root) (names path).dropLast).2 ∧
      (disk.createDirectories parent).1.isOk =
        (createAlong made (disk.destination root) (names path).dropLast).1.isOk := by
  have ready : made.IsReady root := .inl (createDirectories_again created (Grows.refl made))
  obtain ⟨parent, found, nonempty, absolute, ⟨dots, still, onWay⟩, text⟩ :=
    entry.exists_parent_join entry.further entry.noSlash ready.root_ne_empty
  have noNul : '\x00' ∉ parent.toList := by
    rcases text with rfl | ⟨behind, text, -⟩
    · simp
    · intro member
      refine ready.noNul_join entry ?_
      rw [← text]
      exact List.mem_append_left _ member
  have started : disk.start parent = .ok (disk.origin root) := by
    rw [start_eq_ok_iff.2 ⟨noNul, nonempty, fits.parent parent found⟩, origin, origin, absolute]
  have along := createAlong_append_dots disk (disk.origin root) (names parent) still
  rw [← onWay, createAlong_append (createDirectories_eq_ok.1 created).2] at along
  refine ⟨parent, found, nonempty, ?_⟩
  rw [createDirectories, started]
  exact ⟨along.1.symm, along.2.symm⟩

end Entries

/-- Two directories into which files can be written, and whose insides are alike. -/
structure Twins (left right : String) (first second : Disk) : Prop where
  leftReady : first.IsReady left
  rightReady : second.IsReady right
  same : SameInside first (first.destination left) second (second.destination right)

namespace Twins

variable {left right path : String} {first second : Disk}

/-- A path finds the same in both directories. -/
theorem view_join (twins : Twins left right first second) (entry : Path.IsEntry path)
    (leftFits : Path.Fits left path) (rightFits : Path.Fits right path) :
    (first.view (join left path)).join = (second.view (join right path)).join := by
  have here := twins.same (names path) entry.further
  have unseen {disk : Disk} {root : String}
      (free : disk.node? (disk.destination root ++ names path) = none) :
      (disk.view (join root path)).join = none := by
    by_contra seen
    obtain ⟨node, seen⟩ := Option.ne_none_iff_exists'.1 seen
    rw [node?_of_view entry seen] at free
    simp at free
  by_cases short : ∀ name ∈ names path, name.utf8ByteSize ≤ maxNameSize
  · rcases twins.leftReady with leftMade | leftVacant
    · rcases twins.rightReady with rightMade | rightVacant
      · have walks := twins.same.walk entry.plain []
        simp only [List.append_nil] at walks
        rw [leftMade.view_join entry (leftFits.whole short),
          rightMade.view_join entry (rightFits.whole short), walks]
      · have free := rightVacant.node?_eq_none entry.further
        rw [unseen free, unseen (here.trans free)]
    · have free := leftVacant.node?_eq_none entry.further
      rw [unseen free, unseen (here.symm.trans free)]
  · rw [view_of_overlong entry short, view_of_overlong entry short]

/-- In directories that are there a path can be followed as far. -/
theorem view_of_isMade (twins : Twins left right first second) (leftMade : first.IsMade left)
    (rightMade : second.IsMade right) (entry : Path.IsEntry path)
    (leftFits : Path.Fits left path) (rightFits : Path.Fits right path) :
    first.view (join left path) = second.view (join right path) := by
  by_cases short : ∀ name ∈ names path, name.utf8ByteSize ≤ maxNameSize
  · have walks := twins.same.walk entry.plain []
    simp only [List.append_nil] at walks
    rw [leftMade.view_join entry (leftFits.whole short),
      rightMade.view_join entry (rightFits.whole short), walks]
  · rw [view_of_overlong entry short, view_of_overlong entry short]

/-- Making the directory around an entry has the same success in both, and both are there then. -/
theorem createDirectories (twins : Twins left right first second) (entry : Path.IsEntry path)
    (leftFits : Path.Fits left path) (rightFits : Path.Fits right path) :
    ∃ leftParent rightParent, Path.parent? (join left path) = some leftParent ∧ leftParent ≠ "" ∧
      Path.parent? (join right path) = some rightParent ∧ rightParent ≠ "" ∧
      (first.createDirectories leftParent).1.isOk =
        (second.createDirectories rightParent).1.isOk ∧
      Twins left right (first.createDirectories leftParent).2
        (second.createDirectories rightParent).2 ∧
      (first.createDirectories leftParent).2.IsMade left ∧
      (second.createDirectories rightParent).2.IsMade right := by
  obtain ⟨leftMade, leftCreated, leftSame⟩ := twins.leftReady.exists_made
  obtain ⟨rightMade, rightCreated, rightSame⟩ := twins.rightReady.exists_made
  obtain ⟨leftParent, leftFound, leftNonempty, leftDisk, leftOk⟩ :=
    createDirectories_parent leftCreated entry leftFits
  obtain ⟨rightParent, rightFound, rightNonempty, rightDisk, rightOk⟩ :=
    createDirectories_parent rightCreated entry rightFits
  have same : SameInside leftMade (first.destination left) rightMade
      (second.destination right) := fun inner strict =>
    (leftSame inner strict).symm.trans ((twins.same inner strict).trans (rightSame inner strict))
  have plain : ∀ name ∈ (names path).dropLast, IsPlainName name := fun name member =>
    entry.plain name ((List.dropLast_sublist _).subset member)
  have along := same.createAlong plain []
  simp only [List.append_nil] at along
  have stays {disk made : Disk} {root : String}
      (created : disk.createDirectories root = (.ok (), made)) (names : List String) :
      (createAlong made (disk.destination root) names).2.IsMade root :=
    createDirectories_again created (createAlong_furnished made _ names).grows
  have keeps {disk made : Disk} {root : String}
      (created : disk.createDirectories root = (.ok (), made)) (names : List String) :
      (createAlong made (disk.destination root) names).2.destination root =
        disk.destination root := by
    have furnished := createDirectories_furnished disk root
    rw [created] at furnished
    exact (furnished.grows.trans (createAlong_furnished made _ names).grows).destination root
  refine ⟨leftParent, rightParent, leftFound, leftNonempty, rightFound, rightNonempty, ?_⟩
  rw [leftOk, rightOk, leftDisk, rightDisk, along.1]
  refine ⟨rfl, ⟨.inl (stays leftCreated _), .inl (stays rightCreated _), ?_⟩,
    stays leftCreated _, stays rightCreated _⟩
  rw [keeps leftCreated, keeps rightCreated]
  exact along.2

/-- Writing has the same success in both directories that are there. -/
theorem write (twins : Twins left right first second) (leftMade : first.IsMade left)
    (rightMade : second.IsMade right) (entry : Path.IsEntry path)
    (leftFits : Path.Fits left path) (rightFits : Path.Fits right path) (text : String) :
    (∃ leftAfter rightAfter, first.write (join left path) text = .ok leftAfter ∧
      second.write (join right path) text = .ok rightAfter ∧
      Twins left right leftAfter rightAfter) ∨
    ∃ leftFault rightFault, first.write (join left path) text = .error leftFault ∧
      second.write (join right path) text = .error rightFault := by
  have seen := twins.view_of_isMade leftMade rightMade entry leftFits rightFits
  have equally : first.Writable (join left path) ↔ second.Writable (join right path) := by
    rw [writable_iff_view (endsWithSlash_join entry left),
      writable_iff_view (endsWithSlash_join entry right), seen]
  have fails {disk : Disk} {path : String} (locked : ¬ disk.Writable path) :
      ∃ fault, disk.write path text = .error fault := by
    cases written : disk.write path text with
    | error fault => exact ⟨fault, rfl⟩
    | ok after => exact absurd (write_eq_ok.1 written).1 locked
  by_cases writable : first.Writable (join left path)
  · have otherWritable := equally.1 writable
    refine .inl ⟨_, _, write_eq_ok.2 ⟨writable, rfl⟩, write_eq_ok.2 ⟨otherWritable, rfl⟩, ?_⟩
    have grows := grows_set (ne_nil_of_free writable.free) writable.free text.toUTF8
    have otherGrows :=
      grows_set (ne_nil_of_free otherWritable.free) otherWritable.free text.toUTF8
    refine ⟨.inl (leftMade.grows grows),
      .inl (rightMade.grows otherGrows), ?_⟩
    rw [grows.destination, otherGrows.destination, entry.destination_join, entry.destination_join]
    exact twins.same.set entry.further _
  · obtain ⟨leftFault, leftFails⟩ := fails writable
    obtain ⟨rightFault, rightFails⟩ := fails (mt equally.2 writable)
    exact .inr ⟨leftFault, rightFault, leftFails, rightFails⟩

end Twins

end Disk
end SchemaScaffold
