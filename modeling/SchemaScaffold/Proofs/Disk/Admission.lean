import SchemaScaffold.Proofs.Disk.Twins

/-!
# Directories that admit files

A file can be put at a path below a directory if the directory can be made, the system allows the
path, and nothing is in the way: no file where a directory has to be, and no directory where the
file goes. Putting it leaves the other files that the directory admits a place.
-/

namespace SchemaScaffold
namespace Disk

open Path (Fits IsEntry join names)

/-- Directories can be made along names if no file is among the places that they lead through. -/
theorem exists_createAlong {disk : Disk} {place : Location} {names : List String}
    (plain : ∀ name ∈ names, IsPlainName name)
    (short : ∀ name ∈ names, name.utf8ByteSize ≤ maxNameSize)
    (free : ∀ front, front <+: names → front ≠ [] → ∀ content,
      disk.node? (place ++ front) ≠ some (.file content)) :
    ∃ made, createAlong disk place names = (.ok (), made) := by
  induction names generalizing disk place with
  | nil => exact ⟨disk, rfl⟩
  | cons name rest ih =>
    obtain ⟨plainHere, plainRest⟩ := List.forall_mem_cons.1 plain
    obtain ⟨shortHere, shortRest⟩ := List.forall_mem_cons.1 short
    have freeRest : ∀ front, front <+: rest → front ≠ [] → ∀ content,
        disk.node? (place ++ [name] ++ front) ≠ some (.file content) := by
      intro front below nonempty
      have longer : name :: front <+: name :: rest := by simpa using below
      simpa using free (name :: front) longer (by simp)
    rw [createAlong_plain plainHere, if_neg (Nat.not_lt.2 shortHere)]
    cases standing : disk.node? (place ++ [name]) with
    | none =>
      refine ih plainRest shortRest fun front below nonempty => ?_
      rw [node?_set_of_ne (by simpa using nonempty)]
      exact freeRest front below nonempty
    | some node =>
      cases node with
      | directory => exact ih plainRest shortRest freeRest
      | file content => exact absurd standing (free [name] (by simp) (by simp) content)

/-- A file can be written into a directory that is there, unless a directory is at its place. -/
theorem writable_of_isMade {disk : Disk} {root path : String} (made : disk.IsMade root)
    (entry : IsEntry path) (fits : Fits root path)
    (short : ∀ name ∈ names path, name.utf8ByteSize ≤ maxNameSize)
    (around : disk.walk (disk.destination root) (names path).dropLast =
      .ok (.directory (arrival (disk.destination root) (names path).dropLast)))
    (free : disk.node? (disk.destination root ++ names path) ≠ some .directory) :
    disk.Writable (join root path) := by
  obtain ⟨front, last, shape⟩ : ∃ front last, names path = front ++ [last] :=
    ⟨_, _, (List.dropLast_concat_getLast entry.further).symm⟩
  have plain : ∀ name ∈ front, IsPlainName name := fun name member =>
    entry.plain name (by simp [shape, member])
  have plainLast : IsPlainName last := entry.plain last (by simp [shape])
  have shortLast : last.utf8ByteSize ≤ maxNameSize := short last (by simp [shape])
  rw [shape, List.dropLast_concat] at around
  rw [writable_iff_view (endsWithSlash_join entry root), made.view_join entry (fits.whole short),
    shape, walk_append_of_directory around, walk_plain plainLast,
    if_neg (Nat.not_lt.2 shortLast), arrival_plain plain, List.append_assoc, ← shape]
  cases standing : disk.node? (disk.destination root ++ names path) with
  | none => exact ⟨none, rfl, by simp⟩
  | some node =>
    cases node with
    | directory => exact absurd standing free
    | file content => exact ⟨some (.file content), rfl, by simp⟩

/-- Paths of entries that the system allows in a directory, none of them below another one. -/
structure Path.AreApart (root : String) (paths : List String) : Prop where
  entry : ∀ path ∈ paths, IsEntry path
  fits : ∀ path ∈ paths, Fits root path
  short : ∀ path ∈ paths, ∀ name ∈ names path, name.utf8ByteSize ≤ maxNameSize
  apart : ∀ path ∈ paths, ∀ other ∈ paths, names path <+: names other → names path = names other

/-- Nothing in a directory is in the way of files at some paths. -/
structure Admits (disk : Disk) (root : String) (paths : List String) : Prop where
  ready : disk.IsReady root
  free : ∀ path ∈ paths, disk.node? (disk.destination root ++ names path) ≠ some .directory
  above : ∀ path ∈ paths, ∀ front, front <+: names path → front ≠ names path → front ≠ [] →
    ∀ content, disk.node? (disk.destination root ++ front) ≠ some (.file content)

instance (node : Node) : Decidable (node = .directory) :=
  match node with
  | .directory => isTrue rfl
  | .file _ => isFalse nofun

/-- What stands below a place is one of the nodes of the disk. -/
theorem mem_nodes_of_node? {disk : Disk} {place inner : Location} {node : Node}
    (strict : inner ≠ []) (standing : disk.node? (place ++ inner) = some node) :
    (place ++ inner, node) ∈ disk.nodes := by
  rw [node?, if_neg (by simp [strict])] at standing
  obtain ⟨front, back, shape, -⟩ := List.lookup_eq_some_iff.1 standing
  simp [shape]

/-- A directory admits files if every node on the way to a path is a directory, and those at the
paths are files. -/
theorem admits_of_nodes {disk : Disk} {root : String} {paths : List String}
    (ready : disk.IsReady root) (apart : Path.AreApart root paths)
    (clear : ∀ entry ∈ disk.nodes, ∀ path ∈ paths,
      entry.1 <+: disk.destination root ++ names path →
        (entry.2 = .directory ↔ entry.1 ≠ disk.destination root ++ names path)) :
    disk.Admits root paths where
  ready := ready
  free path member standing := by
    have node := mem_nodes_of_node? (apart.entry path member).further standing
    exact (clear _ node path member List.prefix_rfl).1 rfl rfl
  above path member front below strict nonempty content standing := by
    have node := mem_nodes_of_node? nonempty standing
    have onWay : disk.destination root ++ front <+: disk.destination root ++ names path :=
      (List.prefix_append_right_inj _).2 below
    have directory := (clear _ node path member onWay).2 (by simpa using strict)
    exact absurd directory (by simp)

/-- A vacant directory admits files at all paths. -/
theorem IsVacant.admits {disk : Disk} {root : String} (vacant : disk.IsVacant root)
    {paths : List String} (apart : Path.AreApart root paths) : disk.Admits root paths where
  ready := .inr vacant
  free path member := by simp [vacant.node?_eq_none (apart.entry path member).further]
  above path member front _ _ nonempty := by simp [vacant.node?_eq_none nonempty]

/-- What a disk is after a file has been put below a directory. -/
structure IsPut (root path text : String) (before after : Disk) : Prop where
  made : after.IsMade root
  destination : after.destination root = before.destination root
  nodes : ∀ inner ≠ [],
    after.node? (before.destination root ++ inner) =
        before.node? (before.destination root ++ inner) ∨
      inner = names path ∧
        after.node? (before.destination root ++ inner) = some (.file text.toUTF8) ∨
      inner <+: names path ∧ inner ≠ names path ∧
        after.node? (before.destination root ++ inner) = some .directory

section Put

variable {disk : Disk} {root path : String} {paths : List String}
  (apart : Path.AreApart root paths) (member : path ∈ paths)

include apart member

/-- A file can be put at a path if the directory can be made and admits the path then. -/
theorem Admits.exists_put {made : Disk} (admits : made.Admits root paths)
    (created : disk.createDirectories root = (.ok (), made)) (text : String) :
    ∃ parent middle after, Path.parent? (join root path) = some parent ∧ parent ≠ "" ∧
      disk.createDirectories parent = (.ok (), middle) ∧
      middle.write (join root path) text = .ok after ∧ IsPut root path text made after := by
  have entry := apart.entry path member
  have fits := apart.fits path member
  have short := apart.short path member
  obtain ⟨front, last, shape⟩ : ∃ front last, names path = front ++ [last] :=
    ⟨_, _, (List.dropLast_concat_getLast entry.further).symm⟩
  obtain ⟨parent, found, nonempty, leaves, succeeds⟩ := createDirectories_parent created entry fits
  have stays : made.destination root = disk.destination root := by
    have grown := createDirectories_furnished disk root
    rw [created] at grown
    exact grown.grows.destination root
  rw [← stays, shape, List.dropLast_concat] at leaves succeeds
  have plain : ∀ name ∈ front, IsPlainName name := fun name inFront =>
    entry.plain name (by simp [shape, inFront])
  have shortFront : ∀ name ∈ front, name.utf8ByteSize ≤ maxNameSize := fun name inFront =>
    short name (by simp [shape, inFront])
  have proper {inner : List String} (below : inner <+: front) :
      inner <+: names path ∧ inner ≠ names path := by
    rw [shape]
    refine ⟨below.trans (List.prefix_append _ _), fun whole => ?_⟩
    have size := below.length_le
    rw [whole, List.length_append, List.length_singleton] at size
    omega
  obtain ⟨middle, along⟩ : ∃ middle,
      createAlong made (made.destination root) front = (.ok (), middle) :=
    exists_createAlong plain shortFront fun inner below strict content =>
      admits.above path member inner (proper below).1 (proper below).2 strict content
  rw [along] at leaves succeeds
  have makes : disk.createDirectories parent = (.ok (), middle) := by
    cases run : disk.createDirectories parent with
    | mk answer left =>
      obtain rfl : left = middle := by simpa [run] using leaves
      cases answer with
      | error fault => simp [run, Except.isOk, Except.toBool] at succeeds
      | ok value => rfl
  have furnished := createAlong_furnished made (made.destination root) front
  rw [along] at furnished
  have rootMade : middle.IsMade root := createDirectories_again created furnished.grows
  have keeps : middle.destination root = made.destination root := furnished.grows.destination root
  -- Directories are new only above the file.
  have nodes (inner : List String) :
      middle.node? (made.destination root ++ inner) = made.node? (made.destination root ++ inner) ∨
        inner <+: names path ∧ inner ≠ names path ∧
          middle.node? (made.destination root ++ inner) = some .directory := by
    refine (furnished.places _).imp_right fun placed => ?_
    obtain ⟨-, directory, onWay⟩ := placed
    have below : inner <+: front := by simpa using (waypoints_plain plain onWay).2
    exact ⟨(proper below).1, (proper below).2, directory⟩
  have writable : middle.Writable (join root path) := by
    refine writable_of_isMade rootMade entry fits short ?_ ?_
    · rw [keeps, shape, List.dropLast_concat]
      exact walk_of_createAlong along
    · rw [keeps]
      rcases nodes (names path) with old | ⟨-, strict, -⟩
      · rw [old]
        exact admits.free path member
      · exact absurd rfl strict
  refine ⟨parent, middle, _, found, nonempty, makes, write_eq_ok.2 ⟨writable, rfl⟩, ?_⟩
  have grows := grows_set (ne_nil_of_free writable.free) writable.free text.toUTF8
  refine ⟨rootMade.grows grows, (grows.destination root).trans keeps, fun inner strict => ?_⟩
  rw [entry.destination_join, keeps]
  by_cases here : inner = names path
  · subst here
    exact .inr (.inl ⟨rfl, node?_set_self (by simp [strict]) _⟩)
  · rw [node?_set_of_ne (by simpa using here)]
    exact (nodes inner).imp_right .inr

/-- What was admitted before a file was put is admitted afterwards. -/
theorem IsPut.admits {text : String} {after : Disk} (put : IsPut root path text disk after)
    (admits : disk.Admits root paths) : after.Admits root paths where
  ready := .inl put.made
  free other isOther := by
    rw [put.destination]
    rcases put.nodes _ (apart.entry other isOther).further with old | ⟨-, file⟩ |
      ⟨below, strict, -⟩
    · rw [old]
      exact admits.free other isOther
    · simp [file]
    · exact absurd (apart.apart other isOther path member below) strict
  above other isOther front below strict nonempty content := by
    rw [put.destination]
    rcases put.nodes front nonempty with old | ⟨rfl, -⟩ | ⟨-, -, directory⟩
    · rw [old]
      exact admits.above other isOther front below strict nonempty content
    · exact absurd (apart.apart path member other isOther below) strict
    · simp [directory]

end Put

end Disk
end SchemaScaffold
