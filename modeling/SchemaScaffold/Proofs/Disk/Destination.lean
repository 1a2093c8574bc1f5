import SchemaScaffold.Disk.Basic

/-!
# Destinations of paths

The place that a path describes does not depend on what stands on its way: a disk has no links.
This module names that place and the places on the way to it, and shows that following a path,
whenever it succeeds, arrives there.
-/

namespace SchemaScaffold
namespace Disk

/-- The place to which one name leads. -/
def follow (place : Location) (name : String) : Location :=
  if name = "." then place else if name = ".." then place.dropLast else place ++ [name]

/-- The place to which names lead. -/
def arrival (place : Location) (names : List String) : Location :=
  names.foldl follow place

/-- The places through which names lead, from the first one on. -/
def waypoints (place : Location) : List String → List Location
  | [] => [place]
  | name :: rest => place :: waypoints (follow place name) rest

/-- The place in which a path starts. -/
def origin (disk : Disk) (path : String) : Location :=
  if Path.isAbsolute path then [] else disk.workingDirectory

/-- The place that a path describes. -/
def destination (disk : Disk) (path : String) : Location :=
  arrival (disk.origin path) (Path.names path)

/-- The places through which a path leads. -/
def wayOf (disk : Disk) (path : String) : List Location :=
  waypoints (disk.origin path) (Path.names path)

/-- A name that leads to a place of its own. -/
def IsPlainName (name : String) : Prop :=
  name ≠ "." ∧ name ≠ ".."

instance (name : String) : Decidable (IsPlainName name) :=
  inferInstanceAs (Decidable (_ ∧ _))

@[simp] theorem follow_dot (place : Location) : follow place "." = place := by
  simp [follow]

@[simp] theorem follow_dots (place : Location) : follow place ".." = place.dropLast := by
  simp [follow]

theorem follow_plain {name : String} (plain : IsPlainName name) (place : Location) :
    follow place name = place ++ [name] := by
  simp [follow, plain.1, plain.2]

@[simp] theorem arrival_nil (place : Location) : arrival place [] = place := rfl

@[simp] theorem arrival_cons (place : Location) (name : String) (rest : List String) :
    arrival place (name :: rest) = arrival (follow place name) rest := rfl

theorem arrival_append (place : Location) (front back : List String) :
    arrival place (front ++ back) = arrival (arrival place front) back := by
  simp [arrival]

theorem arrival_plain {names : List String} (plain : ∀ name ∈ names, IsPlainName name)
    (place : Location) : arrival place names = place ++ names := by
  induction names generalizing place with
  | nil => simp
  | cons name rest ih =>
    rw [arrival_cons, follow_plain (plain name (by simp)),
      ih fun other member => plain other (by simp [member])]
    simp

theorem waypoints_append (place : Location) (front back : List String) (way : Location) :
    way ∈ waypoints place (front ++ back) ↔
      way ∈ waypoints place front ∨ way ∈ waypoints (arrival place front) back := by
  induction front generalizing place with
  | nil => cases back <;> simp [waypoints]
  | cons name rest ih => simp [waypoints, ih, or_assoc]

theorem waypoints_plain {names : List String} (plain : ∀ name ∈ names, IsPlainName name)
    {place way : Location} (member : way ∈ waypoints place names) :
    place <+: way ∧ way <+: place ++ names := by
  induction names generalizing place with
  | nil =>
    obtain rfl : way = place := by simpa [waypoints] using member
    simp
  | cons name rest ih =>
    rcases List.mem_cons.1 member with rfl | later
    · simp
    · rw [follow_plain (plain name (by simp))] at later
      obtain ⟨above, below⟩ := ih (fun other inside => plain other (by simp [inside])) later
      exact ⟨(List.prefix_append place [name]).trans above, by simpa using below⟩

theorem start_mem_waypoints (place : Location) (names : List String) :
    place ∈ waypoints place names := by
  cases names <;> simp [waypoints]

/-- The place at which a path was found to lead. -/
def Target.location : Target → Location
  | .directory location => location
  | .file location _ => location
  | .absent location => location

/-- What a disk has at the end of a path. -/
def Target.Stands (disk : Disk) : Target → Prop
  | .directory location => disk.node? location = some .directory
  | .file location content => disk.node? location = some (.file content)
  | .absent location => disk.node? location = none

theorem walk_dot (disk : Disk) (place : Location) (rest : List String) :
    disk.walk place ("." :: rest) = disk.walk place rest := by
  simp [walk]

theorem walk_dots (disk : Disk) (place : Location) (rest : List String) :
    disk.walk place (".." :: rest) = disk.walk place.dropLast rest := by
  simp [walk]

/-- One step of following a path by a name that is no dot. -/
theorem walk_plain {name : String} (plain : IsPlainName name) (disk : Disk)
    (place : Location) (rest : List String) :
    disk.walk place (name :: rest) =
      if maxNameSize < name.utf8ByteSize then .error .nameTooLong
      else
        match disk.node? (place ++ [name]) with
        | some .directory => disk.walk (place ++ [name]) rest
        | some (.file content) =>
          if rest.isEmpty then .ok (.file (place ++ [name]) content) else .error .notDirectory
        | none =>
          if rest.isEmpty then .ok (.absent (place ++ [name])) else .error .noSuchEntry := by
  rw [walk, if_neg plain.1]
  exact if_neg plain.2

theorem name_cases (name : String) : name = "." ∨ name = ".." ∨ IsPlainName name := by
  by_cases dot : name = "."
  · exact .inl dot
  · by_cases dots : name = ".."
    · exact .inr (.inl dots)
    · exact .inr (.inr ⟨dot, dots⟩)

/-- Following names ends at the place that they describe. -/
theorem location_of_walk {disk : Disk} {place : Location} {names : List String}
    {target : Target} (found : disk.walk place names = .ok target) :
    target.location = arrival place names := by
  induction names generalizing place with
  | nil =>
    simp only [walk, Except.ok.injEq] at found
    rw [← found]
    rfl
  | cons name rest ih =>
    rcases name_cases name with rfl | rfl | plain
    · rw [walk_dot] at found
      simpa using ih found
    · rw [walk_dots] at found
      simpa using ih found
    · rw [walk_plain plain] at found
      rw [arrival_cons, follow_plain plain]
      split at found
      · simp at found
      · split at found
        · exact ih found
        all_goals
          split at found
          · next last =>
            obtain rfl : rest = [] := by simpa using last
            simp only [Except.ok.injEq] at found
            rw [← found]
            rfl
          · simp at found

/-- What is found at the end of a path stands there, but for the directory in which the path
starts, which is not looked at. -/
theorem stands_of_walk {disk : Disk} {place : Location} {names : List String}
    {target : Target} (found : disk.walk place names = .ok target) :
    target.Stands disk ∨ target = .directory (arrival place names) := by
  induction names generalizing place with
  | nil =>
    simp only [walk, Except.ok.injEq] at found
    exact .inr found.symm
  | cons name rest ih =>
    rcases name_cases name with rfl | rfl | plain
    · rw [walk_dot] at found
      simpa using ih found
    · rw [walk_dots] at found
      simpa using ih found
    · rw [walk_plain plain] at found
      rw [arrival_cons, follow_plain plain]
      split at found
      · simp at found
      · split at found
        · exact ih found
        all_goals
          next standing =>
          split at found
          · simp only [Except.ok.injEq] at found
            rw [← found]
            exact .inl standing
          · simp at found

/-- Names are followed one part after another. -/
theorem walk_append {disk : Disk} {place : Location} {front back : List String}
    {target : Target} (found : disk.walk place (front ++ back) = .ok target)
    (further : back ≠ []) :
    disk.walk place front = .ok (.directory (arrival place front)) ∧
      disk.walk (arrival place front) back = .ok target := by
  induction front generalizing place with
  | nil => exact ⟨rfl, found⟩
  | cons name rest ih =>
    have goesOn : (rest ++ back).isEmpty = false := by
      cases rest <;> simp [further]
    rcases name_cases name with rfl | rfl | plain
    · rw [List.cons_append, walk_dot] at found
      rw [walk_dot]
      simpa using ih found
    · rw [List.cons_append, walk_dots] at found
      rw [walk_dots]
      simpa using ih found
    · rw [List.cons_append, walk_plain plain, goesOn] at found
      rw [walk_plain plain, arrival_cons, follow_plain plain]
      split at found
      · simp at found
      · next short =>
        rw [if_neg short]
        split at found
        · next standing =>
          exact ih found
        all_goals simp at found

/-- What a path with a plain name at its end leads to stands there. -/
theorem stands_of_walk_concat {disk : Disk} {place : Location} {front : List String}
    {name : String} (plain : IsPlainName name) {target : Target}
    (found : disk.walk place (front ++ [name]) = .ok target) : target.Stands disk := by
  obtain ⟨-, last⟩ := walk_append found (by simp)
  rw [walk_plain plain] at last
  split at last
  · simp at last
  · split at last
    · next standing =>
      simp only [walk, Except.ok.injEq] at last
      rw [← last]
      exact standing
    all_goals
      next standing =>
      simp only [List.isEmpty_nil, if_true, Except.ok.injEq] at last
      rw [← last]
      exact standing

end Disk
end SchemaScaffold
