import Mathlib.Data.List.Induction
import SchemaScaffold.Document

/-!
# Members of records

A record that is set member by member has its keys in the order in which they came first, and
under each key the value that came last.
-/

namespace SchemaScaffold
namespace Document

/-- The members of a record; other documents have none. -/
def members : Document → List (String × Document)
  | record members => members
  | _ => []

/-- The keys of a record, in order. -/
def keys (document : Document) : List String :=
  document.members.map (·.1)

@[simp] theorem members_record (members : List (String × Document)) :
    (record members).members = members := rfl

@[simp] theorem keys_record (members : List (String × Document)) :
    (record members).keys = members.map (·.1) := rfl

@[simp] theorem member?_record (key : String) (members : List (String × Document)) :
    (record members).member? key = members.lookup key := rfl

/-- The members that a record has once more entries are set. -/
def setAll (members entries : List (String × Document)) : List (String × Document) :=
  entries.foldl (fun members (key, value) => set key value members) members

theorem ofEntries_eq (entries : List (String × Document)) :
    ofEntries entries = record (setAll [] entries) := rfl

@[simp] theorem members_ofEntries (entries : List (String × Document)) :
    (ofEntries entries).members = setAll [] entries := rfl

@[simp] theorem setAll_cons (members entries : List (String × Document)) (key : String)
    (value : Document) :
    setAll members ((key, value) :: entries) = setAll (set key value members) entries := rfl

theorem setAll_concat (members entries : List (String × Document)) (key : String)
    (value : Document) :
    setAll members (entries ++ [(key, value)]) = set key value (setAll members entries) := by
  simp [setAll]

theorem lookup_set_of_ne {key other : String} (apart : other ≠ key) (value : Document)
    (members : List (String × Document)) :
    (set key value members).lookup other = members.lookup other := by
  have unequal : (other == key) = false := beq_eq_false_iff_ne.2 apart
  induction members with
  | nil => simp [set, List.lookup_cons, unequal]
  | cons head rest ih =>
    obtain ⟨name, old⟩ := head
    simp only [set]
    split
    · next same =>
      obtain rfl : name = key := by simpa using same
      simp [List.lookup_cons, unequal]
    · simp [List.lookup_cons, ih]

/-- Under each key the last entry counts. -/
theorem lookup_setAll (members entries : List (String × Document)) (key : String) :
    (setAll members entries).lookup key =
      (entries.reverse.lookup key).or (members.lookup key) := by
  induction entries generalizing members with
  | nil => rfl
  | cons entry rest ih =>
    obtain ⟨name, value⟩ := entry
    rw [setAll_cons, ih, List.reverse_cons, List.lookup_append, Option.or_assoc]
    by_cases same : key = name
    · simp [same, lookup_set_self]
    · have unequal : (key == name) = false := beq_eq_false_iff_ne.2 same
      simp [lookup_set_of_ne same, List.lookup_cons, unequal]

@[simp] theorem member?_ofEntries (key : String) (entries : List (String × Document)) :
    (ofEntries entries).member? key = entries.reverse.lookup key := by
  rw [ofEntries_eq, member?_record, lookup_setAll]
  exact Option.or_none

/-- An entry is found if no later one has its key. -/
theorem lookup_reverse_of_last (before : List (String × Document)) (entry : String × Document)
    {after : List (String × Document)} (last : entry.1 ∉ after.map (·.1)) :
    (before ++ entry :: after).reverse.lookup entry.1 = some entry.2 := by
  refine List.lookup_eq_some_iff.2 ⟨after.reverse, before.reverse, by simp, fun other member => ?_⟩
  refine bne_iff_ne.2 fun same => last ?_
  exact List.mem_map.2 ⟨other, List.mem_reverse.1 member, same.symm⟩

/-- An entry is found if its key and those behind it are apart. -/
theorem lookup_reverse_of_nodup {entry : String × Document} {entries : List (String × Document)}
    (front : List (String × Document)) (nodup : (entries.map (·.1)).Nodup)
    (member : entry ∈ entries) : (front ++ entries).reverse.lookup entry.1 = some entry.2 := by
  obtain ⟨before, after, rfl⟩ := List.append_of_mem member
  rw [List.map_append, List.map_cons] at nodup
  have last : entry.1 ∉ after.map (·.1) := (List.nodup_cons.1 (List.nodup_append.1 nodup).2.1).1
  rw [← List.append_assoc]
  exact lookup_reverse_of_last _ entry last

/-- What is found under a key is its last entry. -/
theorem lookup_reverse_eq_some {key : String} {value : Document}
    {entries : List (String × Document)} :
    entries.reverse.lookup key = some value ↔
      ∃ before after, entries = before ++ (key, value) :: after ∧ key ∉ after.map (·.1) := by
  constructor
  · intro found
    obtain ⟨late, early, shape, apart⟩ := List.lookup_eq_some_iff.1 found
    refine ⟨early.reverse, late.reverse, ?_, fun later => ?_⟩
    · rw [← List.reverse_reverse entries, shape]
      simp
    · obtain ⟨entry, member, same⟩ := List.mem_map.1 later
      exact bne_iff_ne.1 (apart entry (List.mem_reverse.1 member)) same.symm
  · rintro ⟨before, after, rfl, last⟩
    exact lookup_reverse_of_last before (key, value) last

theorem keys_set (key : String) (value : Document) (members : List (String × Document)) :
    (set key value members).map (·.1) =
      if key ∈ members.map (·.1) then members.map (·.1) else members.map (·.1) ++ [key] := by
  induction members with
  | nil => rfl
  | cons head rest ih =>
    obtain ⟨name, old⟩ := head
    simp only [set]
    by_cases same : name = key
    · simp [same]
    · have other : key ≠ name := Ne.symm same
      simp only [beq_iff_eq, same, if_false, List.map_cons, ih, List.mem_cons, other, false_or]
      split <;> rfl

/-- Every key stands where it came first. -/
@[simp] theorem keys_ofEntries (entries : List (String × Document)) :
    (ofEntries entries).keys = (entries.map (·.1)).eraseDups := by
  rw [keys, members_ofEntries]
  induction entries using List.reverseRecOn with
  | nil => rfl
  | append_singleton front entry ih =>
    obtain ⟨key, value⟩ := entry
    rw [setAll_concat, keys_set, ih, List.map_append, List.eraseDups_append]
    by_cases known : key ∈ front.map (·.1)
    · rw [if_pos (List.mem_eraseDups.2 known)]
      simp [List.removeAll, known]
    · rw [if_neg fun found => known (List.mem_eraseDups.1 found)]
      simp [List.removeAll, known, List.eraseDups_cons]

/-- No key comes twice. -/
theorem nodup_keys_ofEntries (entries : List (String × Document)) :
    (ofEntries entries).keys.Nodup := by
  rw [keys, members_ofEntries]
  induction entries using List.reverseRecOn with
  | nil => exact List.nodup_nil
  | append_singleton front entry ih =>
    obtain ⟨key, value⟩ := entry
    rw [setAll_concat, keys_set]
    split
    · exact ih
    · next fresh => exact List.nodup_append.2 ⟨ih, List.pairwise_singleton _ key, by grind⟩

/-- A member with a key of its own is set behind the others. -/
theorem set_of_not_mem {key : String} {members : List (String × Document)}
    (fresh : key ∉ members.map (·.1)) (value : Document) :
    set key value members = members ++ [(key, value)] := by
  induction members with
  | nil => rfl
  | cons head rest ih =>
    obtain ⟨name, old⟩ := head
    rw [List.map_cons, List.mem_cons, not_or] at fresh
    simp [set, Ne.symm fresh.1, ih fresh.2]

/-- Entries with different keys are the members of their record. -/
theorem ofEntries_of_nodup {entries : List (String × Document)}
    (distinct : (entries.map (·.1)).Nodup) : ofEntries entries = record entries := by
  rw [ofEntries_eq]
  congr 1
  induction entries using List.reverseRecOn with
  | nil => rfl
  | append_singleton front entry ih =>
    rw [List.map_append, List.map_singleton, List.nodup_append] at distinct
    obtain ⟨own, -, apart⟩ := distinct
    have fresh : entry.1 ∉ front.map (·.1) := fun member =>
      apart entry.1 member entry.1 List.mem_cons_self rfl
    rw [setAll_concat, ih own, set_of_not_mem fresh]

/-- The members of a record are what is found under their keys. -/
theorem mem_members_ofEntries {key : String} {value : Document}
    {entries : List (String × Document)} :
    (key, value) ∈ (ofEntries entries).members ↔
      (ofEntries entries).member? key = some value := by
  have nodup : ((setAll [] entries).map (·.1)).Nodup := nodup_keys_ofEntries entries
  rw [ofEntries_eq, member?_record, members_record]
  constructor
  · intro member
    obtain ⟨front, back, shape⟩ := List.append_of_mem member
    rw [shape, List.map_append, List.map_cons, List.nodup_append] at nodup
    refine List.lookup_eq_some_iff.2 ⟨front, back, shape, fun entry inFront => ?_⟩
    exact bne_iff_ne.2 (nodup.2.2 entry.1 (List.mem_map_of_mem inFront) key (by simp)).symm
  · intro found
    obtain ⟨front, back, shape, -⟩ := List.lookup_eq_some_iff.1 found
    simp [shape]

/-- Every member of a record was an entry. -/
theorem mem_of_mem_members {member : String × Document} {entries : List (String × Document)}
    (inRecord : member ∈ (ofEntries entries).members) : member ∈ entries := by
  rw [mem_members_ofEntries, member?_ofEntries] at inRecord
  obtain ⟨before, after, rfl, -⟩ := lookup_reverse_eq_some.1 inRecord
  simp

end Document
end SchemaScaffold
