import Mathlib.Data.List.Nodup
import SchemaScaffold.Proofs.Json.RoundTrip

/-!
# Shapes of written values

What a reader that expects a structure finds in the value of a document: in a record the member of
each field, and in a list the items one by one.
-/

namespace SchemaScaffold
namespace Json
namespace Value

section Members

variable {members others : List (Option String × Value)} {key : String}

/-- The members of a key. -/
def membersOf (key : String) (members : List (Option String × Value)) :
    List (Option String × Value) :=
  members.filter (·.1 == some key)

theorem mem_membersOf {member : Option String × Value} :
    member ∈ membersOf key members ↔ member ∈ members ∧ member.1 = some key := by
  simp [membersOf]

theorem uniqueMember_eq (members : List (Option String × Value)) (key : String) :
    uniqueMember members key =
      match membersOf key members with
      | [] => some none
      | [(_, value)] => some (some value)
      | _ => none := rfl

theorem uniqueMember_congr (same : membersOf key members = membersOf key others) :
    uniqueMember members key = uniqueMember others key := by
  rw [uniqueMember_eq, uniqueMember_eq, same]

/-- The order of members does not count. -/
theorem uniqueMember_perm (same : members.Perm others) (key : String) :
    uniqueMember members key = uniqueMember others key := by
  have perm : (membersOf key members).Perm (membersOf key others) := same.filter _
  rw [uniqueMember_eq, uniqueMember_eq]
  match found : membersOf key members with
  | [] =>
    rw [found] at perm
    rw [List.nil_perm.1 perm]
  | [member] =>
    rw [found] at perm
    rw [← List.singleton_perm.1 perm]
  | first :: second :: rest =>
    have length := perm.length_eq
    rw [found] at length
    match also : membersOf key others with
    | [] => simp [also] at length
    | [_] => simp [also] at length
    | _ :: _ :: _ => rfl

/-- Members of other names do not count. -/
theorem uniqueMember_cons_of_ne {name : String} (value : Value) (other : key ≠ name) :
    uniqueMember ((some name, value) :: members) key = uniqueMember members key := by
  refine uniqueMember_congr ?_
  have apart : ((some name : Option String) == some key) = false := by simpa using Ne.symm other
  rw [membersOf, List.filter_cons, apart]
  rfl

/-- In the place of a member another can stand: it is either found alone or does not count. -/
theorem uniqueMember_replace (name : String) (value other : Value)
    (before after : List (Option String × Value)) :
    uniqueMember (before ++ (some name, value) :: after) key =
        uniqueMember (before ++ (some name, other) :: after) key ∨
      key = name ∧
        uniqueMember (before ++ (some name, value) :: after) key = some (some value) ∧
        uniqueMember (before ++ (some name, other) :: after) key = some (some other) := by
  by_cases same : key = name
  · subst same
    have shape (value : Value) : membersOf key (before ++ (some key, value) :: after) =
        membersOf key before ++ (some key, value) :: membersOf key after := by
      simp [membersOf]
    simp only [uniqueMember_eq, shape]
    match membersOf key before, membersOf key after with
    | [], [] => exact .inr ⟨trivial, rfl, rfl⟩
    | [], _ :: _ => exact .inl rfl
    | [_], _ => exact .inl rfl
    | _ :: _ :: _, _ => exact .inl rfl
  · have apart : ((some name : Option String) == some key) = false := by simpa using Ne.symm same
    refine .inl (uniqueMember_congr ?_)
    simp [membersOf, apart]

/-- A member that comes twice is not found. -/
theorem uniqueMember_eq_none (twice : 2 ≤ (members.map (·.1)).count (some key)) :
    uniqueMember members key = none := by
  have length : (membersOf key members).length = (members.map (·.1)).count (some key) := by
    rw [membersOf, ← List.countP_eq_length_filter, List.count, List.countP_map]
    rfl
  rw [uniqueMember_eq]
  match found : membersOf key members with
  | [] => simp [found] at length; omega
  | [_] => simp [found] at length; omega
  | _ :: _ :: _ => rfl

theorem membersOf_eq_nil (absent : some key ∉ members.map (·.1)) : membersOf key members = [] := by
  refine List.eq_nil_iff_forall_not_mem.2 fun member found => absent ?_
  obtain ⟨isMember, same⟩ := mem_membersOf.1 found
  exact List.mem_map.2 ⟨member, isMember, same⟩

/-- A key without a member has none. -/
theorem uniqueMember_of_not_mem (absent : some key ∉ members.map (·.1)) :
    uniqueMember members key = some none := by
  rw [uniqueMember_eq, membersOf_eq_nil absent]

/-- A member in front of others is found if its key does not come again. -/
theorem uniqueMember_cons_self (value : Value) (absent : some key ∉ members.map (·.1)) :
    uniqueMember ((some key, value) :: members) key = some (some value) := by
  have alone : membersOf key ((some key, value) :: members) = [(some key, value)] := by
    have others := membersOf_eq_nil absent
    rw [membersOf] at others ⊢
    rw [List.filter_cons_of_pos (by simp), others]
  rw [uniqueMember_eq, alone]

/-- A member is found, unless its key comes twice. -/
theorem uniqueMember_of_mem {value : Value} (isMember : (some key, value) ∈ members) :
    uniqueMember members key = none ∨ uniqueMember members key = some (some value) := by
  have found : (some key, value) ∈ membersOf key members := mem_membersOf.2 ⟨isMember, rfl⟩
  rw [uniqueMember_eq]
  match shape : membersOf key members with
  | [] => simp [shape] at found
  | [member] =>
    rw [shape, List.mem_singleton] at found
    exact .inr (by rw [← found])
  | _ :: _ :: _ => exact .inl rfl

/-- Where no key comes twice, the member of a key is the first one. -/
theorem uniqueMember_of_nodup (distinct : (members.map (·.1)).Nodup) (key : String) :
    uniqueMember members key = some (members.lookup (some key)) := by
  induction members with
  | nil => rfl
  | cons member members ih =>
    obtain ⟨name, value⟩ := member
    rw [List.map_cons, List.nodup_cons] at distinct
    by_cases same : name = some key
    · subst same
      rw [uniqueMember_cons_self value distinct.1]
      simp
    · have apart : (some key == name) = false := beq_false_of_ne (Ne.symm same)
      have skipped : membersOf key ((name, value) :: members) = membersOf key members :=
        List.filter_cons_of_neg (by simpa using same)
      rw [uniqueMember_congr skipped, List.lookup_cons, apart]
      exact ih distinct.2

end Members

theorem lookup_ofMembers (key : String) (members : List (String × Document)) :
    (ofMembers members).lookup (some key) = (members.lookup key).map ofDocument := by
  induction members with
  | nil => rfl
  | cons member members ih =>
    obtain ⟨name, value⟩ := member
    rw [ofMembers, List.lookup_cons, List.lookup_cons, ih]
    by_cases same : key = name
    · simp [same]
    · have apart : (key == name) = false := beq_false_of_ne same
      have apartKeys : (some key == some name) = false := by simpa using same
      simp only [apart, apartKeys]

/-- A structure that was written as a record is read field by field. -/
theorem fields_ofDocument_record (keys : List String) {members : List (String × Document)}
    (distinct : (members.map (·.1)).Nodup) :
    (ofDocument (.record members)).fields keys =
      some (keys.map fun key => (members.lookup key).map ofDocument) := by
  have whole : (ofMembers members).all (·.1.isSome) = true := by
    simp [ofMembers_eq_map]
  have keysOf : (ofMembers members).map (·.1) = (members.map (·.1)).map some := by
    simp [ofMembers_eq_map]
  have each (key : String) : uniqueMember (ofMembers members) key =
      some ((members.lookup key).map ofDocument) := by
    rw [uniqueMember_of_nodup, lookup_ofMembers]
    rw [keysOf]
    exact List.Nodup.map (fun _ _ => Option.some.inj) distinct
  rw [ofDocument, fields, if_pos whole, funext each]
  exact List.mapM_pure

/-- A list is read if each item is. -/
theorem mapM_eq_some_iff {α β : Type} {read : α → Option β} {items : List α} {found : List β} :
    items.mapM read = some found ↔
      List.Forall₂ (fun item result => read item = some result) items found := by
  induction items generalizing found with
  | nil => simp [eq_comm]
  | cons item items ih =>
    rw [List.mapM_cons, List.forall₂_cons_left_iff]
    cases own : read item with
    | none => simp
    | some result => cases rest : items.mapM read <;> simp [← ih, rest, eq_comm]

/-- One item that is not read is enough for a list not to be read. -/
theorem mapM_eq_none {α β : Type} {read : α → Option β} {items : List α} {item : α}
    (isItem : item ∈ items) (unread : read item = none) : items.mapM read = none := by
  induction items with
  | nil => simp at isItem
  | cons head items ih =>
    rw [List.mapM_cons]
    rcases List.mem_cons.1 isItem with rfl | later
    · rw [unread]
      rfl
    · rw [ih later]
      cases read head <;> rfl

/-- Items of which each is read back are read back as a list. -/
theorem mapM_ofItems {α : Type} {write : α → Document} {read : Value → Option α} {items : List α}
    (each : ∀ item ∈ items, read (ofDocument (write item)) = some item) :
    (ofItems (items.map write)).mapM read = some items := by
  rw [ofItems_eq_map, List.map_map]
  induction items with
  | nil => rfl
  | cons item items ih =>
    obtain ⟨first, others⟩ := List.forall_mem_cons.1 each
    rw [List.map_cons, List.mapM_cons, ih others, Function.comp_apply, first]
    rfl

/-- A value that may be absent is read back, present or not. -/
theorem mapM_option {α : Type} {write : α → Value} {read : Value → Option α}
    (each : ∀ item, read (write item) = some item) (item : Option α) :
    (item.map write).mapM read = some item := by
  cases item with
  | none => rfl
  | some item => simp [each item]

end Value
end Json
end SchemaScaffold
