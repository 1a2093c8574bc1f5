import SchemaScaffold.Proofs.Document.Members
import SchemaScaffold.Proofs.Text.Pieces

/-!
# References in documents

What a document refers to, at any depth, and the part of a document that a reference leads to.
-/

namespace SchemaScaffold
namespace Document

/-- The key of references. -/
def referenceKey : String := "$ref"

mutual

/-- The values of all members with the key of references, wherever they are in a document. -/
def references : Document → List Document
  | .bool _ => []
  | .number _ => []
  | .text _ => []
  | .list items => itemReferences items
  | .record members => memberReferences members

/-- The references in the items of a list. -/
def itemReferences : List Document → List Document
  | [] => []
  | item :: items => references item ++ itemReferences items

/-- The references among the members of a record and in their values. -/
def memberReferences : List (String × Document) → List Document
  | [] => []
  | (key, value) :: members =>
    (if key = referenceKey then [value] else []) ++ references value ++ memberReferences members

end

/-- Every reference in a document satisfies a condition. -/
def RefersOnlyTo (condition : Document → Prop) (document : Document) : Prop :=
  ∀ target ∈ document.references, condition target

/-- What an entry refers to, itself and in its value, satisfies a condition. -/
def EntryRefersOnlyTo (condition : Document → Prop) (entry : String × Document) : Prop :=
  (entry.1 = referenceKey → condition entry.2) ∧ entry.2.RefersOnlyTo condition

section RefersOnlyTo

variable {condition : Document → Prop}

@[simp] theorem refersOnlyTo_bool (value : Bool) : (bool value).RefersOnlyTo condition := by
  simp [RefersOnlyTo, references]

@[simp] theorem refersOnlyTo_number (literal : String) :
    (number literal).RefersOnlyTo condition := by
  simp [RefersOnlyTo, references]

@[simp] theorem refersOnlyTo_text (value : String) : (text value).RefersOnlyTo condition := by
  simp [RefersOnlyTo, references]

@[simp] theorem refersOnlyTo_list (items : List Document) :
    (list items).RefersOnlyTo condition ↔ ∀ item ∈ items, item.RefersOnlyTo condition := by
  rw [RefersOnlyTo, references]
  induction items with
  | nil => simp [itemReferences]
  | cons item items ih =>
    rw [List.forall_mem_cons, ← ih, itemReferences]
    exact List.forall_mem_append

@[simp] theorem refersOnlyTo_record (members : List (String × Document)) :
    (record members).RefersOnlyTo condition ↔
      ∀ member ∈ members, EntryRefersOnlyTo condition member := by
  rw [RefersOnlyTo, references]
  induction members with
  | nil => simp [memberReferences]
  | cons member members ih =>
    obtain ⟨key, value⟩ := member
    rw [List.forall_mem_cons, ← ih, memberReferences, List.forall_mem_append,
      List.forall_mem_append]
    by_cases same : key = referenceKey <;> simp [same, EntryRefersOnlyTo, RefersOnlyTo]

/-- A record refers to nothing but its entries do. -/
theorem refersOnlyTo_ofEntries {entries : List (String × Document)}
    (each : ∀ entry ∈ entries, EntryRefersOnlyTo condition entry) :
    (ofEntries entries).RefersOnlyTo condition := by
  rw [ofEntries_eq, refersOnlyTo_record]
  exact fun member inRecord => each member (mem_of_mem_members inRecord)

/-- An entry with another key refers to what its value refers to. -/
theorem entryRefersOnlyTo_iff {key : String} {value : Document} (other : key ≠ referenceKey) :
    EntryRefersOnlyTo condition (key, value) ↔ value.RefersOnlyTo condition := by
  simp [EntryRefersOnlyTo, other]

end RefersOnlyTo

/-- The part of a document that is found under keys, one below the other. -/
def follow? : List String → Document → Option Document
  | [], document => some document
  | key :: keys, document => (document.member? key).bind (follow? keys)

@[simp] theorem follow?_nil : follow? [] = some := rfl

@[simp] theorem follow?_cons (key : String) (keys : List String) (document : Document) :
    follow? (key :: keys) document = (document.member? key).bind (follow? keys) := rfl

/-- What a record has under a key is a reference if the key says so, and what it refers to is
among the references of the record. -/
theorem entryRefersOnlyTo_of_member? {key : String} {value document : Document}
    (found : document.member? key = some value) :
    EntryRefersOnlyTo (· ∈ document.references) (key, value) := by
  cases document with
  | record members =>
    have all : (record members).RefersOnlyTo (· ∈ (record members).references) := fun _ => id
    obtain ⟨front, back, shape, -⟩ := List.lookup_eq_some_iff.1 found
    exact (refersOnlyTo_record members).1 all (key, value) (by simp [shape])
  | _ => simp [member?] at found

/-- What is found at any depth under the key of references is a reference. -/
theorem mem_references_of_follow? (keys : List String) {document target : Document}
    (found : document.follow? (keys ++ [referenceKey]) = some target) :
    target ∈ document.references := by
  induction keys generalizing document with
  | nil =>
    obtain ⟨value, member, same⟩ := Option.bind_eq_some_iff.1 found
    obtain rfl := Option.some.inj same
    exact (entryRefersOnlyTo_of_member? member).1 rfl
  | cons key keys ih =>
    obtain ⟨value, member, rest⟩ := Option.bind_eq_some_iff.1 found
    exact (entryRefersOnlyTo_of_member? member).2 target (ih rest)

/-- The part of a document that a reference leads to. A reference is a text with the keys of the
part between slashes, behind a sign for the document itself. -/
def resolve? (document : Document) : Document → Option Document
  | text target =>
    match Text.splitOn '/' target.toList with
    | ['#'] :: keys => document.follow? (keys.map String.ofList)
    | _ => none
  | _ => none

/-- A reference with keys leads to the part under them. -/
theorem resolve?_intercalate {keys : List String} (free : ∀ key ∈ keys, '/' ∉ key.toList)
    (document : Document) :
    document.resolve? (text (String.intercalate "/" ("#" :: keys))) = document.follow? keys := by
  have sign : '/' ∉ "#".toList := by decide
  have split : Text.splitOn '/' (String.intercalate "/" ("#" :: keys)).toList =
      ("#" :: keys).map String.toList :=
    Text.splitOn_intercalate (by simp) (List.forall_mem_cons.2 ⟨sign, free⟩)
  rw [resolve?, split]
  simp

end Document
end SchemaScaffold
