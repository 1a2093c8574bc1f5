import SchemaScaffold.Text.Digits

/-!
# Documents

Trees of texts, numbers, truth values, lists and records, as they are exchanged between
programs. The members of a record keep their order.
-/

namespace SchemaScaffold

/-- One document or a part of one. -/
inductive Document where
  | bool (value : Bool)
  /-- A number, as it is written. -/
  | number (literal : String)
  | text (value : String)
  | list (items : List Document)
  | record (members : List (String × Document))

namespace Document

/-- A natural number in decimal digits. -/
def natural (value : Nat) : Document :=
  number (String.ofList (Text.decimal value))

/-- A list of texts. -/
def texts (values : List String) : Document :=
  list (values.map text)

/-- The member for a text that may be absent. -/
def optionalText (key : String) (value : Option String) : List (String × Document) :=
  (value.map fun present => (key, text present)).toList

/-- Set a member in place if its key is there already, else put it last. -/
def set (key : String) (value : Document) :
    List (String × Document) → List (String × Document)
  | [] => [(key, value)]
  | (name, old) :: rest =>
    if name == key then (name, value) :: rest else (name, old) :: set key value rest

/-- The record that results from setting members one after another. A key that comes again
keeps its place and takes the later value. -/
def ofEntries (entries : List (String × Document)) : Document :=
  record (entries.foldl (fun members (key, value) => set key value members) [])

/-- The first member of a key. -/
def member? (key : String) : Document → Option Document
  | record members => members.lookup key
  | _ => none

theorem lookup_set_self (key : String) (value : Document)
    (members : List (String × Document)) :
    (set key value members).lookup key = some value := by
  induction members with
  | nil => simp [set]
  | cons head rest ih =>
    obtain ⟨name, old⟩ := head
    simp only [set]
    split
    · next same =>
      have equal : name = key := by simpa using same
      simp [equal]
    · next other =>
      have apart : (key == name) = false := by
        simpa [beq_eq_false_iff_ne, ne_comm] using other
      simp [List.lookup_cons, apart, ih]

end Document
end SchemaScaffold
