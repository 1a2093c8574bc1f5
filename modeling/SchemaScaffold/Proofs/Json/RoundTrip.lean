import SchemaScaffold.Json.Printer
import SchemaScaffold.Proofs.Json.Grammar

/-!
# Reading what was written

The JSON text of a document writes the value that the document stands for, whatever its texts and
keys are, so that it is read as this value.
-/

namespace SchemaScaffold
namespace Json

namespace Value

mutual

/-- The value that a document stands for. -/
def ofDocument : Document → Value
  | .bool value => .bool value
  | .number literal => .number literal
  | .text value => .text (some value)
  | .list items => .list (ofItems items)
  | .record members => .record (ofMembers members)

/-- The values of the items of a list. -/
def ofItems : List Document → List Value
  | [] => []
  | item :: items => ofDocument item :: ofItems items

/-- The values of the members of a record, behind their keys. -/
def ofMembers : List (String × Document) → List (Option String × Value)
  | [] => []
  | (key, value) :: members => (some key, ofDocument value) :: ofMembers members

end

theorem ofItems_eq_map (items : List Document) : ofItems items = items.map ofDocument := by
  induction items with
  | nil => rfl
  | cons item items ih => rw [ofItems, ih, List.map_cons]

theorem ofMembers_eq_map (members : List (String × Document)) :
    ofMembers members = members.map fun member => (some member.1, ofDocument member.2) := by
  induction members with
  | nil => rfl
  | cons member members ih => rw [ofMembers, ih, List.map_cons]

end Value

/-- Documents whose numbers are written as numbers. -/
inductive IsWritable : Document → Prop
  | bool (value : Bool) : IsWritable (.bool value)
  | number {literal : String} (isNumeral : Token.IsNumeral literal.toList) :
    IsWritable (.number literal)
  | text (value : String) : IsWritable (.text value)
  | list {items : List Document} (each : ∀ item ∈ items, IsWritable item) :
    IsWritable (.list items)
  | record {members : List (String × Document)} (each : ∀ member ∈ members, IsWritable member.2) :
    IsWritable (.record members)

theorem printItems_eq_map (depth : Nat) (items : List Document) :
    printItems depth items = items.map (print depth) := by
  induction items with
  | nil => rfl
  | cons item items ih => rw [printItems, ih, List.map_cons]

theorem printMembers_eq_map (depth : Nat) (members : List (String × Document)) :
    printMembers depth members =
      members.map fun member => quote member.1 ++ [':', ' '] ++ print depth member.2 := by
  induction members with
  | nil => rfl
  | cons member members ih => rw [printMembers, ih, List.map_cons]

theorem isSpace_blank : IsSpace [' '] := by
  simp [IsSpace, Token.isBlank]

theorem isSpace_newline (depth : Nat) : IsSpace (newline depth) := by
  intro c member
  simp only [newline, List.mem_cons, List.mem_replicate] at member
  rcases member with rfl | ⟨-, rfl⟩ <;> decide

theorem joinWith_front (front : List Char) (entry : List Char) (entries : List (List Char)) :
    front ++ Text.joinWith (',' :: front) (entry :: entries) =
      Text.joinWith [','] ((entry :: entries).map (front ++ ·)) := by
  induction entries generalizing entry with
  | nil => simp [Text.joinWith]
  | cons second entries ih =>
    have rest := ih second
    simp only [List.map_cons, Text.joinWith, List.append_assoc, List.cons_append,
      List.nil_append] at rest ⊢
    rw [rest]

/-- Each entry between brackets is written on a line of its own, and so is the closing bracket. -/
theorem exists_bracketed_eq (left right : Char) (depth : Nat) (entries : List (List Char)) :
    ∃ space, IsSpace space ∧ bracketed left right depth entries =
      left :: (Text.joinWith [','] (entries.map (newline (depth + 1) ++ ·)) ++ space ++ [right]) := by
  cases entries with
  | nil => exact ⟨[], by simp [IsSpace], rfl⟩
  | cons entry entries =>
    refine ⟨newline depth, isSpace_newline depth, ?_⟩
    rw [bracketed, joinWith_front]

/-- A member on a line of its own. -/
def writtenMember (depth : Nat) (member : String × Document) : WrittenMember where
  keyText := newline depth ++ quote member.1
  key := some member.1
  valueText := ' ' :: print depth member.2
  value := Value.ofDocument member.2

theorem print_list (depth : Nat) (items : List Document) :
    print depth (.list items) = bracketed '[' ']' depth (printItems (depth + 1) items) :=
  rfl

theorem print_record (depth : Nat) (members : List (String × Document)) :
    print depth (.record members) =
      bracketed '\x7b' '\x7d' depth (printMembers (depth + 1) members) :=
  rfl

/-- The text of a document writes the value that the document stands for. -/
theorem writes_print {document : Document} (writable : IsWritable document) (depth : Nat) :
    Writes (print depth document) (Value.ofDocument document) := by
  induction writable generalizing depth with
  | bool value =>
    cases value with
    | true => exact .bool true
    | false => exact .bool false
  | @number literal isNumeral =>
    have writes := Writes.number isNumeral
    rwa [String.ofList_toList] at writes
  | text value => exact .text (Token.isQuoted_quote value)
  | @list items _ ih =>
    obtain ⟨space, isSpace, shape⟩ :=
      exists_bracketed_eq '[' ']' depth (printItems (depth + 1) items)
    have each : ∀ entry ∈ items.map fun item =>
        (newline (depth + 1) ++ print (depth + 1) item, Value.ofDocument item),
        Writes entry.1 entry.2 :=
      List.forall_mem_map.2 fun item isItem =>
        (ih item isItem (depth + 1)).behind (isSpace_newline (depth + 1))
    have writes := Writes.list each isSpace
    rw [print_list, shape, printItems_eq_map, Value.ofDocument, Value.ofItems_eq_map]
    simpa only [List.map_map, Function.comp_def] using writes
  | @record members _ ih =>
    obtain ⟨space, isSpace, shape⟩ :=
      exists_bracketed_eq '\x7b' '\x7d' depth (printMembers (depth + 1) members)
    have keys : ∀ member ∈ members.map (writtenMember (depth + 1)),
        WritesKey member.keyText member.key :=
      List.forall_mem_map.2 fun member _ =>
        ⟨newline (depth + 1), quote member.1, [], isSpace_newline (depth + 1),
          Token.isQuoted_quote member.1, by simp [IsSpace], by simp [writtenMember]⟩
    have each : ∀ member ∈ members.map (writtenMember (depth + 1)),
        Writes member.valueText member.value :=
      List.forall_mem_map.2 fun member isMember =>
        (ih member isMember (depth + 1)).behind isSpace_blank
    have writes := Writes.record keys each isSpace
    rw [print_record, shape, printMembers_eq_map, Value.ofDocument, Value.ofMembers_eq_map]
    simpa [List.map_map, Function.comp_def, writtenMember, WrittenMember.text] using writes

/-- The whole text of a document. -/
theorem writes_render {document : Document} (writable : IsWritable document) :
    Writes (render document).toList (Value.ofDocument document) := by
  rw [render, String.toList_ofList]
  exact writes_print writable 0

/-- The text of a document is read as the value of the document. -/
theorem ofText?_render {document : Document} (writable : IsWritable document) :
    Value.ofText? (render document) = some (Value.ofDocument document) :=
  (writes_render writable).ofText?

end Json
end SchemaScaffold
