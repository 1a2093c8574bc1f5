import SchemaScaffold.Proofs.Document.Members
import SchemaScaffold.Proofs.Yaml.RoundTrip
import SchemaScaffold.Yaml.Reader

/-!
# Documents that come back

The text of a document is read as the same document, if the keys of each record are apart, numbers
are written as they are read, and lists and records do not stand in one another too deep. Texts
come back whatever they are, as keys and as values.
-/

namespace SchemaScaffold
namespace Yaml

/-- Documents that come back from their text, where lists and records stand in one another no
deeper than a given depth. -/
inductive IsReadable : Nat → Document → Prop
  | bool (depth : Nat) (value : Bool) : IsReadable depth (.bool value)
  | number (depth : Nat) {literal : String} (bare : IsBare literal.toList)
    (own : ofScalar? .plain none literal.toList = some (.number literal)) :
    IsReadable depth (.number literal)
  | text (depth : Nat) (value : String) : IsReadable depth (.text value)
  | list {depth : Nat} {items : List Document} (each : ∀ item ∈ items, IsReadable depth item) :
    IsReadable (depth + 1) (.list items)
  | record {depth : Nat} {members : List (String × Document)}
    (apart : (members.map (·.1)).Nodup) (each : ∀ member ∈ members, IsReadable depth member.2) :
    IsReadable (depth + 1) (.record members)

theorem IsReadable.isWritable {depth : Nat} {document : Document}
    (readable : IsReadable depth document) : IsWritable document := by
  induction readable with
  | bool _ value => exact .bool value
  | number _ bare => exact .number bare
  | text _ value => exact .text value
  | list _ ih => exact .list ih
  | record _ _ ih => exact .record ih

section Parts

variable {depth : Nat}

@[simp] theorem isReadable_bool (value : Bool) : IsReadable depth (.bool value) :=
  .bool depth value

@[simp] theorem isReadable_text (value : String) : IsReadable depth (.text value) :=
  .text depth value

@[simp] theorem isReadable_list {items : List Document} :
    IsReadable (depth + 1) (.list items) ↔ ∀ item ∈ items, IsReadable depth item := by
  constructor
  · rintro ⟨⟩
    assumption
  · exact .list

@[simp] theorem isReadable_record {members : List (String × Document)} :
    IsReadable (depth + 1) (.record members) ↔
      (members.map (·.1)).Nodup ∧ ∀ member ∈ members, IsReadable depth member.2 := by
  constructor
  · rintro ⟨⟩
    exact ⟨by assumption, by assumption⟩
  · exact fun ⟨apart, each⟩ => .record apart each

/-- A record that is set member by member has its keys apart. -/
theorem isReadable_ofEntries {entries : List (String × Document)}
    (each : ∀ entry ∈ entries, IsReadable depth entry.2) :
    IsReadable (depth + 1) (Document.ofEntries entries) :=
  .record (Document.nodup_keys_ofEntries entries)
    fun member inRecord => each member (Document.mem_of_mem_members inRecord)

theorem isReadable_texts (values : List String) :
    IsReadable (depth + 1) (Document.texts values) := by
  simp [Document.texts]

end Parts

/-- A text is written without quotes only if it is read as itself. -/
theorem not_isAmbiguous_of_plain {text : List Char} (plain : Style.ofText text = .plain) :
    Plain.isAmbiguous text = false := by
  unfold Style.ofText at plain
  split at plain
  · split at plain <;> simp at plain
  · split at plain
    · next allowed => simp_all
    · split at plain <;> simp at plain

/-- A text is read as itself in the style in which it is written. -/
theorem ofScalar?_ofText (value : String) :
    ofScalar? (Style.ofText value.toList) none value.toList = some (.text value) := by
  by_cases plain : Style.ofText value.toList = .plain
  · have meaning := Plain.meaning_of_not_isAmbiguous (not_isAmbiguous_of_plain plain)
    simp [ofScalar?, plain, meaning]
  · simp [ofScalar?, plain]

example : ofScalar? .plain none "200".toList = some (.number "200") ∧
    ofScalar? (Style.ofText "200".toList) none "200".toList = some (.text "200") :=
  ⟨rfl, rfl⟩

theorem ofScalar?_bool (value : Bool) :
    ofScalar? .plain none (if value then "true".toList else "false".toList) =
      some (.bool value) := by
  cases value <;> rfl

namespace Tree

variable {tree : Tree}

theorem document?_scalar (depth : Nat) (place : Mark) (style : Style) (tag : Option (List Char))
    (text : List Char) :
    tree.document? depth (.scalar place style tag text) = ofScalar? style tag text := by
  cases depth <;> rfl

/-- Items that are read one by one are read as a list. -/
theorem mapM_of_describesItems {depth : Nat} {items : List Node} {documents : List Document}
    (each : ∀ document ∈ documents, ∀ node, Describes node document →
      tree.document? depth node = some document)
    (described : DescribesItems items documents) :
    items.mapM (tree.document? depth) = some documents := by
  induction documents generalizing items with
  | nil =>
    cases described
    rfl
  | cons document documents ih =>
    cases described with
    | cons first others =>
      rw [List.forall_mem_cons] at each
      simp [List.mapM_cons, each.1 _ first, ih each.2 others]

/-- Entries that are read one by one are read as members, with their texts as keys. -/
theorem mapM_of_describesMembers {depth : Nat} {entries : List (Node × Node)}
    {members : List (String × Document)}
    (each : ∀ member ∈ members, ∀ node, Describes node member.2 →
      tree.document? depth node = some member.2)
    (described : DescribesMembers entries members) :
    entries.mapM (member? (tree.document? depth)) = some members := by
  induction members generalizing entries with
  | nil =>
    cases described
    rfl
  | cons member members ih =>
    cases described with
    | cons place key value others =>
      rw [List.forall_mem_cons] at each
      have read := each.1 _ value
      simp [List.mapM_cons, member?, document?_scalar, ofScalar?_ofText, key?, read,
        ih each.2 others]

/-- A node that describes a document denotes it. -/
theorem document?_of_describes {depth : Nat} {document : Document}
    (readable : IsReadable depth document) {node : Node} (described : Describes node document) :
    tree.document? depth node = some document := by
  induction readable generalizing node with
  | bool depth value =>
    cases described
    rw [document?_scalar, ofScalar?_bool]
  | number depth _ own =>
    cases described
    rw [document?_scalar, own]
  | text depth value =>
    cases described
    rw [document?_scalar, ofScalar?_ofText]
  | list _ ih =>
    cases described with
    | list place each =>
      have read := mapM_of_describesItems (fun item member node => @ih item member node) each
      simp [document?, target?, read]
  | record apart _ ih =>
    cases described with
    | record place each =>
      have read := mapM_of_describesMembers (fun found member node => @ih found member node) each
      simp only [document?, target?, read, Option.bind_eq_bind, Option.bind_some, if_pos apart]

end Tree

/-- The bytes of a document's text are read as the document. -/
theorem ofBytes?_render {document : Document} (readable : IsReadable maxDepth document) :
    ofBytes? (render document).toUTF8 = some document := by
  obtain ⟨root, read, described⟩ := exists_ofText_render readable.isWritable
  simp only [ofBytes?, decode_render readable.isWritable, bind, Except.bind, read]
  exact Tree.document?_of_describes readable described

end Yaml
end SchemaScaffold
