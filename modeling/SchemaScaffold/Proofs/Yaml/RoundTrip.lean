import SchemaScaffold.Proofs.Text.Bytes
import SchemaScaffold.Proofs.Yaml.Nodes
import SchemaScaffold.Yaml.Encoding

/-!
# Reading what was written

The YAML text of a document is read, from its bytes on, as one document whose root describes the
document that was written, whatever its texts and keys are.
-/

namespace SchemaScaffold
namespace Yaml

theorem shown_closing (piece : List Char) : ∀ c ∈ closing piece, isPrintable c = true := by
  unfold closing
  split <;> exact forall_mem_of_all (by decide)

theorem shown_stack (column : Nat) {pieces : List (List Char)}
    (each : ∀ piece ∈ pieces, ∀ c ∈ piece, isPrintable c = true) :
    ∀ c ∈ stack column pieces, isPrintable c = true := by
  induction pieces with
  | nil => simp [stack]
  | cons piece pieces ih =>
    obtain ⟨own, each⟩ := List.forall_mem_cons.1 each
    cases pieces with
    | nil => exact own
    | cons second pieces =>
      rw [stack_cons column piece (List.cons_ne_nil second pieces)]
      exact List.forall_mem_append.2 ⟨own, List.forall_mem_append.2 ⟨shown_closing piece,
        List.forall_mem_append.2 ⟨shown_spaces column, ih each⟩⟩⟩

theorem shown_textScalar (column : Nat) (text : String) :
    ∀ c ∈ textScalar column text, isPrintable c = true :=
  (writes_textScalar column text).shown

theorem shown_memberText {column : Nat} {member : String × Document}
    (own : ∀ compact, ∀ c ∈ printBehind column compact member.2, isPrintable c = true) :
    ∀ c ∈ memberText column member, isPrintable c = true := by
  have key := shown_textScalar (column + 2) member.1
  have behindColon (compact : Bool) :
      ∀ c ∈ ':' :: printBehind column compact member.2, isPrintable c = true :=
    List.forall_mem_cons.2 ⟨by decide, own compact⟩
  unfold memberText
  split
  · exact List.forall_mem_append.2 ⟨key, behindColon false⟩
  · refine shown_stack column (List.forall_mem_cons.2 ⟨?_, by simpa using behindColon true⟩)
    exact List.forall_mem_cons.2 ⟨by decide, List.forall_mem_cons.2 ⟨by decide, key⟩⟩

theorem shown_items {items : List Document} {column : Nat}
    (each : ∀ item ∈ items, ∀ c ∈ printBehind column true item, isPrintable c = true) :
    ∀ c ∈ stack column (printItems column items), isPrintable c = true := by
  rw [printItems_eq_map]
  exact shown_stack column (List.forall_mem_map.2 fun item member =>
    List.forall_mem_cons.2 ⟨by decide, each item member⟩)

theorem shown_members {members : List (String × Document)} {column : Nat}
    (each : ∀ member ∈ members, ∀ compact, ∀ c ∈ printBehind column compact member.2,
      isPrintable c = true) :
    ∀ c ∈ stack column (printMembers column members), isPrintable c = true := by
  rw [printMembers_eq_map]
  exact shown_stack column (List.forall_mem_map.2 fun member isMember =>
    shown_memberText (each member isMember))

/-- All characters of a printed document are shown. -/
theorem shown_printBehind {document : Document} (writable : IsWritable document)
    (column : Nat) (compact : Bool) :
    ∀ c ∈ printBehind column compact document, isPrintable c = true := by
  induction writable generalizing column compact with
  | bool value =>
    have words : (∀ c ∈ " true".toList, isPrintable c = true) ∧
        ∀ c ∈ " false".toList, isPrintable c = true :=
      ⟨forall_mem_of_all (by decide), forall_mem_of_all (by decide)⟩
    cases value with
    | true => exact words.1
    | false => exact words.2
  | number bare =>
    exact List.forall_mem_cons.2 ⟨by decide, fun c member => (bare.shown c member).1⟩
  | text value => exact List.forall_mem_cons.2 ⟨by decide, shown_textScalar _ value⟩
  | @list items _ ih =>
    have pieces (column : Nat) := shown_items fun item member => ih item member column true
    cases items with
    | nil =>
      have brackets : ∀ c ∈ [' ', '[', ']'], isPrintable c = true :=
        forall_mem_of_all (by decide)
      exact brackets
    | cons item items =>
      cases compact with
      | true => exact List.forall_mem_cons.2 ⟨by decide, pieces (column + 2)⟩
      | false =>
        exact List.forall_mem_cons.2 ⟨by decide,
          List.forall_mem_append.2 ⟨shown_spaces column, pieces column⟩⟩
  | @record members _ ih =>
    have pieces (column : Nat) := shown_members fun member isMember => ih member isMember column
    cases members with
    | nil =>
      have braces : ∀ c ∈ [' ', '\x7b', '\x7d'], isPrintable c = true :=
        forall_mem_of_all (by decide)
      exact braces
    | cons member members =>
      cases compact with
      | true => exact List.forall_mem_cons.2 ⟨by decide, pieces (column + 2)⟩
      | false =>
        exact List.forall_mem_cons.2 ⟨by decide,
          List.forall_mem_append.2 ⟨shown_spaces (column + 2), pieces (column + 2)⟩⟩

/-- The text of a document that nothing surrounds, without the break at its end. -/
def rootText : Document → List Char
  | .list (item :: items) => stack 0 (printItems 0 (item :: items))
  | .record (member :: members) => stack 0 (printMembers 0 (member :: members))
  | other => (printBehind 0 true other).drop 1

theorem render_eq (document : Document) :
    render document = String.ofList (rootText document ++ closing (rootText document)) :=
  rfl

theorem shown_rootText {document : Document} (writable : IsWritable document) :
    ∀ c ∈ rootText document, isPrintable c = true := by
  have behind := shown_printBehind writable 0 true
  unfold rootText
  split
  · cases writable with
    | list each => exact shown_items fun item member => shown_printBehind (each item member) 0 true
  · cases writable with
    | record each =>
      exact shown_members fun member isMember => shown_printBehind (each member isMember) 0
  · exact fun c member => behind c (List.mem_of_mem_drop member)

theorem shown_render {document : Document} (writable : IsWritable document) :
    ∀ c ∈ (render document).toList, isPrintable c = true := by
  rw [render_eq, String.toList_ofList]
  exact List.forall_mem_append.2 ⟨shown_rootText writable, shown_closing _⟩

/-- No text begins with a mark of the byte order. -/
theorem head_render_ne {document : Document} (writable : IsWritable document) :
    (render document).toList.head? ≠ some '\uFEFF' := fun first =>
  absurd (shown_render writable _ (List.mem_of_mem_head? first)) (by decide)

namespace Token
namespace State

variable {state : State}

/-- A scalar is read to the end of the text. -/
theorem reads_rootScalar {style : Style} {text written : List Char}
    (writes : Writes 2 style text written)
    (here : At state [] 0 true [] (written ++ closing written)) :
    ∃ behind, Reads state behind ∧ At behind [] 0 true [.scalar style text] [] := by
  have least : state.innerColumn = 0 := by rw [innerColumn, here.blocks]
  have whole : At state [] 0 true [] (written ++ (closing written ++ (spaces 0 ++ []))) := by
    simpa using here
  exact whole.value (by rwa [least]) (by simp) trivial (.inl ⟨rfl, rfl⟩)

/-- A document that nothing surrounds is read to the end of the text. -/
theorem reads_root {document : Document} (writable : IsWritable document)
    (here : At state [] 0 true [] (rootText document ++ closing (rootText document))) :
    ∃ behind columns kinds, Reads state behind ∧ At behind columns 0 true kinds [] ∧
      (∀ head ∈ columns.head?, head ≤ 0) ∧
      kinds ++ List.replicate columns.length .blockEnd = documentKinds true document := by
  have whole : At state [] 0 true []
      (rootText document ++ (closing (rootText document) ++ (spaces 0 ++ []))) := by
    simpa using here
  cases writable with
  | bool value =>
    cases value with
    | true =>
      obtain ⟨behind, reads, done⟩ := reads_rootScalar (.bare isBare_true) here
      exact ⟨behind, [], _, reads, done, by simp, rfl⟩
    | false =>
      obtain ⟨behind, reads, done⟩ := reads_rootScalar (.bare isBare_false) here
      exact ⟨behind, [], _, reads, done, by simp, rfl⟩
  | number bare =>
    obtain ⟨behind, reads, done⟩ := reads_rootScalar (.bare bare) here
    exact ⟨behind, [], _, reads, done, by simp, rfl⟩
  | text value =>
    obtain ⟨behind, reads, done⟩ := reads_rootScalar (writes_textScalar 2 value) here
    exact ⟨behind, [], _, reads, done, by simp, rfl⟩
  | @list items each =>
    cases items with
    | nil =>
      obtain ⟨behind, reads, done⟩ := At.emptyList whole (by simp) trivial
      exact ⟨behind, [], _, reads, done, by simp, rfl⟩
    | cons item items =>
      obtain ⟨middle, reads, before⟩ := reads_items
        (fun found member => readsBehind_of_isWritable (each found member)) (by simp) whole
        (by simp) trivial (Nat.le_refl 0)
      obtain ⟨behind, settled, done⟩ := before.settle trivial (by simp [opened])
      exact ⟨behind, _, _, reads.trans settled, done, by simp [opened],
        by simp [opened, opening, documentKinds]⟩
  | @record members each =>
    cases members with
    | nil =>
      obtain ⟨behind, reads, done⟩ := At.emptyRecord whole (by simp) trivial
      exact ⟨behind, [], _, reads, done, by simp, rfl⟩
    | cons member members =>
      obtain ⟨middle, reads, before⟩ := reads_members
        (fun found isMember => readsBehind_of_isWritable (each found isMember)) (by simp) whole
        (by simp) trivial (Nat.le_refl 0)
      obtain ⟨behind, settled, done⟩ := before.settle trivial (by simp [opened])
      exact ⟨behind, _, _, reads.trans settled, done, by simp [opened],
        by simp [opened, opening, documentKinds]⟩

end State
end Token

/-- The text of a document is read as its tokens. -/
theorem ofText_render {document : Document} (writable : IsWritable document) :
    ∃ tokens finish, Token.ofText (render document).toList = .ok (tokens, finish) ∧
      tokens.map (·.kind) = documentKinds true document := by
  have noMark := head_render_ne writable
  have here : Token.State.At { rest := (render document).toList } [] 0 true []
      (rootText document ++ closing (rootText document)) :=
    ⟨by rw [render_eq, String.toList_ofList], rfl, rfl, rfl, rfl, rfl, rfl, by simp, by simp⟩
  obtain ⟨behind, columns, kinds, ⟨count, short, reads⟩, done, inside, whole⟩ :=
    Token.State.reads_root writable here
  obtain ⟨last, finished, known⟩ := done.finish inside ((render document).toList.length - count)
  have enough : (render document).toList.length + 1 =
      (render document).toList.length - count + count + 1 := by
    have := short
    simp only at this
    omega
  refine ⟨last.tokens, last.place, ?_, ?_⟩
  · rw [Token.ofText]
    simp only [if_neg noMark, enough, reads, finished, bind, Except.bind, pure, Except.pure]
  · rw [← whole, ← known]
    rfl

/-- The text of a document is read as one document, whose root describes it. -/
theorem exists_ofText_render {document : Document} (writable : IsWritable document) :
    ∃ root, Tree.ofText (render document).toList = .ok (.one ⟨root, []⟩) ∧
      Describes root document := by
  obtain ⟨tokens, finish, read, kinds⟩ := ofText_render writable
  obtain ⟨root, one, describes⟩ := Tree.ofTokens_of_kinds writable kinds finish
  exact ⟨root, by simp only [Tree.ofText, read, one, bind, Except.bind], describes⟩

namespace Encoding

theorem isAllowed_of_isPrintable {c : Char} (shown : isPrintable c = true) :
    isAllowed c = true := by
  simp only [isPrintable, isAllowed, Bool.or_eq_true, Bool.and_eq_true, beq_iff_eq,
    decide_eq_true_eq] at shown ⊢
  omega

/-- Without a mark of the byte order the bytes of a text are its characters in UTF-8. -/
theorem characters?_toUTF8 {text : List Char} (noMark : text.head? ≠ some '\uFEFF') :
    characters? (String.ofList text).toUTF8 = some text := by
  have encoded := Text.toList_toUTF8 text
  have high (byte : UInt8) (more : List UInt8) (isHigh : ¬ byte.toNat < 0xFE) :
      (String.ofList text).toUTF8.toList ≠ byte :: more := by
    intro same
    cases text with
    | nil => simp at same
    | cons c rest =>
      rw [encoded, Text.bytes_cons] at same
      exact isHigh (Text.toNat_lt_of_utf8EncodeChar same)
  have marked (more : List UInt8) :
      (String.ofList text).toUTF8.toList ≠ 0xEF :: 0xBB :: 0xBF :: more := by
    intro same
    cases text with
    | nil => simp at same
    | cons c rest =>
      rw [encoded, Text.bytes_cons] at same
      exact noMark (by rw [Text.eq_mark_of_utf8EncodeChar same, List.head?_cons])
  unfold characters?
  split
  · next same => exact absurd same (high _ _ (by decide))
  · next same => exact absurd same (high _ _ (by decide))
  · next same => exact absurd same (marked _)
  · rw [Text.fromUTF8?_toUTF8, Option.map_some, String.toList_ofList]

end Encoding

/-- The bytes of a document's text are decoded as the text. -/
theorem decode_render {document : Document} (writable : IsWritable document) :
    Encoding.decode (render document).toUTF8 = .ok (render document).toList := by
  have characters := Encoding.characters?_toUTF8 (head_render_ne writable)
  rw [String.ofList_toList] at characters
  have allowed : (render document).toList.all Encoding.isAllowed = true :=
    List.all_eq_true.2 fun c member =>
      Encoding.isAllowed_of_isPrintable (shown_render writable c member)
  rw [Encoding.decode, characters]
  simp only [allowed, if_true]

end Yaml
end SchemaScaffold
