import SchemaScaffold.Proofs.Yaml.Documents
import SchemaScaffold.Yaml.Node

/-!
# Nodes of documents

The tokens of a document are read as a node that describes it, whatever tokens follow. Nothing else
changes but the number of nodes that have begun.
-/

namespace SchemaScaffold
namespace Yaml

mutual

/-- A node describes a document: it has the document's shape, texts and styles. -/
inductive Describes : Node → Document → Prop
  | bool (place : Mark) (value : Bool) :
    Describes (.scalar place .plain none (if value then "true".toList else "false".toList))
      (.bool value)
  | number (place : Mark) (literal : String) :
    Describes (.scalar place .plain none literal.toList) (.number literal)
  | text (place : Mark) (value : String) :
    Describes (.scalar place (Style.ofText value.toList) none value.toList) (.text value)
  | list (place : Mark) {items : List Node} {documents : List Document}
    (each : DescribesItems items documents) : Describes (.list place items) (.list documents)
  | record (place : Mark) {entries : List (Node × Node)} {members : List (String × Document)}
    (each : DescribesMembers entries members) : Describes (.record place entries) (.record members)

/-- Nodes describe documents one by one. -/
inductive DescribesItems : List Node → List Document → Prop
  | nil : DescribesItems [] []
  | cons {item : Node} {document : Document} {items : List Node} {documents : List Document}
    (first : Describes item document) (others : DescribesItems items documents) :
    DescribesItems (item :: items) (document :: documents)

/-- Entries describe members one by one: the keys are texts. -/
inductive DescribesMembers : List (Node × Node) → List (String × Document) → Prop
  | nil : DescribesMembers [] []
  | cons (place : Mark) (key : String) {node : Node} {document : Document}
    {entries : List (Node × Node)} {members : List (String × Document)}
    (value : Describes node document) (others : DescribesMembers entries members) :
    DescribesMembers
      ((.scalar place (Style.ofText key.toList) none key.toList, node) :: entries)
      ((key, document) :: members)

end

namespace Tree

/-- Kinds of tokens with which a node begins, of which a dash is one where lists may begin with
it. -/
def beginsNode (dashes : Bool) : TokenKind → Bool
  | .scalar _ _ | .flowListStart | .flowRecordStart | .blockListStart | .blockRecordStart => true
  | .entry => dashes
  | _ => false

theorem documentKinds_eq_cons (compact : Bool) (document : Document) :
    ∃ kind more, documentKinds compact document = kind :: more ∧
      beginsNode (!compact) kind = true := by
  rw [documentKinds.eq_def]
  split
  · exact ⟨_, _, rfl, rfl⟩
  · exact ⟨_, _, rfl, rfl⟩
  · next items some =>
    obtain ⟨item, items, rfl⟩ := List.exists_cons_of_ne_nil some
    cases compact with
    | true => exact ⟨_, _, rfl, rfl⟩
    | false => exact ⟨_, _, rfl, rfl⟩
  all_goals exact ⟨_, _, rfl, rfl⟩

variable {kind : TokenKind} {place : Mark} {dashes : Bool} {setting : Setting} {context : Context}
  {tokens rest : List Token} {fuel : Nat}

/-- Without properties a node is its content. -/
theorem readNode_begins (begins : beginsNode dashes kind = true) :
    readNode (fuel + 1) setting context (⟨kind, place⟩ :: rest) =
      readContent fuel setting place none false { context with begun := context.begun + 1 }
        (⟨kind, place⟩ :: rest) := by
  have plain : properties (⟨kind, place⟩ :: rest) = ({}, ⟨kind, place⟩ :: rest) := by
    cases kind <;> simp_all [beginsNode, properties]
  rw [readNode.eq_def]
  simp only
  split
  · next same =>
    obtain ⟨rfl, rfl⟩ := Token.mk.inj (List.cons.inj same).1
    simp [beginsNode] at begins
  · rw [plain]
    simp only [begin, bind, Except.bind, pure, Except.pure, nextPlace, Option.isSome_none,
      Bool.or_self]
    cases readContent fuel setting place none false _ _ <;> rfl

theorem readOptional_begins {ends : Option TokenKind → Bool} (goesOn : ends (some kind) = false) :
    readOptional (fuel + 1) setting ends context (⟨kind, place⟩ :: rest) =
      readNode fuel setting context (⟨kind, place⟩ :: rest) := by
  rw [readOptional]
  simp [nextKind, goesOn]

section Ends

variable (begins : beginsNode dashes kind = true)

include begins

/-- A member does not end where a node begins, and an item only ends at the dash of the next. -/
theorem endsMember_of_beginsNode : endsMember (some kind) = false := by
  cases kind <;> simp_all [beginsNode, endsMember]

theorem endsItem_of_beginsNode (noDashes : dashes = false) : endsItem (some kind) = false := by
  cases kind <;> simp_all [beginsNode, endsItem]

theorem endsDashed_of_beginsNode (noDashes : dashes = false) : endsDashed (some kind) = false := by
  cases kind <;> simp_all [beginsNode, endsDashed, endsMember]

end Ends

/-- Wherever the tokens of a document stand, they are read as a node that describes it. -/
def ReadsNode (document : Document) : Prop :=
  ∀ {compact : Bool} {tokens rest : List Token} {context : Context} {setting : Setting}
    {fuel : Nat}, tokens.map (·.kind) = documentKinds compact document → setting.block = true →
    (compact = false → setting.dashes = true ∧ nextKind rest ≠ some .entry) →
    4 * tokens.length ≤ fuel →
    ∃ node begun, readNode fuel setting context (tokens ++ rest) =
      .ok (node, { context with begun }, rest) ∧ Describes node document

/-- A node that is not missing is read. -/
theorem ReadsNode.optional {document : Document} (own : ReadsNode document) {compact : Bool}
    (kinds : tokens.map (·.kind) = documentKinds compact document) (block : setting.block = true)
    (dashed : compact = false → setting.dashes = true ∧ nextKind rest ≠ some .entry)
    (enough : 4 * tokens.length + 1 ≤ fuel) {ends : Option TokenKind → Bool}
    (goesOn : ∀ kind, beginsNode (!compact) kind = true → ends (some kind) = false) :
    ∃ node begun, readOptional fuel setting ends context (tokens ++ rest) =
      .ok (node, { context with begun }, rest) ∧ Describes node document := by
  obtain ⟨fuel, rfl⟩ := Nat.exists_eq_add_of_le' (show 1 ≤ fuel by omega)
  obtain ⟨kind, more, same, begins⟩ := documentKinds_eq_cons compact document
  obtain ⟨first, others, rfl, rfl, -⟩ := List.map_eq_cons_iff.1 (kinds.trans same)
  rw [List.cons_append, readOptional_begins (goesOn _ begins)]
  exact own kinds block dashed (by omega)

/-- The items of a block are read, and the mark of its end. -/
theorem readItems_of_kinds {items : List Document} (each : ∀ item ∈ items, ReadsNode item)
    (start : Mark) (kinds : tokens.map (·.kind) = itemKinds items ++ [.blockEnd])
    (enough : 4 * tokens.length ≤ fuel) :
    ∃ nodes begun, readItems fuel start context (tokens ++ rest) =
      .ok (nodes, { context with begun }, rest) ∧ DescribesItems nodes items := by
  induction items generalizing tokens context fuel with
  | nil =>
    obtain ⟨⟨_, place⟩, others, rfl, rfl, ends⟩ := List.map_eq_cons_iff.1 kinds
    obtain rfl := List.map_eq_nil_iff.1 ends
    obtain ⟨fuel, rfl⟩ := Nat.exists_eq_add_of_le' (show 1 ≤ fuel by simp at enough; omega)
    exact ⟨[], context.begun, by simp [readItems], .nil⟩
  | cons item items ih =>
    obtain ⟨own, each⟩ := List.forall_mem_cons.1 each
    rw [itemKinds, List.cons_append, List.cons_append, List.append_assoc] at kinds
    obtain ⟨⟨_, place⟩, behind, rfl, rfl, behindDash⟩ := List.map_eq_cons_iff.1 kinds
    obtain ⟨first, others, rfl, firstKinds, later⟩ := List.map_eq_append_iff.1 behindDash
    simp only [List.length_cons, List.length_append] at enough
    obtain ⟨fuel, rfl⟩ := Nat.exists_eq_add_of_le' (show 1 ≤ fuel by omega)
    obtain ⟨node, begun, read, describes⟩ := @ReadsNode.optional .inBlock context first
      (others ++ rest) fuel item own true firstKinds rfl (by simp) (by omega) endsItem
      (fun _ begins => endsItem_of_beginsNode begins rfl)
    obtain ⟨nodes, last, readMore, describesMore⟩ :=
      @ih { context with begun } others fuel each later (by omega)
    refine ⟨node :: nodes, last, ?_, .cons describes describesMore⟩
    rw [List.cons_append, List.append_assoc, readItems]
    simp only [bind, Except.bind, pure, Except.pure, read, readMore]

/-- The items of a list without marks of its own are read, up to what is no dash. -/
theorem readDashed_of_kinds {items : List Document} (each : ∀ item ∈ items, ReadsNode item)
    (kinds : tokens.map (·.kind) = itemKinds items) (behind : nextKind rest ≠ some .entry)
    (enough : 4 * tokens.length ≤ fuel + 2) :
    ∃ nodes begun, readDashed fuel context (tokens ++ rest) =
      .ok (nodes, { context with begun }, rest) ∧ DescribesItems nodes items := by
  induction items generalizing tokens context fuel with
  | nil =>
    obtain rfl := List.map_eq_nil_iff.1 kinds
    refine ⟨[], context.begun, ?_, .nil⟩
    cases fuel with
    | zero => simp [readDashed]
    | succ fuel =>
      rw [List.nil_append, readDashed.eq_def]
      simp only
      split
      · simp [nextKind] at behind
      · rfl
  | cons item items ih =>
    obtain ⟨own, each⟩ := List.forall_mem_cons.1 each
    rw [itemKinds, List.cons_append] at kinds
    obtain ⟨⟨_, place⟩, behind, rfl, rfl, behindDash⟩ := List.map_eq_cons_iff.1 kinds
    obtain ⟨first, others, rfl, firstKinds, later⟩ := List.map_eq_append_iff.1 behindDash
    simp only [List.length_cons, List.length_append] at enough
    obtain ⟨fuel, rfl⟩ := Nat.exists_eq_add_of_le' (show 1 ≤ fuel by omega)
    have positive : 0 < first.length := by
      obtain ⟨kind, more, same, -⟩ := documentKinds_eq_cons true item
      have length := congrArg List.length firstKinds
      rw [same, List.length_map, List.length_cons] at length
      omega
    obtain ⟨node, begun, read, describes⟩ := @ReadsNode.optional .inBlock context first
      (others ++ rest) fuel item own true firstKinds rfl (by simp) (by omega) endsDashed
      (fun _ begins => endsDashed_of_beginsNode begins rfl)
    obtain ⟨nodes, last, readMore, describesMore⟩ :=
      @ih { context with begun } others fuel each later (by omega)
    refine ⟨node :: nodes, last, ?_, .cons describes describesMore⟩
    rw [List.cons_append, List.append_assoc, readDashed]
    simp only [bind, Except.bind, pure, Except.pure, read, readMore]

/-- A key is read as a scalar. -/
theorem readKey (style : Style) (text : List Char) :
    readOptional (fuel + 3) .inRecord endsMember context (⟨.scalar style text, place⟩ :: rest) =
      .ok (.scalar place style none text, { context with begun := context.begun + 1 }, rest) := by
  rw [readOptional_begins rfl, @readNode_begins _ _ false _ _ _ _ rfl, readContent]

/-- What stands behind the value of a member: the next key, or the mark of the record's end. -/
theorem nextKind_memberKinds {members : List (String × Document)} {others : List Token}
    (kinds : others.map (·.kind) = memberKinds members ++ [.blockEnd]) (rest : List Token) :
    nextKind (others ++ rest) ≠ some .entry := by
  cases others with
  | nil => cases members <;> simp [memberKinds] at kinds
  | cons token others =>
    cases members <;> simp only [memberKinds, List.map_cons, List.cons_append, List.nil_append,
      List.cons.injEq] at kinds <;> simp [nextKind, kinds.1]

/-- The members of a block are read, and the mark of its end. -/
theorem readMembers_of_kinds {members : List (String × Document)}
    (each : ∀ member ∈ members, ReadsNode member.2) (start : Mark)
    (kinds : tokens.map (·.kind) = memberKinds members ++ [.blockEnd])
    (enough : 4 * tokens.length ≤ fuel) :
    ∃ entries begun, readMembers fuel start context (tokens ++ rest) =
      .ok (entries, { context with begun }, rest) ∧ DescribesMembers entries members := by
  induction members generalizing tokens context fuel with
  | nil =>
    obtain ⟨⟨_, place⟩, others, rfl, rfl, ends⟩ := List.map_eq_cons_iff.1 kinds
    obtain rfl := List.map_eq_nil_iff.1 ends
    obtain ⟨fuel, rfl⟩ := Nat.exists_eq_add_of_le' (show 1 ≤ fuel by simp at enough; omega)
    exact ⟨[], context.begun, by simp [readMembers], .nil⟩
  | cons member members ih =>
    obtain ⟨key, value⟩ := member
    obtain ⟨own, each⟩ := List.forall_mem_cons.1 each
    rw [memberKinds] at kinds
    simp only [List.cons_append, List.append_assoc] at kinds
    obtain ⟨⟨_, keyMark⟩, behind, rfl, rfl, behindMark⟩ := List.map_eq_cons_iff.1 kinds
    obtain ⟨⟨_, place⟩, behind, rfl, rfl, behindKey⟩ := List.map_eq_cons_iff.1 behindMark
    obtain ⟨⟨_, valueMark⟩, behind, rfl, rfl, behindColon⟩ := List.map_eq_cons_iff.1 behindKey
    obtain ⟨first, others, rfl, firstKinds, later⟩ := List.map_eq_append_iff.1 behindColon
    simp only [List.length_cons, List.length_append] at enough
    obtain ⟨fuel, rfl⟩ := Nat.exists_eq_add_of_le' (show 4 ≤ fuel by omega)
    obtain ⟨node, begun, read, describes⟩ := @ReadsNode.optional .inRecord
      { context with begun := context.begun + 1 } first (others ++ rest) (fuel + 2) value own
      (!isSimpleKey key) firstKinds rfl (fun _ => ⟨rfl, nextKind_memberKinds later rest⟩) (by omega)
      endsMember (fun _ begins => endsMember_of_beginsNode begins)
    obtain ⟨entries, last, readMore, describesMore⟩ :=
      @ih { context with begun } others (fuel + 3) each later (by omega)
    refine ⟨_ :: entries, last, ?_, .cons place key describes describesMore⟩
    rw [List.cons_append, List.cons_append, List.cons_append, List.append_assoc, readMembers]
    simp only [bind, Except.bind, pure, Except.pure, readKey, readValue, read, readMore]

/-- Between brackets without anything in them nothing is read. -/
theorem readFlowItems_nil (start place : Mark) :
    readFlowItems (fuel + 1) start true context (⟨.flowListEnd, place⟩ :: rest) =
      .ok ([], context, rest) := by
  rw [readFlowItems]

theorem readFlowMembers_nil (start place : Mark) :
    readFlowMembers (fuel + 1) start true context (⟨.flowRecordEnd, place⟩ :: rest) =
      .ok ([], context, rest) := by
  rw [readFlowMembers]

/-- A scalar is read as it is. -/
theorem readsNode_scalar {document : Document} {style : Style} {text : List Char}
    (own : ∀ compact, documentKinds compact document = [.scalar style text])
    (describes : ∀ place, Describes (.scalar place style none text) document) :
    ReadsNode document := by
  intro compact tokens rest context setting fuel kinds _ _ enough
  rw [own] at kinds
  obtain ⟨⟨_, place⟩, others, rfl, rfl, ends⟩ := List.map_eq_cons_iff.1 kinds
  obtain rfl := List.map_eq_nil_iff.1 ends
  obtain ⟨fuel, rfl⟩ := Nat.exists_eq_add_of_le' (show 2 ≤ fuel by simp at enough; omega)
  refine ⟨_, context.begun + 1, ?_, describes place⟩
  rw [List.singleton_append, @readNode_begins _ _ false _ _ _ _ rfl, readContent]

/-- A list without items is read between its brackets. -/
theorem readsNode_emptyList : ReadsNode (.list []) := by
  intro compact tokens rest context setting fuel kinds _ _ enough
  obtain ⟨⟨_, place⟩, others, rfl, rfl, last⟩ := List.map_eq_cons_iff.1 kinds
  obtain ⟨⟨_, lastPlace⟩, others, rfl, rfl, ends⟩ := List.map_eq_cons_iff.1 last
  obtain rfl := List.map_eq_nil_iff.1 ends
  obtain ⟨fuel, rfl⟩ := Nat.exists_eq_add_of_le' (show 3 ≤ fuel by simp at enough; omega)
  refine ⟨.list place [], context.begun + 1, ?_, .list place .nil⟩
  rw [List.cons_append, List.singleton_append, @readNode_begins _ _ false _ _ _ _ rfl, readContent,
    readFlowItems_nil]
  rfl

/-- A record without members is read between its brackets. -/
theorem readsNode_emptyRecord : ReadsNode (.record []) := by
  intro compact tokens rest context setting fuel kinds _ _ enough
  obtain ⟨⟨_, place⟩, others, rfl, rfl, last⟩ := List.map_eq_cons_iff.1 kinds
  obtain ⟨⟨_, lastPlace⟩, others, rfl, rfl, ends⟩ := List.map_eq_cons_iff.1 last
  obtain rfl := List.map_eq_nil_iff.1 ends
  obtain ⟨fuel, rfl⟩ := Nat.exists_eq_add_of_le' (show 3 ≤ fuel by simp at enough; omega)
  refine ⟨.record place [], context.begun + 1, ?_, .record place .nil⟩
  rw [List.cons_append, List.singleton_append, @readNode_begins _ _ false _ _ _ _ rfl, readContent,
    readFlowMembers_nil]
  rfl

/-- A list is read with marks of its own, or up to what is no dash. -/
theorem readsNode_list {item : Document} {items : List Document}
    (each : ∀ found ∈ item :: items, ReadsNode found) : ReadsNode (.list (item :: items)) := by
  intro compact tokens rest context setting fuel kinds block dashed enough
  cases compact with
  | true =>
    have own : documentKinds true (.list (item :: items)) =
        .blockListStart :: (itemKinds (item :: items) ++ [.blockEnd]) := rfl
    rw [own] at kinds
    obtain ⟨⟨_, place⟩, others, rfl, rfl, inside⟩ := List.map_eq_cons_iff.1 kinds
    rw [List.length_cons] at enough
    obtain ⟨fuel, rfl⟩ := Nat.exists_eq_add_of_le' (show 2 ≤ fuel by omega)
    obtain ⟨nodes, begun, read, describes⟩ := @readItems_of_kinds
      { context with begun := context.begun + 1 } others rest fuel _ each place inside (by omega)
    refine ⟨.list place nodes, begun, ?_, .list place describes⟩
    rw [List.cons_append, @readNode_begins _ _ false _ _ _ _ rfl, readContent, if_pos block, read]
    rfl
  | false =>
    obtain ⟨dashes, behind⟩ := dashed rfl
    have own : documentKinds false (.list (item :: items)) = itemKinds (item :: items) := rfl
    rw [own] at kinds
    obtain ⟨⟨_, place⟩, others, rfl, rfl, -⟩ := List.map_eq_cons_iff.1 kinds
    obtain ⟨fuel, rfl⟩ := Nat.exists_eq_add_of_le' (show 2 ≤ fuel by simp at enough; omega)
    obtain ⟨nodes, begun, read, describes⟩ := @readDashed_of_kinds
      { context with begun := context.begun + 1 } (⟨.entry, place⟩ :: others) rest fuel _ each kinds
      behind (by omega)
    refine ⟨.list place nodes, begun, ?_, .list place describes⟩
    rw [List.cons_append] at read ⊢
    rw [@readNode_begins _ _ true _ _ _ _ rfl, readContent, if_pos dashes, read]
    rfl

/-- A record is read with the marks of its block. -/
theorem readsNode_record {member : String × Document} {members : List (String × Document)}
    (each : ∀ found ∈ member :: members, ReadsNode found.2) :
    ReadsNode (.record (member :: members)) := by
  intro compact tokens rest context setting fuel kinds block _ enough
  have own : documentKinds compact (.record (member :: members)) =
      .blockRecordStart :: (memberKinds (member :: members) ++ [.blockEnd]) := rfl
  rw [own] at kinds
  obtain ⟨⟨_, place⟩, others, rfl, rfl, inside⟩ := List.map_eq_cons_iff.1 kinds
  rw [List.length_cons] at enough
  obtain ⟨fuel, rfl⟩ := Nat.exists_eq_add_of_le' (show 2 ≤ fuel by omega)
  obtain ⟨entries, begun, read, describes⟩ := @readMembers_of_kinds
    { context with begun := context.begun + 1 } others rest fuel _ each place inside (by omega)
  refine ⟨.record place entries, begun, ?_, .record place describes⟩
  rw [List.cons_append, @readNode_begins _ _ false _ _ _ _ rfl, readContent, if_pos block, read]
  rfl

/-- The tokens of a document are read as a node that describes it. -/
theorem readsNode_of_isWritable {document : Document} (writable : IsWritable document) :
    ReadsNode document := by
  induction writable with
  | bool value =>
    cases value with
    | true => exact readsNode_scalar (fun _ => rfl) fun place => .bool place true
    | false => exact readsNode_scalar (fun _ => rfl) fun place => .bool place false
  | @number literal _ => exact readsNode_scalar (fun _ => rfl) fun place => .number place literal
  | text value => exact readsNode_scalar (fun _ => rfl) fun place => .text place value
  | @list items _ ih =>
    cases items with
    | nil => exact readsNode_emptyList
    | cons item items => exact readsNode_list ih
  | @record members _ ih =>
    cases members with
    | nil => exact readsNode_emptyRecord
    | cons member members => exact readsNode_record ih

/-- Tokens of a document, and of nothing else, are a text with one document. -/
theorem ofTokens_of_kinds {document : Document} (writable : IsWritable document)
    (kinds : tokens.map (·.kind) = documentKinds true document) (finish : Mark) :
    ∃ root, ofTokens tokens finish = .ok (.one ⟨root, []⟩) ∧ Describes root document := by
  obtain ⟨kind, more, same, begins⟩ := documentKinds_eq_cons true document
  obtain ⟨⟨first, place⟩, others, rfl, isKind, -⟩ := List.map_eq_cons_iff.1 (kinds.trans same)
  obtain rfl : kind = first := isKind.symm
  obtain ⟨root, begun, read, describes⟩ := @readsNode_of_isWritable document writable true
    (⟨kind, place⟩ :: others) [] ⟨commonHandles, [], 0, [], finish⟩ .inBlock
    (4 * (⟨kind, place⟩ :: others).length + 4) kinds rfl (by simp) (by omega)
  rw [List.append_nil] at read
  have noDirectives : directives false [] (⟨kind, place⟩ :: others) =
      .ok ([], ⟨kind, place⟩ :: others) := by
    cases kind <;> simp_all [beginsNode, directives]
  have opened : readDocument true finish (⟨kind, place⟩ :: others) =
      .ok (⟨root, []⟩, []) := by
    have bare : readRoot false ⟨commonHandles, [], 0, [], finish⟩ (⟨kind, place⟩ :: others) =
        .ok (⟨root, []⟩, []) := by
      simp only [readRoot, read, bind, Except.bind, pure, Except.pure]
      simp [anchorTable]
    rw [readDocument, noDirectives]
    cases kind <;> simp_all [beginsNode, nextKind, isDirective, bind, Except.bind]
  refine ⟨root, ?_, describes⟩
  simp [ofTokens, opened, bind, Except.bind, pure, Except.pure]

end Tree
end Yaml
end SchemaScaffold
