import SchemaScaffold.Proofs.Yaml.Marks

/-!
# Tokens of documents

The text of a document is read as the tokens of the document, wherever it stands. The induction is
on the document; what it carries is the innermost open block, and that the line behind the text is
not indented more than that block.
-/

namespace SchemaScaffold
namespace Yaml

mutual

/-- The kinds of the tokens of a document. A list that is not `compact` stands at the column of the
record around it, and then it has no marks of its own. -/
def documentKinds (compact : Bool) : Document → List TokenKind
  | .list [] => [.flowListStart, .flowListEnd]
  | .record [] => [.flowRecordStart, .flowRecordEnd]
  | .list items =>
    if compact then .blockListStart :: itemKinds items ++ [.blockEnd] else itemKinds items
  | .record members => .blockRecordStart :: memberKinds members ++ [.blockEnd]
  | .bool true => [.scalar .plain "true".toList]
  | .bool false => [.scalar .plain "false".toList]
  | .number literal => [.scalar .plain literal.toList]
  | .text value => [.scalar (Style.ofText value.toList) value.toList]

/-- The kinds of the tokens of items. -/
def itemKinds : List Document → List TokenKind
  | [] => []
  | item :: items => .entry :: documentKinds true item ++ itemKinds items

/-- The kinds of the tokens of members. -/
def memberKinds : List (String × Document) → List TokenKind
  | [] => []
  | (key, value) :: members =>
    .key :: .scalar (Style.ofText key.toList) key.toList :: .value ::
      documentKinds (!isSimpleKey key) value ++ memberKinds members

end

/-- Documents whose numbers are written as bare scalars. -/
inductive IsWritable : Document → Prop
  | bool (value : Bool) : IsWritable (.bool value)
  | number {literal : String} (bare : IsBare literal.toList) : IsWritable (.number literal)
  | text (value : String) : IsWritable (.text value)
  | list {items : List Document} (each : ∀ item ∈ items, IsWritable item) :
    IsWritable (.list items)
  | record {members : List (String × Document)} (each : ∀ member ∈ members, IsWritable member.2) :
    IsWritable (.record members)

theorem isBare_true : IsBare "true".toList := by
  exact ⟨by decide, by decide, forall_mem_of_all (by decide), by decide, by decide⟩

theorem isBare_false : IsBare "false".toList := by
  exact ⟨by decide, by decide, forall_mem_of_all (by decide), by decide, by decide⟩

theorem closing_append {back : List Char} (nonempty : back ≠ []) (front : List Char) :
    closing (front ++ back) = closing back := by
  rcases List.eq_nil_or_concat back with rfl | ⟨start, c, rfl⟩
  · exact absurd rfl nonempty
  · rw [List.concat_eq_append, ← List.append_assoc, closing_concat, closing_concat]

theorem closing_cons {back : List Char} (nonempty : back ≠ []) (c : Char) :
    closing (c :: back) = closing back :=
  closing_append nonempty [c]

theorem stack_cons (column : Nat) (piece : List Char) {pieces : List (List Char)}
    (more : pieces ≠ []) :
    stack column (piece :: pieces) =
      piece ++ (closing piece ++ (spaces column ++ stack column pieces)) := by
  cases pieces with
  | nil => exact absurd rfl more
  | cons second pieces => simp [stack, closing]

theorem exists_stack_eq (column : Nat) (piece : List Char) (pieces : List (List Char)) :
    ∃ more, stack column (piece :: pieces) = piece ++ more := by
  cases pieces with
  | nil => exact ⟨[], (List.append_nil piece).symm⟩
  | cons second pieces => exact ⟨_, stack_cons column piece (by simp)⟩

/-- What stands behind a mark begins with a space or on a new line. -/
theorem startsBlank_printBehind (column : Nat) (compact : Bool) (document : Document)
    (rest : List Char) : startsBlank (printBehind column compact document ++ rest) = true := by
  rw [printBehind.eq_def]
  split <;> (try split) <;> simp [startsBlank, isBlank, isBreak]

theorem printBehind_ne_nil (column : Nat) (compact : Bool) (document : Document) :
    printBehind column compact document ≠ [] := by
  rw [printBehind.eq_def]
  split <;> (try split) <;> simp

theorem length_le_utf8ByteSize (text : List Char) :
    text.length ≤ (String.ofList text).utf8ByteSize := by
  induction text with
  | nil => simp
  | cons c rest ih =>
    have positive := c.utf8Size_pos
    rw [String.ofList_cons, String.utf8ByteSize_append, String.utf8ByteSize_singleton,
      List.length_cons]
    omega

/-- A simple key is written on one line, and not as a block. -/
theorem inline_of_isSimpleKey {key : String} (simpleKey : isSimpleKey key = true) (column : Nat) :
    Style.ofText key.toList ≠ .literal ∧ Token.State.IsInline (textScalar column key) := by
  simp only [isSimpleKey, Bool.and_eq_true, List.all_eq_true, Bool.not_eq_true',
    decide_eq_true_eq] at simpleKey
  obtain ⟨inside, short⟩ := simpleKey
  have noFeed : key.toList.contains '\n' = false := by
    simpa using fun member => absurd (inside '\n' member) (by decide)
  have noBlock : Style.ofText key.toList ≠ .literal := by
    rw [Style.ofText, noFeed]
    simp only [Bool.false_eq_true, ↓reduceIte]
    split
    · simp
    · split <;> simp
  have length := length_le_utf8ByteSize key.toList
  rw [String.ofList_toList] at length
  exact ⟨noBlock,
    Token.State.isInline_of_writes (writes_textScalar column key) noBlock inside (by omega)⟩

/-- A member of a record at a column. -/
def memberText (column : Nat) (member : String × Document) : List Char :=
  if isSimpleKey member.1 then
    textScalar (column + 2) member.1 ++ ':' :: printBehind column false member.2
  else
    below column ('?' :: ' ' :: textScalar (column + 2) member.1)
      (':' :: printBehind column true member.2)

/-- The kinds of the tokens of a member. -/
def entryKinds (member : String × Document) : List TokenKind :=
  .key :: .scalar (Style.ofText member.1.toList) member.1.toList :: .value ::
    documentKinds (!isSimpleKey member.1) member.2

theorem printItems_eq_map (column : Nat) (items : List Document) :
    printItems column items = items.map fun item => '-' :: printBehind column true item := by
  induction items with
  | nil => rfl
  | cons item items ih => rw [printItems, ih, List.map_cons]

theorem printMembers_eq_map (column : Nat) (members : List (String × Document)) :
    printMembers column members = members.map (memberText column) := by
  induction members with
  | nil => rfl
  | cons member members ih =>
    rw [printMembers, ih, List.map_cons]
    rfl

theorem itemKinds_eq_flatMap (items : List Document) :
    itemKinds items = items.flatMap fun item => .entry :: documentKinds true item := by
  induction items with
  | nil => rfl
  | cons item items ih => rw [itemKinds, ih, List.flatMap_cons]

theorem memberKinds_eq_flatMap (members : List (String × Document)) :
    memberKinds members = members.flatMap entryKinds := by
  induction members with
  | nil => rfl
  | cons member members ih =>
    rw [memberKinds, ih, List.flatMap_cons]
    rfl

namespace Token
namespace State

/-! ## Values -/

/-- Wherever a document is written behind a mark, it is read as its tokens. -/
def ReadsBehind (document : Document) : Prop :=
  ∀ {state : State} {outer : List Nat} {inner column count : Nat} {allowed compact : Bool}
    {kinds : List TokenKind} {next : List Char},
    At state (inner :: outer) column allowed kinds (printBehind inner compact document ++
      (closing (printBehind inner compact document) ++ (spaces count ++ next))) →
    inner < column → (compact = true → column = inner + 1 ∧ allowed = true) →
    BeginsToken next → count ≤ inner →
    ∃ behind, Reads state behind ∧
      Before behind (inner :: outer) count (kinds ++ documentKinds compact document) next

variable {state : State} {columns outer : List Nat} {inner column count : Nat}
  {allowed : Bool} {kinds : List TokenKind} {next : List Char}

theorem At.innerColumn (here : At state (inner :: outer) column allowed kinds next) :
    state.innerColumn = inner + 1 := by
  rw [State.innerColumn, here.blocks]

/-- A scalar is read behind a space. -/
theorem At.spacedScalar {style : Style} {text written : List Char}
    (here : At state (inner :: outer) column allowed kinds
      (' ' :: (written ++ (closing written ++ (spaces count ++ next)))))
    (writes : Writes (inner + 2) style text written) (inside : inner < column)
    (begins : BeginsToken next) (outside : count ≤ inner) :
    ∃ behind, Reads state behind ∧
      At behind (inner :: outer) count true (kinds ++ [.scalar style text]) next := by
  obtain ⟨c, rest, same, starts⟩ :=
    beginsToken_of_writes writes (closing written ++ (spaces count ++ next))
  have spaced : At state (inner :: outer) column allowed kinds
      (spaces 1 ++ (written ++ (closing written ++ (spaces count ++ next)))) := here
  obtain ⟨first, passed, settled⟩ := spaced.passSpaces (by rw [same]; exact starts)
  have least := settled.innerColumn
  obtain ⟨behind, reads, done⟩ := settled.value (by rwa [least]) (by simp; omega) begins
    (.inr (by omega))
  exact ⟨behind, passed.trans reads, done⟩

theorem exists_opened (inside : ∀ head ∈ columns.head?, head ≤ inner) :
    ∃ outer, opened columns inner = inner :: outer := by
  cases columns with
  | nil => exact ⟨[], rfl⟩
  | cons head columns =>
    rcases Nat.lt_or_eq_of_le (inside head rfl) with less | rfl
    · exact ⟨head :: columns, opened_of_outside (by simpa using less)⟩
    · exact ⟨columns, opened_self columns head⟩

/-- A piece of text at a column is read as tokens, behind the mark of its block. -/
structure ReadsPiece (inner : Nat) (start : TokenKind) (piece : List Char) (own : List TokenKind) :
    Prop where
  nonempty : piece ≠ []
  begins : ∀ rest, BeginsToken (piece ++ rest)
  reads : ∀ {state : State} {columns : List Nat} {count : Nat} {kinds : List TokenKind}
    {next : List Char},
    At state columns inner true kinds (piece ++ (closing piece ++ (spaces count ++ next))) →
    (∀ head ∈ columns.head?, head ≤ inner) → BeginsToken next → count ≤ inner →
    ∃ behind, Reads state behind ∧ Before behind (opened columns inner) count
      (kinds ++ opening columns inner start ++ own) next

/-- Pieces are read one after another, each on lines of its own. -/
theorem reads_stack {α : Type} {start : TokenKind} {text : α → List Char}
    {own : α → List TokenKind} {entries : List α}
    (each : ∀ entry ∈ entries, ReadsPiece inner start (text entry) (own entry))
    (further : entries ≠ []) (here : At state columns inner true kinds
      (stack inner (entries.map text) ++
        (closing (stack inner (entries.map text)) ++ (spaces count ++ next))))
    (inside : ∀ head ∈ columns.head?, head ≤ inner) (begins : BeginsToken next)
    (outside : count ≤ inner) :
    ∃ behind, Reads state behind ∧ Before behind (opened columns inner) count
      (kinds ++ opening columns inner start ++ entries.flatMap own) next := by
  induction entries generalizing state columns kinds with
  | nil => exact absurd rfl further
  | cons entry entries ih =>
    obtain ⟨first, each⟩ := List.forall_mem_cons.1 each
    cases entries with
    | nil =>
      obtain ⟨behind, reads, done⟩ := first.reads here inside begins outside
      exact ⟨behind, reads, by simpa using done⟩
    | cons second entries =>
      -- The next piece is at the column of the block, which stays open behind the first.
      have later := each second List.mem_cons_self
      obtain ⟨outer, block⟩ := exists_opened inside
      obtain ⟨more, following⟩ := exists_stack_eq inner (text second) (entries.map text)
      have nonempty : stack inner (text second :: entries.map text) ≠ [] := by
        simp [following, later.nonempty]
      have stacked := stack_cons inner (text entry)
        (List.cons_ne_nil (text second) (entries.map text))
      rw [List.map_cons, List.map_cons, stacked, closing_append (by simp [nonempty]),
        closing_append (by simp [nonempty]), closing_append nonempty] at here
      simp only [List.append_assoc] at here
      have starts : BeginsToken (stack inner (text second :: entries.map text) ++
          (closing (stack inner (text second :: entries.map text)) ++ (spaces count ++ next))) := by
        rw [following, List.append_assoc]
        exact later.begins _
      obtain ⟨middle, readFirst, before⟩ := first.reads here inside starts (Nat.le_refl inner)
      rw [block] at before ⊢
      obtain ⟨ready, settled, atNext⟩ := before.settle starts (by simp)
      obtain ⟨behind, readMore, done⟩ := ih each (by simp) atNext (by simp)
      exact ⟨behind, readFirst.trans (settled.trans readMore), by simpa using done⟩

/-- An item is read behind its dash. -/
theorem readsPiece_item {item : Document} (own : ReadsBehind item) (inner : Nat) :
    ReadsPiece inner .blockListStart ('-' :: printBehind inner true item)
      (.entry :: documentKinds true item) where
  nonempty := by simp
  begins _ := ⟨by decide, by decide, by decide⟩
  reads {state columns count kinds next} here inside begins outside := by
    obtain ⟨outer, block⟩ := exists_opened inside
    rw [closing_cons (printBehind_ne_nil inner true item), List.cons_append] at here
    obtain ⟨first, passed, behindMark⟩ := here.mark ⟨by decide, by decide, by decide⟩ inside
      (here.token_entry (startsBlank_printBehind inner true item _))
    rw [block] at behindMark ⊢
    obtain ⟨behind, reads, done⟩ :=
      own behindMark (Nat.lt_succ_self _) (fun _ => ⟨rfl, rfl⟩) begins outside
    exact ⟨behind, passed.trans reads, by simpa using done⟩

/-- A member is read: a key with its colon, or a key behind a question mark and a colon on a line
of its own. -/
theorem readsPiece_member {member : String × Document} (own : ReadsBehind member.2) (inner : Nat) :
    ReadsPiece inner .blockRecordStart (memberText inner member) (entryKinds member) := by
  obtain ⟨key, value⟩ := member
  have writes := writes_textScalar (inner + 2) key
  cases simpleKey : isSimpleKey key with
  | true =>
    have shape : memberText inner (key, value) =
        textScalar (inner + 2) key ++ ':' :: printBehind inner false value := by
      simp [memberText, simpleKey]
    have kindsShape : entryKinds (key, value) = .key ::
        .scalar (Style.ofText key.toList) key.toList :: .value :: documentKinds false value := by
      simp [entryKinds, simpleKey]
    obtain ⟨noBlock, inline⟩ := inline_of_isSimpleKey simpleKey (inner + 2)
    rw [shape, kindsShape]
    refine ⟨by simp, fun rest => ?_, fun {state columns count kinds next} here inside begins
      outside => ?_⟩
    · obtain ⟨c, more, same, starts⟩ :=
        beginsToken_of_writes writes (':' :: printBehind inner false value ++ rest)
      rw [same]
      simpa using starts
    · obtain ⟨outer, block⟩ := exists_opened inside
      rw [closing_append (by simp), closing_cons (printBehind_ne_nil inner false value),
        List.append_assoc, List.cons_append] at here
      obtain ⟨first, passed, behindColon⟩ := here.key writes (by omega) noBlock inline
        (startsBlank_printBehind inner false value _) inside
      rw [block] at behindColon ⊢
      obtain ⟨behind, reads, done⟩ := own behindColon (by omega) (by simp) begins outside
      exact ⟨behind, passed.trans reads, by simpa using done⟩
  | false =>
    have shape : memberText inner (key, value) = '?' :: ' ' :: (textScalar (inner + 2) key ++
        (closing (textScalar (inner + 2) key) ++
          (spaces inner ++ ':' :: printBehind inner true value))) := by
      obtain ⟨c, more, same, -⟩ := beginsToken_of_writes writes []
      have spaced := stack_cons inner ('?' :: ' ' :: textScalar (inner + 2) key)
        (List.cons_ne_nil (':' :: printBehind inner true value) [])
      rw [closing_cons (by simp), closing_cons (by simp [same])] at spaced
      simpa [memberText, simpleKey, below, stack] using spaced
    have kindsShape : entryKinds (key, value) = .key ::
        .scalar (Style.ofText key.toList) key.toList :: .value :: documentKinds true value := by
      simp [entryKinds, simpleKey]
    rw [shape, kindsShape]
    refine ⟨by simp, fun rest => ⟨by decide, by decide, by decide⟩,
      fun {state columns count kinds next} here inside begins outside => ?_⟩
    obtain ⟨outer, block⟩ := exists_opened inside
    have closed : closing ('?' :: ' ' :: (textScalar (inner + 2) key ++
        (closing (textScalar (inner + 2) key) ++
          (spaces inner ++ ':' :: printBehind inner true value)))) =
        closing (printBehind inner true value) := by
      rw [closing_cons (by simp), closing_cons (by simp), closing_append (by simp),
        closing_append (by simp), closing_append (by simp),
        closing_cons (printBehind_ne_nil inner true value)]
    rw [closed] at here
    simp only [List.cons_append, List.append_assoc] at here
    obtain ⟨first, passed, behindMark⟩ := here.mark ⟨by decide, by decide, by decide⟩ inside
      (here.token_explicitKey (by simp [startsBlank, isBlank]))
    rw [block] at behindMark ⊢
    have colon (rest : List Char) : BeginsToken (':' :: rest) := ⟨by decide, by decide, by decide⟩
    obtain ⟨second, readsKey, atColon⟩ := behindMark.spacedScalar writes (Nat.lt_succ_self inner)
      (colon _) (Nat.le_refl inner)
    obtain ⟨third, passedColon, behindColon⟩ := atColon.mark (colon _) (by simp)
      (atColon.token_value (startsBlank_printBehind inner true value _))
    rw [opened_self, opening_self] at behindColon
    obtain ⟨behind, reads, done⟩ :=
      own behindColon (Nat.lt_succ_self inner) (fun _ => ⟨rfl, rfl⟩) begins outside
    exact ⟨behind, passed.trans (readsKey.trans (passedColon.trans reads)), by simpa using done⟩

/-- The items of a list are read one after another. -/
theorem reads_items {items : List Document} (each : ∀ item ∈ items, ReadsBehind item)
    (nonempty : items ≠ []) (here : At state columns inner true kinds
      (stack inner (printItems inner items) ++
        (closing (stack inner (printItems inner items)) ++ (spaces count ++ next))))
    (inside : ∀ head ∈ columns.head?, head ≤ inner) (begins : BeginsToken next)
    (outside : count ≤ inner) :
    ∃ behind, Reads state behind ∧ Before behind (opened columns inner) count
      (kinds ++ opening columns inner .blockListStart ++ itemKinds items) next := by
  rw [printItems_eq_map] at here
  rw [itemKinds_eq_flatMap]
  exact reads_stack (fun item member => readsPiece_item (each item member) inner) nonempty here
    inside begins outside

/-- The members of a record are read one after another. -/
theorem reads_members {members : List (String × Document)}
    (each : ∀ member ∈ members, ReadsBehind member.2) (nonempty : members ≠ [])
    (here : At state columns inner true kinds
      (stack inner (printMembers inner members) ++
        (closing (stack inner (printMembers inner members)) ++ (spaces count ++ next))))
    (inside : ∀ head ∈ columns.head?, head ≤ inner) (begins : BeginsToken next)
    (outside : count ≤ inner) :
    ∃ behind, Reads state behind ∧ Before behind (opened columns inner) count
      (kinds ++ opening columns inner .blockRecordStart ++ memberKinds members) next := by
  rw [printMembers_eq_map] at here
  rw [memberKinds_eq_flatMap]
  exact reads_stack (fun member isMember => readsPiece_member (each member isMember) inner) nonempty
    here inside begins outside

/-- A scalar is read behind a mark. -/
theorem readsBehind_scalar {document : Document} {style : Style} {text : List Char}
    {written : Nat → List Char} (writes : ∀ column, Writes column style text (written column))
    (prints : ∀ column compact, printBehind column compact document = ' ' :: written (column + 2))
    (own : ∀ compact, documentKinds compact document = [.scalar style text]) :
    ReadsBehind document := by
  intro state outer inner column count allowed compact kinds next here inside _ begins outside
  obtain ⟨c, more, same, -⟩ := beginsToken_of_writes (writes (inner + 2)) []
  rw [prints, closing_cons (by simp [same]), List.cons_append] at here
  obtain ⟨behind, reads, done⟩ := here.spacedScalar (writes (inner + 2)) inside begins outside
  exact ⟨behind, reads, by rw [own]; exact done.before⟩

/-- Brackets without anything between them are read behind a mark. -/
theorem readsBehind_brackets {document : Document} {first last : Char} {start stop : TokenKind}
    (brackets : ∀ {state columns column allowed kinds count next},
      At state columns column allowed kinds (first :: last :: '\n' :: (spaces count ++ next)) →
      (∀ head ∈ columns.head?, head < column) → BeginsToken next → ∃ behind, Reads state behind ∧
        At behind columns count true (kinds ++ [start, stop]) next)
    (firstBegins : BeginsToken [first]) (lastBegins : BeginsToken [last])
    (prints : ∀ column compact, printBehind column compact document = [' ', first, last])
    (own : ∀ compact, documentKinds compact document = [start, stop]) : ReadsBehind document := by
  intro state outer inner column count allowed compact kinds next here inside _ begins outside
  have closed : closing [' ', first, last] = ['\n'] := by
    have last := closing_concat [' ', first] last
    rwa [lastBegins.2.1, if_neg (by simp)] at last
  rw [prints, closed] at here
  have spaced : At state (inner :: outer) column allowed kinds
      (spaces 1 ++ first :: last :: '\n' :: (spaces count ++ next)) := here
  obtain ⟨middle, passed, atBrackets⟩ := spaced.passSpaces firstBegins
  obtain ⟨behind, reads, done⟩ := brackets atBrackets (by simp; omega) begins
  exact ⟨behind, passed.trans reads, by rw [own]; exact done.before⟩

/-- A block at a further column ends with the text of its document. -/
theorem Before.closeInner {behind : State} {start : TokenKind} {own : List TokenKind}
    (before : Before behind (opened (inner :: outer) (inner + 2)) count
      (kinds ++ opening (inner :: outer) (inner + 2) start ++ own) next)
    (outside : count ≤ inner) :
    Before behind (inner :: outer) count (kinds ++ (start :: own ++ [.blockEnd])) next := by
  have further : ∀ head ∈ (inner :: outer).head?, head < inner + 2 := by simp
  rw [opened_of_outside further, opening_of_outside further] at before
  simpa using before.close (by omega)

/-- A list is read behind a mark: on the same line in a block of its own, or below at the column
of the record around it. -/
theorem readsBehind_list {item : Document} {items : List Document}
    (each : ∀ found ∈ item :: items, ReadsBehind found) : ReadsBehind (.list (item :: items)) := by
  intro state outer inner column count allowed compact kinds next here inside atMark begins outside
  have starts (column : Nat) (rest : List Char) :
      BeginsToken (stack column (printItems column (item :: items)) ++ rest) := by
    obtain ⟨more, first⟩ :=
      exists_stack_eq column ('-' :: printBehind column true item) (printItems column items)
    rw [printItems, first]
    exact ⟨by decide, by decide, by decide⟩
  have nonempty (column : Nat) : stack column (printItems column (item :: items)) ≠ [] := by
    obtain ⟨more, first⟩ :=
      exists_stack_eq column ('-' :: printBehind column true item) (printItems column items)
    simp [printItems, first]
  cases compact with
  | true =>
    obtain ⟨rfl, rfl⟩ := atMark rfl
    have prints : printBehind inner true (.list (item :: items)) =
        ' ' :: stack (inner + 2) (printItems (inner + 2) (item :: items)) := rfl
    rw [prints, closing_cons (nonempty (inner + 2))] at here
    have spaced : At state (inner :: outer) (inner + 1) true kinds (spaces 1 ++ _) := here
    obtain ⟨middle, passed, atItems⟩ := spaced.passSpaces (starts (inner + 2) _)
    obtain ⟨behind, reads, done⟩ :=
      reads_items each (by simp) atItems (by simp; omega) begins (by omega)
    exact ⟨behind, passed.trans reads, by simpa [documentKinds] using done.closeInner outside⟩
  | false =>
    have prints : printBehind inner false (.list (item :: items)) =
        '\n' :: (spaces inner ++ stack inner (printItems inner (item :: items))) := rfl
    rw [prints, closing_cons (by simp [nonempty]), closing_append (nonempty inner)] at here
    rw [List.cons_append, List.append_assoc] at here
    obtain ⟨middle, passed, atItems⟩ := here.passLine (starts inner _)
    obtain ⟨behind, reads, done⟩ := reads_items each (by simp) atItems (by simp) begins outside
    exact ⟨behind, passed.trans reads, by simpa [documentKinds] using done⟩

/-- A record is read behind a mark, on the same line or below. -/
theorem readsBehind_record {member : String × Document} {members : List (String × Document)}
    (each : ∀ found ∈ member :: members, ReadsBehind found.2) :
    ReadsBehind (.record (member :: members)) := by
  intro state outer inner column count allowed compact kinds next here inside atMark begins outside
  have piece := readsPiece_member (each member List.mem_cons_self) (inner + 2)
  obtain ⟨more, first⟩ := exists_stack_eq (inner + 2) (memberText (inner + 2) member)
    (printMembers (inner + 2) members)
  have shape : stack (inner + 2) (printMembers (inner + 2) (member :: members)) =
      memberText (inner + 2) member ++ more := first
  have starts (rest : List Char) :
      BeginsToken (stack (inner + 2) (printMembers (inner + 2) (member :: members)) ++ rest) := by
    rw [shape, List.append_assoc]
    exact piece.begins _
  have nonempty : stack (inner + 2) (printMembers (inner + 2) (member :: members)) ≠ [] := by
    simp [shape, piece.nonempty]
  obtain ⟨middle, passed, atMembers⟩ : ∃ middle, Reads state middle ∧
      At middle (inner :: outer) (inner + 2) true kinds
        (stack (inner + 2) (printMembers (inner + 2) (member :: members)) ++
          (closing (stack (inner + 2) (printMembers (inner + 2) (member :: members))) ++
            (spaces count ++ next))) := by
    cases compact with
    | true =>
      obtain ⟨rfl, rfl⟩ := atMark rfl
      have prints : printBehind inner true (.record (member :: members)) =
          ' ' :: stack (inner + 2) (printMembers (inner + 2) (member :: members)) := rfl
      rw [prints, closing_cons nonempty] at here
      have spaced : At state (inner :: outer) (inner + 1) true kinds (spaces 1 ++ _) := here
      exact spaced.passSpaces (starts _)
    | false =>
      have prints : printBehind inner false (.record (member :: members)) = '\n' ::
          (spaces (inner + 2) ++ stack (inner + 2) (printMembers (inner + 2) (member :: members))) :=
      rfl
      rw [prints, closing_cons (by simp [nonempty]), closing_append nonempty] at here
      rw [List.cons_append, List.append_assoc] at here
      exact here.passLine (starts _)
  obtain ⟨behind, reads, done⟩ := reads_members each (by simp) atMembers (by simp) begins (by omega)
  exact ⟨behind, passed.trans reads, by simpa [documentKinds] using done.closeInner outside⟩

/-- A document is read behind a mark, whatever follows in the next line. -/
theorem readsBehind_of_isWritable {document : Document} (writable : IsWritable document) :
    ReadsBehind document := by
  induction writable with
  | bool value =>
    cases value with
    | true => exact readsBehind_scalar (fun _ => .bare isBare_true) (fun _ _ => rfl) (fun _ => rfl)
    | false =>
      exact readsBehind_scalar (fun _ => .bare isBare_false) (fun _ _ => rfl) (fun _ => rfl)
  | number bare => exact readsBehind_scalar (fun _ => .bare bare) (fun _ _ => rfl) (fun _ => rfl)
  | text value =>
    exact readsBehind_scalar (fun column => writes_textScalar column value) (fun _ _ => rfl)
      (fun _ => rfl)
  | @list items _ ih =>
    cases items with
    | nil =>
      exact readsBehind_brackets At.emptyList ⟨by decide, by decide, by decide⟩
        ⟨by decide, by decide, by decide⟩ (fun _ _ => rfl) (fun _ => rfl)
    | cons item items => exact readsBehind_list ih
  | @record members _ ih =>
    cases members with
    | nil =>
      exact readsBehind_brackets At.emptyRecord ⟨by decide, by decide, by decide⟩
        ⟨by decide, by decide, by decide⟩ (fun _ _ => rfl) (fun _ => rfl)
    | cons member members => exact readsBehind_record ih

end State
end Token
end Yaml
end SchemaScaffold
