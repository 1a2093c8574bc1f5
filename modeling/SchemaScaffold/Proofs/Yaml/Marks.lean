import SchemaScaffold.Proofs.Yaml.Scalars

/-!
# Tokens of marks and keys

The marks of items, keys and values open the block of their column unless it is open already. A
scalar on one line before a colon is a key: its slot is filled, with the same effect.
-/

namespace SchemaScaffold
namespace Yaml
namespace Token
namespace State

variable {state : State} {columns : List Nat} {column : Nat} {keyAllowed : Bool}
  {kinds : List TokenKind} {rest : List Char}

/-- The open blocks once there is one at a column. -/
def opened (columns : List Nat) (column : Nat) : List Nat :=
  if columns.head?.all (· < column) then column :: columns else columns

/-- The mark for the block at a column, unless it is open already. -/
def opening (columns : List Nat) (column : Nat) (kind : TokenKind) : List TokenKind :=
  if columns.head?.all (· < column) then [kind] else []

theorem opened_of_outside (outside : ∀ head ∈ columns.head?, head < column) :
    opened columns column = column :: columns := by
  rw [opened, if_pos]
  cases columns <;> simp_all

theorem opening_of_outside (outside : ∀ head ∈ columns.head?, head < column) (kind : TokenKind) :
    opening columns column kind = [kind] := by
  rw [opening, if_pos]
  cases columns <;> simp_all

@[simp] theorem opened_self (columns : List Nat) (column : Nat) :
    opened (column :: columns) column = column :: columns := by
  simp [opened]

@[simp] theorem opening_self (columns : List Nat) (column : Nat) (kind : TokenKind) :
    opening (column :: columns) column kind = [] := by
  simp [opening]

theorem At.opensAt (here : At state columns column keyAllowed kinds rest) (place : Nat) :
    state.opensAt place = columns.head?.all (· < place) := by
  simp [State.opensAt, inFlow, here.noFlow, here.blocks]

theorem At.openBlock (here : At state columns column keyAllowed kinds rest) (kind : TokenKind) :
    At (state.openBlock kind) (opened columns column) column keyAllowed
      (kinds ++ opening columns column kind) rest := by
  rw [State.openBlock, here.opensAt, here.place, opened, opening]
  split
  · refine ⟨here.text, by simp [emit, emitAt, here.blocks], here.place, here.allows, ?_,
      here.noFlow, here.noCandidate, ?_, here.fresh.fillings⟩
    · rw [← here.known]
      exact kindsOf_cons _ _ _
    · exact fun number member => here.fresh.items number (by simpa [emit, emitAt] using member)
  · simpa using here

/-- The state behind a mark of one character. -/
def marked (state : State) (kind : TokenKind) (keyAllowed : Bool) : State :=
  { (state.emit kind).skip 1 with keyAllowed }

theorem At.marked {c : Char} (here : At state columns column keyAllowed kinds (c :: rest))
    (noBreak : isBreak c = false) (kind : TokenKind) (allowed : Bool) :
    At (state.marked kind allowed) columns (column + 1) allowed (kinds ++ [kind]) rest := by
  rw [State.marked, @skip_one (state.emit kind) c rest here.text]
  have place : (state.place.after [c]).column = column + 1 := by
    rw [Mark.after_line _ (by simpa using noBreak), here.place, List.length_singleton]
  refine ⟨rfl, here.blocks, place, rfl, ?_, here.noFlow, here.noCandidate, ?_, here.fresh.fillings⟩
  · rw [← here.known]
    exact kindsOf_cons _ _ _
  · exact fun number member => here.fresh.items number (by simpa [emit, emitAt] using member)

theorem not_startsMark {c : Char} (blank : startsBlank rest = true) :
    startsMark (c :: rest) = false := by
  unfold startsMark
  split
  · next same =>
    obtain ⟨-, rfl⟩ := List.cons.inj same
    simp [startsBlank, isBlank, isBreak] at blank
  · next same =>
    obtain ⟨-, rfl⟩ := List.cons.inj same
    simp [startsBlank, isBlank, isBreak] at blank
  · rfl

/-- The dash before an item. -/
theorem At.token_entry (here : At state columns column true kinds ('-' :: rest))
    (blank : startsBlank rest = true) :
    state.token '-' rest = .ok ((state.openBlock .blockListStart).marked .entry true) := by
  have dispatch : state.token '-' rest = state.entry := by
    simp [token, not_startsMark blank, blank]
  have kept := here.openBlock .blockListStart
  rw [dispatch, entry, here.allows, dropCandidate_eq kept.noCandidate]
  simp [bind, Except.bind, pure, Except.pure, State.marked]

/-- The question mark before a key. -/
theorem At.token_explicitKey (here : At state columns column true kinds ('?' :: rest))
    (blank : startsBlank rest = true) :
    state.token '?' rest = .ok ((state.openBlock .blockRecordStart).marked .key true) := by
  have dispatch : state.token '?' rest = state.explicitKey := by
    simp [token, not_startsMark blank, blank]
  have kept := here.openBlock .blockRecordStart
  rw [dispatch, explicitKey, here.allows, dropCandidate_eq kept.noCandidate]
  simp [bind, Except.bind, pure, Except.pure, State.marked, inFlow, here.noFlow]

/-- The colon behind a key with a question mark. -/
theorem At.token_value (here : At state columns column true kinds (':' :: rest))
    (blank : startsBlank rest = true) :
    state.token ':' rest = .ok ((state.openBlock .blockRecordStart).marked .value true) := by
  have dispatch : state.token ':' rest = state.value := by
    simp [token, not_startsMark blank, blank]
  rw [dispatch, State.value, here.noCandidate]
  simp [State.marked, here.allows, inFlow, here.noFlow]

/-- A mark is read. -/
theorem At.mark {c : Char} (here : At state columns column true kinds (c :: rest))
    (begins : BeginsToken (c :: rest)) (inside : ∀ head ∈ columns.head?, head ≤ column)
    {start kind : TokenKind}
    (token : state.token c rest = .ok ((state.openBlock start).marked kind true)) :
    ∃ behind, Reads state behind ∧ At behind (opened columns column) (column + 1) true
      (kinds ++ opening columns column start ++ [kind]) rest := by
  have behind := (here.openBlock start).marked begins.2.1 kind true
  exact ⟨_, here.reads begins inside token (Nat.le_of_eq (by rw [behind.text])), behind⟩

/-- A scalar that stands on one line. -/
structure IsInline (written : List Char) : Prop where
  inside : ∀ c ∈ written, isBreak c = false
  short : written.length ≤ maxKeyLength

theorem inline_singleQuotedBody {text : List Char} (inside : ∀ c ∈ text, isBreak c = false)
    (column : Nat) : (∀ c ∈ singleQuotedBody column false text, isBreak c = false) ∧
      (singleQuotedBody column false text).length ≤ 2 * text.length := by
  induction text with
  | nil => simp [singleQuotedBody]
  | cons c rest ih =>
    obtain ⟨own, inside⟩ := List.forall_mem_cons.1 inside
    obtain ⟨later, short⟩ := ih inside
    have doubled : (∀ d ∈ (if c = '\x27' then ['\x27', '\x27'] else [c]), isBreak d = false) ∧
        (if c = '\x27' then ['\x27', '\x27'] else [c]).length ≤ 2 := by
      split
      · exact ⟨forall_mem_of_all (by decide), by decide⟩
      · simpa using own
    rw [singleQuotedBody, own, List.length_cons]
    split
    · next absurd => simp at absurd
    · split
      · exact ⟨List.forall_mem_cons.2 ⟨own, later⟩, by rw [List.length_cons]; omega⟩
      · simp only [List.nil_append, List.length_append]
        exact ⟨List.forall_mem_append.2 ⟨doubled.1, later⟩, by omega⟩

theorem length_flatMap_doubleQuotedChar (text : List Char) :
    (text.flatMap doubleQuotedChar).length ≤ 6 * text.length := by
  induction text with
  | nil => simp
  | cons c rest ih =>
    have own := length_doubleQuotedChar c
    rw [List.flatMap_cons, List.length_append, List.length_cons]
    omega

/-- A short text without breaks stands on one line. -/
theorem isInline_of_writes {style : Style} {text written : List Char} {width : Nat}
    (writes : Writes width style text written) (noBlock : style ≠ .literal)
    (inside : ∀ c ∈ text, isBreak c = false) (short : text.length ≤ 128) : IsInline written := by
  have long : maxKeyLength = 1024 := rfl
  cases writes with
  | literal => exact absurd rfl noBlock
  | bare => exact ⟨inside, by omega⟩
  | single =>
    obtain ⟨later, bound⟩ := inline_singleQuotedBody inside width
    exact ⟨List.forall_mem_cons.2 ⟨by decide, List.forall_mem_append.2
      ⟨later, forall_mem_of_all (by decide)⟩⟩,
      by rw [List.length_cons, List.length_append, List.length_singleton]; omega⟩
  | double =>
    have bound := length_flatMap_doubleQuotedChar text
    refine ⟨List.forall_mem_cons.2 ⟨by decide, List.forall_mem_append.2 ⟨fun d member => ?_,
      forall_mem_of_all (by decide)⟩⟩, by
        rw [List.length_cons, List.length_append, List.length_singleton]
        omega⟩
    obtain ⟨c, -, own⟩ := List.mem_flatMap.1 member
    exact (shown_doubleQuotedChar c d own).2

/-- Within a line a candidate is not out of date. -/
theorem refresh_ownCandidate {next : State} {passed : List Char} (inline : IsInline passed)
    (place : next.place = state.place.after passed) :
    next.refresh state.ownCandidate = .ok state.ownCandidate := by
  rw [ownCandidate]
  split
  · have short := inline.short
    have fresh : next.isStale
        ⟨state.slots, state.place, state.columns.head? = some state.place.column⟩ = false := by
      simp only [isStale, place, Mark.after_line _ inline.inside, Nat.lt_irrefl,
        Bool.or_eq_false_iff, decide_eq_false_iff_not]
      exact ⟨not_false, by omega⟩
    rw [refresh, fresh]
    rfl
  · rfl

/-- The state behind a scalar on one line is in front of the colon behind it. -/
theorem At.ahead_scanned {written : List Char}
    (here : At state columns column keyAllowed kinds (written ++ ':' :: rest))
    (inline : IsInline written) (kind : TokenKind) :
    (state.scanned written (':' :: rest) kind false).ahead =
      .ok (state.scanned written (':' :: rest) kind false) := by
  have begins : BeginsToken (state.scanned written (':' :: rest) kind false).rest :=
    ⟨by decide, by decide, by decide⟩
  have kept := @refresh_ownCandidate state (state.scanned written (':' :: rest) kind false)
    written inline rfl
  have noFlow : (state.scanned written (':' :: rest) kind false).outer = [] := here.noFlow
  have own : (state.scanned written (':' :: rest) kind false).candidate = state.ownCandidate := rfl
  rw [ahead, passBlanks_of_beginsToken begins, refreshAll, noFlow, own, kept]
  simp [bind, Except.bind, pure, Except.pure, scanned, here.noFlow]

/-- Behind a scalar the slot of its candidate is filled. -/
theorem At.fill_scanned {written : List Char}
    (here : At state columns column true kinds (written ++ ':' :: rest))
    (inline : IsInline written) (kind : TokenKind) (required : Bool) :
    At ((state.scanned written (':' :: rest) kind false).fill ⟨state.slots, state.place, required⟩)
      (opened columns column) (column + written.length) false
      (kinds ++ opening columns column .blockRecordStart ++ [.key, kind]) (':' :: rest) := by
  have opens (place : Nat) : (state.scanned written (':' :: rest) kind false).opensAt place =
      columns.head?.all (· < place) := here.opensAt place
  have fresh := here.fresh.scanned written (':' :: rest) kind false
  have slots : (state.scanned written (':' :: rest) kind false).slots = state.slots + 1 := by
    simp [scanned, here.allows]
  have items : (state.scanned written (':' :: rest) kind false).items =
      .token ⟨kind, state.place⟩ :: .slot state.slots :: state.items := by
    simp [scanned, here.allows]
  have blocks : (state.scanned written (':' :: rest) kind false).columns = columns := here.blocks
  refine ⟨rfl, ?_, ?_, rfl, ?_, here.noFlow, rfl, ⟨fresh.items, fun filling member => ?_⟩⟩
  · simp only [fill, opens, here.place, opened, blocks]
  · simp [fill, scanned, Mark.after_line _ inline.inside, here.place]
  · have apart : ∀ number, Item.slot number ∈ state.items → number ≠ state.slots :=
      fun number member => Nat.ne_of_lt (here.fresh.items number member)
    rw [kinds_eq]
    simp only [fill, opens, items, kindsOf_cons, here.place]
    rw [kindsOf_filling apart]
    have before : kindsOf (state.scanned written (':' :: rest) kind false).fillings state.items =
        kinds := here.known
    rw [before, opening]
    split <;> simp_all [itemTokens, slotTokens]
  · rcases List.mem_cons.1 member with rfl | old
    · simp [fill, slots]
    · exact fresh.fillings filling old

/-- A scalar on one line before a colon is a key. -/
theorem At.key {style : Style} {text written : List Char} {width : Nat}
    (here : At state columns column true kinds (written ++ ':' :: rest))
    (writes : Writes width style text written) (positive : 0 < width) (noBlock : style ≠ .literal)
    (inline : IsInline written) (blank : startsBlank rest = true)
    (inside : ∀ head ∈ columns.head?, head ≤ column) :
    ∃ behind, Reads state behind ∧ At behind (opened columns column)
      (column + written.length + 1) false (kinds ++ opening columns column .blockRecordStart ++
        [.key, .scalar style text] ++ [.value]) rest := by
  obtain ⟨c, more, same, starts⟩ := beginsToken_of_writes writes (':' :: rest)
  have front : written ++ ':' :: rest = c :: (more ++ ':' :: rest) := by
    rw [same, List.cons_append]
  have token : state.token c (more ++ ':' :: rest) =
      .ok (state.scanned written (':' :: rest) (.scalar style text) false) := by
    by_cases plain : style = .plain
    · subst plain
      cases writes with
      | bare bare => exact here.token_bareKey bare blank same
    · exact here.token_quoted writes positive ⟨plain, noBlock⟩ (by simp) same
  have first := (front ▸ here).reads starts inside token (by simp [scanned])
  have filled := here.fill_scanned inline (.scalar style text)
    (state.columns.head? = some state.place.column)
  have colon : (state.scanned written (':' :: rest) (.scalar style text) false).token ':' rest =
      .ok (((state.scanned written (':' :: rest) (.scalar style text) false).fill
        ⟨state.slots, state.place, state.columns.head? = some state.place.column⟩).marked
        .value false) := by
    have dispatch : (state.scanned written (':' :: rest) (.scalar style text) false).token ':' rest =
        (state.scanned written (':' :: rest) (.scalar style text) false).value := by
      simp [State.token, not_startsMark blank, blank]
    have own : (state.scanned written (':' :: rest) (.scalar style text) false).candidate =
        some ⟨state.slots, state.place, state.columns.head? = some state.place.column⟩ := by
      simp [scanned, ownCandidate, here.allows]
    rw [dispatch, State.value, own]
    rfl
  have behind := filled.marked (by decide) .value false
  refine ⟨_, .trans first (reads_of_token (here.ahead_scanned inline _) ?_ rfl colon ?_), behind⟩
  · refine closeBlocks_eq here.noFlow fun head member => ?_
    have within := inside head (here.blocks ▸ member)
    simp only [scanned, Mark.after_line _ inline.inside, here.place]
    omega
  · simp [behind.text]

/-- The state behind an opening bracket. -/
def between (state : State) (c : Char) (rest : List Char) (kind : TokenKind) : State :=
  { state.scanned [c] rest kind true with candidate := none, outer := [state.ownCandidate] }

/-- The state behind a closing bracket that follows an opening one. -/
def bracketed (state : State) (first last : Char) (rest : List Char) (start stop : TokenKind) :
    State :=
  { state.scanned [first, last] rest start false with
    items := .token ⟨stop, state.place.after [first]⟩ ::
      (state.scanned [first, last] rest start false).items }

theorem At.openFlow {c : Char} (here : At state columns column keyAllowed kinds (c :: rest))
    (kind : TokenKind) : state.openFlow kind = .ok (state.between c rest kind) := by
  rw [State.openFlow, keepSlot_eq here.noFlow here.noCandidate]
  simp only [bind, Except.bind, pure, Except.pure]
  rw [@skip_one _ c rest]
  · simp [between, scanned, emit, emitAt, here.noFlow]
  · exact here.text

theorem closeFlow_between {first last : Char} (noFlow : state.outer = [])
    (firstInside : isBreak first = false) (lastInside : isBreak last = false)
    (start stop : TokenKind) :
    (state.between first (last :: rest) start).closeFlow stop =
      .ok (state.bracketed first last rest start stop) := by
  have cleared := @dropCandidate_eq (state.between first (last :: rest) start) rfl
  have place : (state.place.after [first]).after [last] = state.place.after [first, last] := by
    simp [Mark.after_line, firstInside, lastInside]
  rw [closeFlow, cleared]
  simp only [bind, Except.bind, pure, Except.pure]
  rw [@skip_one _ last rest]
  · simp [between, bracketed, scanned, emit, emitAt, noFlow, place]
  · rfl

/-- A pair of brackets is read up to the token in the next line. -/
theorem At.brackets {first last : Char} {start stop : TokenKind} {count : Nat} {next : List Char}
    (here : At state columns column keyAllowed kinds
      (first :: last :: '\n' :: (spaces count ++ next)))
    (firstBegins : BeginsToken [first]) (lastBegins : BeginsToken [last])
    (opens : ∀ rest, state.token first rest = state.openFlow start)
    (closes : ∀ state rest, State.token state last rest = state.closeFlow stop)
    (inside : ∀ head ∈ columns.head?, head < column) (begins : BeginsToken next) :
    ∃ behind, Reads state behind ∧
      At behind columns count true (kinds ++ [start, stop]) next := by
  have within : ∀ head ∈ columns.head?, head ≤ column :=
    fun head member => Nat.le_of_lt (inside head member)
  have opened : Reads state
      (state.between first (last :: '\n' :: (spaces count ++ next)) start) :=
    here.reads firstBegins within ((opens _).trans (here.openFlow start)) (Nat.le_refl _)
  have short : IsInline [first] := ⟨by simpa using firstBegins.2.1, by simp [maxKeyLength]⟩
  have ahead : (state.between first (last :: '\n' :: (spaces count ++ next)) start).ahead =
      .ok (state.between first (last :: '\n' :: (spaces count ++ next)) start) := by
    have kept := @refresh_ownCandidate state
      (state.between first (last :: '\n' :: (spaces count ++ next)) start) [first] short rfl
    have outer : (state.between first (last :: '\n' :: (spaces count ++ next)) start).outer =
        [state.ownCandidate] := rfl
    rw [State.ahead, passBlanks_of_beginsToken lastBegins, refreshAll, outer]
    simp only [List.reverse_singleton, List.mapM_cons, List.mapM_nil, kept, bind, Except.bind, pure,
      Except.pure]
    rfl
  have closed : Reads (state.between first (last :: '\n' :: (spaces count ++ next)) start)
      (state.bracketed first last ('\n' :: (spaces count ++ next)) start stop) := by
    refine reads_of_token ahead (by simp [State.closeBlocks, inFlow, between]) rfl
      ((closes _ _).trans ?_) (Nat.le_refl _)
    exact closeFlow_between here.noFlow firstBegins.2.1 lastBegins.2.1 start stop
  have line := @reads_newLine
    (state.bracketed first last ('\n' :: (spaces count ++ next)) start stop) here.noFlow count next
    rfl begins
  have noReturn : '\r' ∉ [first, last] := by
    have noFirst : first ≠ '\r' := fun same => absurd (same ▸ firstBegins.2.1) (by decide)
    have noLast : last ≠ '\r' := fun same => absurd (same ▸ lastBegins.2.1) (by decide)
    simp [noFirst.symm, noLast.symm]
  have place : (state.place.after [first, last]).after ('\n' :: spaces count) =
      state.place.after ([first, last] ++ '\n' :: spaces count) :=
    (Mark.after_append _ noReturn (by simp [spaces])).symm
  obtain ⟨column_eq, below⟩ :=
    @Mark.after_newLine state.place [first, last] noReturn '\n' (by decide) (by decide) count
  rw [← place] at column_eq below
  have fresh := here.fresh.scanned [first, last] ('\n' :: (spaces count ++ next)) start false
  refine ⟨_, opened.trans (closed.trans (line.trans
    (reads_forgotten here.noFlow ?_ rfl below begins))),
    ⟨rfl, here.blocks, column_eq, rfl, ?_, here.noFlow, rfl, ⟨fun number member => ?_,
      fresh.fillings⟩⟩⟩
  · rw [here.blocks, here.place]
    exact inside
  · have known := kinds_scanned here.fresh [first, last] ('\n' :: (spaces count ++ next)) start
      false
    rw [here.known, kinds_eq] at known
    have both := congrArg (· ++ [stop]) known
    simp only [List.append_assoc, List.singleton_append] at both
    exact (kindsOf_cons _ _ _).trans both
  · exact fresh.items number (by simpa [bracketed] using member)

/-- A list without items is read up to the token in the next line. -/
theorem At.emptyList {count : Nat} {next : List Char}
    (here : At state columns column keyAllowed kinds
      ('[' :: ']' :: '\n' :: (spaces count ++ next)))
    (inside : ∀ head ∈ columns.head?, head < column) (begins : BeginsToken next) :
    ∃ behind, Reads state behind ∧
      At behind columns count true (kinds ++ [.flowListStart, .flowListEnd]) next :=
  here.brackets ⟨by decide, by decide, by decide⟩ ⟨by decide, by decide, by decide⟩
    (fun _ => by simp [token, startsMark]) (fun _ _ => by simp [token, startsMark]) inside begins

/-- A record without members is read up to the token in the next line. -/
theorem At.emptyRecord {count : Nat} {next : List Char}
    (here : At state columns column keyAllowed kinds
      ('\x7b' :: '\x7d' :: '\n' :: (spaces count ++ next)))
    (inside : ∀ head ∈ columns.head?, head < column) (begins : BeginsToken next) :
    ∃ behind, Reads state behind ∧
      At behind columns count true (kinds ++ [.flowRecordStart, .flowRecordEnd]) next :=
  here.brackets ⟨by decide, by decide, by decide⟩ ⟨by decide, by decide, by decide⟩
    (fun _ => by simp [token, startsMark]) (fun _ _ => by simp [token, startsMark]) inside begins

end State
end Token
end Yaml
end SchemaScaffold
