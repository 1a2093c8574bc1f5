import SchemaScaffold.Proofs.Yaml.Printable
import SchemaScaffold.Yaml.Token

/-!
# Reading tokens step by step

What the reader of tokens does outside of brackets: how places move, how blanks are passed over,
how blocks are closed, and how one token leads to the next state. A state is described by its open
blocks, its column, the kinds of its tokens and the text that is left.
-/

namespace SchemaScaffold
namespace Yaml

namespace Mark

/-- The place behind one character. -/
def next (mark : Mark) (c : Char) : Mark :=
  if isBreak c then ⟨mark.line + 1, 0, mark.index + 1⟩
  else ⟨mark.line, mark.column + 1, mark.index + 1⟩

theorem after_eq_foldl (mark : Mark) {text : List Char} (noReturn : '\r' ∉ text) :
    mark.after text = text.foldl next mark := by
  induction text generalizing mark with
  | nil => rfl
  | cons c rest ih =>
    simp only [List.mem_cons, not_or] at noReturn
    have own : mark.after (c :: rest) = (mark.next c).after rest := by
      rw [after.eq_def]
      split
      · next same => simp at same
      · next same => exact absurd (List.cons.inj same).1.symm noReturn.1
      · next same =>
        obtain ⟨rfl, rfl⟩ := List.cons.inj same
        rw [next]
        split <;> rfl
    rw [own, ih _ noReturn.2, List.foldl_cons]

theorem after_append (mark : Mark) {front back : List Char} (noFront : '\r' ∉ front)
    (noBack : '\r' ∉ back) : mark.after (front ++ back) = (mark.after front).after back := by
  rw [after_eq_foldl mark (by simp [noFront, noBack]), after_eq_foldl mark noFront,
    after_eq_foldl _ noBack, List.foldl_append]

theorem line_le_after (mark : Mark) {text : List Char} (noReturn : '\r' ∉ text) :
    mark.line ≤ (mark.after text).line := by
  rw [after_eq_foldl mark noReturn]
  clear noReturn
  induction text generalizing mark with
  | nil => exact Nat.le_refl _
  | cons c rest ih =>
    refine Nat.le_trans ?_ (ih (mark.next c))
    rw [next]
    split <;> simp only <;> omega

/-- Within a line the column counts the characters. -/
theorem after_line (mark : Mark) {text : List Char} (inside : ∀ c ∈ text, isBreak c = false) :
    mark.after text = ⟨mark.line, mark.column + text.length, mark.index + text.length⟩ := by
  have noReturn : '\r' ∉ text := fun member => absurd (inside _ member) (by decide)
  rw [after_eq_foldl mark noReturn]
  clear noReturn
  induction text generalizing mark with
  | nil => rfl
  | cons c rest ih =>
    obtain ⟨cInside, inside⟩ := List.forall_mem_cons.1 inside
    rw [List.foldl_cons, ih _ inside, next, cInside]
    simp only [Bool.false_eq_true, ↓reduceIte, List.length_cons, Mark.mk.injEq]
    exact ⟨trivial, by omega, by omega⟩

theorem after_spaces (mark : Mark) (count : Nat) :
    mark.after (spaces count) = ⟨mark.line, mark.column + count, mark.index + count⟩ := by
  have inside : ∀ c ∈ spaces count, isBreak c = false := by
    intro c member
    rw [List.eq_of_mem_replicate member]
    exact not_isBreak_space
  rw [after_line mark inside, length_spaces]

/-- Behind a break and spaces the column is their number. -/
theorem after_newLine (mark : Mark) {front : List Char} (noReturn : '\r' ∉ front) {b : Char}
    (shown : isPrintable b = true) (breaks : isBreak b = true) (count : Nat) :
    (mark.after (front ++ b :: spaces count)).column = count ∧
      mark.line < (mark.after (front ++ b :: spaces count)).line := by
  have noSpaces : '\r' ∉ b :: spaces count := by
    simp [(ne_return_of_isPrintable shown).symm, spaces]
  have own : ∀ mark : Mark, mark.after (b :: spaces count) =
      ⟨mark.line + 1, count, mark.index + 1 + count⟩ := by
    intro mark
    have one : mark.after [b] = ⟨mark.line + 1, 0, mark.index + 1⟩ := by
      rw [after_eq_foldl mark (by simp [(ne_return_of_isPrintable shown).symm])]
      simp [next, breaks]
    rw [← List.singleton_append, after_append mark (by simp [(ne_return_of_isPrintable shown).symm])
      (by simp [spaces]), one, after_spaces]
    simp
  rw [after_append mark noReturn noSpaces, own]
  exact ⟨rfl, Nat.lt_succ_of_le (line_le_after mark noReturn)⟩

end Mark

namespace Token
namespace State

theorem moveTo_eq {state : State} {passed rest : List Char} (text : state.rest = passed ++ rest) :
    state.moveTo rest = { state with rest, place := state.place.after passed } := by
  simp [moveTo, text]

theorem skip_one {state : State} {c : Char} {rest : List Char} (text : state.rest = c :: rest) :
    state.skip 1 = { state with rest, place := state.place.after [c] } := by
  rw [skip, text]
  exact @moveTo_eq state [c] rest text

/-- The steps in front of a token: blanks are passed over, and candidates are refreshed. -/
def ahead (state : State) : Step :=
  (passBlanks (state.rest.length + 1) state).refreshAll

theorem readAll_succ (fuel : Nat) (state : State) :
    readAll (fuel + 1) state = (do
      let next ← state.ahead
      let closed := next.closeBlocks next.place.column
      match closed.rest with
      | [] => closed.finish
      | c :: rest => readAll fuel (← closed.token c rest)) :=
  rfl

/-- One state leads to another: what is read from the one on is read from the other on. -/
def Reads (state next : State) : Prop :=
  ∃ count, count + next.rest.length ≤ state.rest.length ∧
    ∀ fuel, readAll (fuel + count + 1) state = readAll (fuel + 1) next

theorem Reads.refl (state : State) : Reads state state :=
  ⟨0, by omega, fun _ => rfl⟩

theorem Reads.trans {first second third : State} (one : Reads first second)
    (two : Reads second third) : Reads first third := by
  obtain ⟨count, short, reads⟩ := one
  obtain ⟨more, shorter, readsOn⟩ := two
  refine ⟨more + count, by omega, fun fuel => ?_⟩
  rw [← Nat.add_assoc, reads, readsOn]

/-- States that are alike in front of the next token lead to each other. -/
theorem reads_of_ahead {state next : State} (short : next.rest.length ≤ state.rest.length)
    (alike : state.ahead = next.ahead) : Reads state next :=
  ⟨0, by omega, fun fuel => by rw [readAll_succ, readAll_succ, alike]⟩

theorem lineBreak_eq_none {next : List Char} (begins : BeginsToken next) :
    lineBreak next = none := by
  cases next with
  | nil => rfl
  | cons c rest => exact lineBreak_cons_of_noBreak begins.2.1 rest

theorem passBlanks_spaces {state : State} {count : Nat} {next : List Char}
    (text : state.rest = spaces count ++ next) (begins : BeginsToken next) (fuel : Nat) :
    passBlanks (fuel + 1) state = state.moveTo next := by
  have passed (passes : Char → Bool) (space : passes ' ' = true)
      (blanks : ∀ c, passes c = true → isBlank c = true) :
      state.rest.dropWhile passes = next := by
    rw [text, List.dropWhile_append_of_pos (fun c member => by
      rw [List.eq_of_mem_replicate member, space])]
    cases next with
    | nil => rfl
    | cons c rest =>
      rw [List.dropWhile_cons_of_neg]
      intro holds
      exact absurd (blanks c holds) (by simp [begins.1])
  have noComment : next.head? ≠ some '#' := by
    cases next with
    | nil => simp
    | cons c rest => simpa using begins.2.2
  have blanks (c : Char) (holds : (c == ' ' ||
      ((state.inFlow || !state.keyAllowed) && c == '\t')) = true) : isBlank c = true := by
    simp only [isBlank, Bool.or_eq_true, Bool.and_eq_true] at holds ⊢
    exact holds.imp_right And.right
  rw [passBlanks, passed _ (by simp) blanks, if_neg noComment, lineBreak_eq_none begins]

theorem passBlanks_line {state : State} (noFlow : state.outer = []) {count : Nat}
    {next : List Char} (text : state.rest = '\n' :: (spaces count ++ next))
    (begins : BeginsToken next) (fuel : Nat) :
    passBlanks (fuel + 2) state = { state.moveTo next with keyAllowed := true } := by
  have feed : lineBreak ('\n' :: (spaces count ++ next)) = some ('\n', spaces count ++ next) :=
    lineBreak_cons_of_isBreak (by decide) (by decide) _
  have noBlank (passes : Char → Bool) (noPass : passes '\n' = false) :
      state.rest.dropWhile passes = '\n' :: (spaces count ++ next) := by
    rw [text, List.dropWhile_cons_of_neg (by simp [noPass])]
  have first : state.moveTo (spaces count ++ next) = { state with
      rest := spaces count ++ next
      place := state.place.after ['\n'] } := moveTo_eq (by simp [text])
  have whole : state.moveTo next = { state with
      rest := next
      place := (state.place.after ['\n']).after (spaces count) } := by
    rw [← Mark.after_append _ (by decide) (by simp [spaces])]
    exact moveTo_eq (by simp [text])
  rw [passBlanks, noBlank _ (by simp), if_neg (by simp), feed]
  simp only [inFlow, noFlow, List.isEmpty_nil, Bool.not_true, Bool.not_false, Bool.or_true]
  rw [passBlanks_spaces (by rw [first]) begins, whole, first]
  exact moveTo_eq rfl

/-- The kinds of the tokens that have been read. -/
def kinds (state : State) : List TokenKind :=
  state.tokens.map (·.kind)

/-- The slots that have been kept, and those that have been filled, have numbers below that of the
next one. -/
structure Fresh (state : State) : Prop where
  items : ∀ number, Item.slot number ∈ state.items → number < state.slots
  fillings : ∀ filling ∈ state.fillings, filling.slot < state.slots

/-- The kinds of the tokens of items. -/
def kindsOf (fillings : List Filling) (items : List Item) : List TokenKind :=
  (items.reverse.flatMap (itemTokens fillings)).map (·.kind)

theorem kindsOf_cons (fillings : List Filling) (item : Item) (items : List Item) :
    kindsOf fillings (item :: items) =
      kindsOf fillings items ++ (itemTokens fillings item).map (·.kind) := by
  simp [kindsOf]

theorem kinds_eq (state : State) : state.kinds = kindsOf state.fillings state.items :=
  rfl

/-- A slot that is not filled has no tokens. -/
theorem slotTokens_eq_nil {fillings : List Filling} {number : Nat}
    (fresh : ∀ filling ∈ fillings, filling.slot < number) : slotTokens fillings number = [] := by
  have none : fillings.find? (·.slot = number) = none := by
    simpa using fun filling member => Nat.ne_of_lt (fresh filling member)
  rw [slotTokens, none]

/-- A slot that is filled changes the tokens of no other. -/
theorem kindsOf_filling {filling : Filling} {items : List Item}
    (apart : ∀ number, Item.slot number ∈ items → number ≠ filling.slot)
    (fillings : List Filling) : kindsOf (filling :: fillings) items = kindsOf fillings items := by
  induction items with
  | nil => rfl
  | cons item items ih =>
    rw [kindsOf_cons, kindsOf_cons, ih fun number member => apart number (.tail _ member)]
    congr 2
    cases item with
    | token value => rfl
    | slot number =>
      have other := apart number List.mem_cons_self
      simp [itemTokens, slotTokens, other.symm]

/-- The reader is outside of brackets in front of a text, with blocks open at some columns and
tokens of some kinds behind it. -/
structure At (state : State) (columns : List Nat) (column : Nat) (keyAllowed : Bool)
    (kinds : List TokenKind) (rest : List Char) : Prop where
  text : state.rest = rest
  blocks : state.columns = columns
  place : state.place.column = column
  allows : state.keyAllowed = keyAllowed
  known : state.kinds = kinds
  noFlow : state.outer = []
  noCandidate : state.candidate = none
  fresh : state.Fresh

/-- The reader is in front of a token at a column, with blocks open at some columns once those
behind this column are closed. -/
structure Before (state : State) (columns : List Nat) (column : Nat) (kinds : List TokenKind)
    (rest : List Char) : Prop where
  text : state.rest = rest
  place : state.place.column = column
  allows : state.keyAllowed = true
  noFlow : state.outer = []
  noCandidate : state.candidate = none
  fresh : state.Fresh
  closes : ∃ inner, state.columns = inner ++ columns ∧ (∀ behind ∈ inner, column < behind) ∧
    kinds = state.kinds ++ List.replicate inner.length .blockEnd

variable {state : State} {columns : List Nat} {column : Nat} {keyAllowed : Bool}
  {kinds : List TokenKind} {rest : List Char}

theorem At.before (here : At state columns column true kinds rest) :
    Before state columns column kinds rest where
  text := here.text
  place := here.place
  allows := here.allows
  noFlow := here.noFlow
  noCandidate := here.noCandidate
  fresh := here.fresh
  closes := ⟨[], by simpa using here.blocks, by simp, by simpa using here.known.symm⟩

/-- A block behind the column is closed. -/
theorem Before.close {inner : Nat} (before : Before state (inner :: columns) column kinds rest)
    (behind : column < inner) : Before state columns column (kinds ++ [.blockEnd]) rest := by
  obtain ⟨others, blocks, outside, same⟩ := before.closes
  refine { before with closes := ⟨others ++ [inner], by simp [blocks], ?_, ?_⟩ }
  · rw [List.forall_mem_append]
    exact ⟨outside, by simpa using behind⟩
  · rw [same, List.append_assoc, List.length_append, List.length_singleton,
      List.replicate_succ']

/-- The state with marks for the ends of blocks. -/
def ended (state : State) (count : Nat) (columns : List Nat) : State :=
  { state with
    columns
    items := List.replicate count (.token ⟨.blockEnd, state.place⟩) ++ state.items }

theorem closeColumns_append (state : State) {stays : Nat → Bool} {inner columns : List Nat}
    (outside : ∀ behind ∈ inner, stays behind = false)
    (inside : ∀ head ∈ columns.head?, stays head = true) :
    closeColumns stays state (inner ++ columns) = state.ended inner.length columns := by
  induction inner generalizing state with
  | nil =>
    cases columns with
    | nil => rfl
    | cons head columns => simp [closeColumns, inside head rfl, ended]
  | cons behind inner ih =>
    obtain ⟨own, outside⟩ := List.forall_mem_cons.1 outside
    rw [List.cons_append, closeColumns, own, if_neg (by simp), ih _ outside]
    simp [ended, emit, emitAt, List.replicate_succ']

theorem kinds_ended (state : State) (count : Nat) (columns : List Nat) :
    (state.ended count columns).kinds = state.kinds ++ List.replicate count .blockEnd := by
  rw [kinds_eq, kinds_eq]
  induction count with
  | zero => simp [ended]
  | succ count ih =>
    rw [List.replicate_succ', ← List.append_assoc, ← ih]
    exact kindsOf_cons _ _ _

theorem Fresh.ended (fresh : state.Fresh) (count : Nat) (columns : List Nat) :
    (state.ended count columns).Fresh where
  items number member := by
    refine fresh.items number ?_
    simpa [State.ended, List.mem_replicate] using member
  fillings := fresh.fillings

/-- Candidates that nothing depends on are forgotten in the next line. -/
theorem refreshAll_eq (noFlow : state.outer = []) (stale : ∀ candidate ∈ state.candidate,
    candidate.required = false ∧ candidate.place.line < state.place.line) :
    state.refreshAll = .ok { state with candidate := none } := by
  have refreshed : state.refresh state.candidate = .ok none := by
    cases found : state.candidate with
    | none => rfl
    | some candidate =>
      obtain ⟨free, behind⟩ := stale candidate found
      simp [refresh, isStale, behind, giveUp, free, bind, Except.bind, pure, Except.pure]
  rw [refreshAll, noFlow, refreshed]
  rfl

theorem passBlanks_of_beginsToken (begins : BeginsToken state.rest) (fuel : Nat) :
    passBlanks (fuel + 1) state = state := by
  have text : state.rest = spaces 0 ++ state.rest := rfl
  have noMore : state.rest = [] ++ state.rest := rfl
  rw [passBlanks_spaces text begins, moveTo_eq noMore]
  rfl

theorem ahead_of_beginsToken (noFlow : state.outer = []) (noCandidate : state.candidate = none)
    (begins : BeginsToken state.rest) : state.ahead = .ok state := by
  rw [ahead, passBlanks_of_beginsToken begins, refreshAll_eq noFlow (by simp [noCandidate])]
  cases state
  simp_all

theorem closeBlocks_eq (noFlow : state.outer = [])
    (inside : ∀ head ∈ state.columns.head?, head ≤ state.place.column) :
    state.closeBlocks state.place.column = state := by
  have none : state.columns = [] ++ state.columns := rfl
  rw [closeBlocks, if_neg (by simp [inFlow, noFlow]), none,
    closeColumns_append state (by simp) (by simpa using inside)]
  rfl

theorem At.closeBlocks (here : At state columns column keyAllowed kinds rest)
    (inside : ∀ head ∈ columns.head?, head ≤ column) :
    state.closeBlocks state.place.column = state :=
  closeBlocks_eq here.noFlow (by rwa [here.blocks, here.place])

theorem Before.exists_closed (before : Before state columns column kinds rest)
    (inside : ∀ head ∈ columns.head?, head ≤ column) :
    ∃ closed, state.closeBlocks state.place.column = closed ∧ closed.rest.length =
      state.rest.length ∧ At closed columns column true kinds rest := by
  obtain ⟨inner, blocks, outside, same⟩ := before.closes
  refine ⟨state.ended inner.length columns, ?_, rfl, ?_⟩
  · rw [closeBlocks, if_neg (by simp [inFlow, before.noFlow]), blocks]
    refine closeColumns_append state (fun behind member => ?_) (fun head member => ?_)
    · simpa [before.place] using outside behind member
    · simpa [before.place] using inside head member
  · exact ⟨before.text, rfl, before.place, before.allows, by rw [kinds_ended, same], before.noFlow,
      before.noCandidate, before.fresh.ended _ _⟩

/-- In front of a token the blocks behind its column are closed. -/
theorem Before.settle (before : Before state columns column kinds rest)
    (begins : BeginsToken rest) (inside : ∀ head ∈ columns.head?, head ≤ column) :
    ∃ next, Reads state next ∧ At next columns column true kinds rest := by
  obtain ⟨closed, closes, same, settled⟩ := before.exists_closed inside
  have ahead := ahead_of_beginsToken before.noFlow before.noCandidate (by rwa [before.text])
  have aheadClosed := ahead_of_beginsToken settled.noFlow settled.noCandidate
    (by rwa [settled.text])
  refine ⟨closed, ⟨0, by omega, fun fuel => ?_⟩, settled⟩
  rw [readAll_succ, readAll_succ, ahead, aheadClosed]
  simp only [bind, Except.bind, closes, settled.closeBlocks inside]

/-- A token leads to the state behind it. -/
theorem reads_of_token {state next : State} {c : Char} {rest : List Char}
    (ahead : state.ahead = .ok state) (closes : state.closeBlocks state.place.column = state)
    (text : state.rest = c :: rest) (token : state.token c rest = .ok next)
    (shorter : next.rest.length ≤ rest.length) : Reads state next := by
  refine ⟨1, by rw [text, List.length_cons]; omega, fun fuel => ?_⟩
  rw [readAll_succ, ahead]
  simp only [bind, Except.bind, closes, text, token]

/-- A token is read. -/
theorem At.reads {c : Char} (here : At state columns column keyAllowed kinds (c :: rest))
    (begins : BeginsToken (c :: rest)) (inside : ∀ head ∈ columns.head?, head ≤ column)
    {next : State} (token : state.token c rest = .ok next)
    (shorter : next.rest.length ≤ rest.length) : Reads state next :=
  reads_of_token (ahead_of_beginsToken here.noFlow here.noCandidate (by rwa [here.text]))
    (here.closeBlocks inside) here.text token shorter

/-- Spaces are passed over. -/
theorem At.passSpaces {count : Nat} {next : List Char}
    (here : At state columns column keyAllowed kinds (spaces count ++ next))
    (begins : BeginsToken next) :
    ∃ behind, Reads state behind ∧ At behind columns (column + count) keyAllowed kinds next := by
  have moved := moveTo_eq here.text
  refine ⟨state.moveTo next, reads_of_ahead ?_ ?_, ?_⟩
  · simp [here.text, moveTo]
  · rw [ahead, ahead, passBlanks_spaces here.text begins, passBlanks_of_beginsToken begins]
  · rw [moved]
    refine { here with text := rfl, place := ?_, fresh := ⟨here.fresh.items, here.fresh.fillings⟩ }
    rw [Mark.after_spaces, ← here.place]

/-- A line break and the spaces behind it are passed over, whatever candidate there is. -/
theorem reads_newLine (noFlow : state.outer = []) {count : Nat} {next : List Char}
    (text : state.rest = '\n' :: (spaces count ++ next)) (begins : BeginsToken next) :
    Reads state { state with
      rest := next
      place := state.place.after ('\n' :: spaces count)
      keyAllowed := true } := by
  have moved : state.moveTo next = { state with
      rest := next
      place := state.place.after ('\n' :: spaces count) } := moveTo_eq (by simp [text])
  refine reads_of_ahead (by simp [text]; omega) ?_
  rw [ahead, ahead, text, List.length_cons, passBlanks_line noFlow text begins,
    passBlanks_of_beginsToken begins, moved]

/-- A line break and the spaces behind it are passed over. -/
theorem At.passLine {count : Nat} {next : List Char}
    (here : At state columns column keyAllowed kinds ('\n' :: (spaces count ++ next)))
    (begins : BeginsToken next) :
    ∃ behind, Reads state behind ∧ At behind columns count true kinds next := by
  refine ⟨_, reads_newLine here.noFlow here.text begins, ?_⟩
  exact { here with
    text := rfl
    allows := rfl
    fresh := ⟨here.fresh.items, here.fresh.fillings⟩
    place := (@Mark.after_newLine state.place [] (by simp) '\n' (by decide) (by decide) count).1 }

theorem dropCandidate_eq (noCandidate : state.candidate = none) :
    state.dropCandidate = .ok state := by
  cases state
  subst noCandidate
  rfl

/-- At the end of the text all blocks are closed. -/
theorem At.finish (here : At state columns 0 keyAllowed kinds [])
    (inside : ∀ head ∈ columns.head?, head ≤ 0) (fuel : Nat) :
    ∃ last, readAll (fuel + 1) state = .ok last ∧
      last.kinds = kinds ++ List.replicate columns.length .blockEnd := by
  have ahead := ahead_of_beginsToken here.noFlow here.noCandidate
    (by rw [here.text]; exact trivial)
  have blocks : state.columns = columns ++ [] := by rw [here.blocks, List.append_nil]
  have closed : state.closeAllBlocks = state.ended columns.length [] := by
    rw [closeAllBlocks, if_neg (by simp [inFlow, here.noFlow]), blocks,
      closeColumns_append state (by simp) (by simp)]
  have finished : state.finish = .ok (state.ended columns.length []) := by
    have same : { state with place := state.place } = state := rfl
    simp only [State.finish, here.place, ↓reduceIte]
    rw [same, closed]
    exact dropCandidate_eq here.noCandidate
  refine ⟨state.ended columns.length [], ?_, by rw [kinds_ended, here.known]⟩
  rw [State.readAll_succ, ahead]
  simp only [bind, Except.bind, here.closeBlocks inside, here.text, finished]

end State
end Token
end Yaml
end SchemaScaffold
