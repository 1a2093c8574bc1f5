import SchemaScaffold.Proofs.Yaml.Bare
import SchemaScaffold.Proofs.Yaml.Block
import SchemaScaffold.Proofs.Yaml.Quoted
import SchemaScaffold.Proofs.Yaml.Reading

/-!
# Tokens of scalars

A scalar that is written in any style is read as one token of that style. As a value it ends with
its line; as a simple key it ends at a colon, which tells that it is a key.
-/

namespace SchemaScaffold
namespace Yaml

/-- A text is written as a scalar of a style whose lines begin at a column. -/
inductive Writes (column : Nat) : Style → List Char → List Char → Prop
  | bare {text : List Char} (bare : IsBare text) : Writes column .plain text text
  | single {text : List Char} (allowed : Style.allowsSingle text = true) (noFeed : '\n' ∉ text) :
      Writes column .singleQuoted text
        ('\x27' :: (singleQuotedBody column false text ++ ['\x27']))
  | double (text : List Char) :
      Writes column .doubleQuoted text ('\x22' :: (text.flatMap doubleQuotedChar ++ ['\x22']))
  | literal {text : List Char} (allowed : Style.allowsBlock text = true) :
      Writes column .literal text (blockHeader text ++ '\n' :: blockBody column true text)

/-- Every text is written as a scalar of its style. -/
theorem writes_textScalar (column : Nat) (text : String) :
    Writes column (Style.ofText text.toList) text.toList (textScalar column text) := by
  rw [textScalar]
  generalize text.toList = text
  unfold Style.ofText
  split
  · split
    · next allowed => exact .literal allowed
    · exact .double text
  · next noFeed =>
    split
    · next plain =>
      simp only [Bool.and_eq_true, Bool.not_eq_true'] at plain
      have nonempty : text ≠ [] := by
        rintro rfl
        simp [Plain.isAmbiguous] at plain
      exact .bare (.of_allowsPlain nonempty plain.2)
    · split
      · next allowed => exact .single allowed (by simpa using noFeed)
      · exact .double text

/-- Digits are written as they are. -/
theorem isBare_of_isDigit {text : List Char} (nonempty : text ≠ [])
    (digits : ∀ c ∈ text, c.isDigit = true) : IsBare text := by
  have harmless : ∀ c ∈ "0123456789".toList, (isPrintable c = true ∧ isBreak c = false) ∧
      isOpeningIndicator c = false ∧ c ≠ ' ' ∧ c ≠ ':' ∧ c ≠ '#' ∧ c ≠ '?' ∧ c ≠ '-' ∧ c ≠ '.' := by
    exact forall_mem_of_all (by decide)
  have known (c : Char) (member : c ∈ text) := harmless c (Text.mem_of_isDigit (digits c member))
  have calm : ∀ spaced, Style.hasInnerIndicator spaced text = false := by
    clear nonempty
    induction text with
    | nil => simp [Style.hasInnerIndicator]
    | cons c rest ih =>
      obtain ⟨-, -, -, noColon, noComment, -⟩ := known c List.mem_cons_self
      have later := ih (fun d member => digits d (.tail _ member))
        fun d member => known d (.tail _ member)
      simp [Style.hasInnerIndicator, noColon, noComment, later]
  refine ⟨nonempty, ?_, fun c member => (known c member).1, fun first => ?_, fun last => ?_⟩
  · obtain ⟨c, rest, rfl⟩ := List.exists_cons_of_ne_nil nonempty
    obtain ⟨-, noOpening, -, noColon, noComment, noMark, noDash, noDot⟩ :=
      known c List.mem_cons_self
    have inner := calm false
    simp only [Style.hasInnerIndicator, Bool.or_eq_false_iff] at inner
    simp [Style.hasIndicator, List.isPrefixOf, noOpening, noColon, noMark, noDash, noDash.symm,
      noDot.symm, inner.2]
  · exact (known ' ' (List.mem_of_mem_head? first)).2.2.1 rfl
  · exact (known ' ' (List.mem_of_getLast? last)).2.2.1 rfl

theorem shown_spaces (count : Nat) : ∀ c ∈ spaces count, isPrintable c = true := by
  intro c member
  rw [List.eq_of_mem_replicate member]
  decide

theorem shown_indentation (broken : Bool) (column : Nat) :
    ∀ c ∈ (if broken then spaces column else []), isPrintable c = true := by
  cases broken
  · simp
  · exact shown_spaces column

theorem shown_singleQuotedBody {text : List Char} (shown : ∀ c ∈ text, isPrintable c = true)
    (column : Nat) (broken : Bool) :
    ∀ c ∈ singleQuotedBody column broken text, isPrintable c = true := by
  induction text generalizing broken with
  | nil => exact shown_indentation broken column
  | cons d rest ih =>
    obtain ⟨own, shown⟩ := List.forall_mem_cons.1 shown
    have doubled : ∀ c ∈ (if d = '\x27' then ['\x27', '\x27'] else [d]), isPrintable c = true := by
      split
      · exact forall_mem_of_all (by decide)
      · simpa using own
    rw [singleQuotedBody]
    split
    · exact List.forall_mem_cons.2 ⟨own, ih shown true⟩
    · split
      · exact List.forall_mem_cons.2 ⟨own, ih shown broken⟩
      · exact List.forall_mem_append.2 ⟨List.forall_mem_append.2
          ⟨shown_indentation broken column, doubled⟩, ih shown false⟩

theorem shown_blockBody {text : List Char} (shown : ∀ c ∈ text, isPrintable c = true)
    (column : Nat) (broken : Bool) :
    ∀ c ∈ blockBody column broken text, isPrintable c = true := by
  induction text generalizing broken with
  | nil => simp [blockBody]
  | cons d rest ih =>
    obtain ⟨own, shown⟩ := List.forall_mem_cons.1 shown
    rw [blockBody]
    split
    · exact List.forall_mem_cons.2 ⟨own, ih shown true⟩
    · exact List.forall_mem_append.2 ⟨shown_indentation broken column,
        List.forall_mem_cons.2 ⟨own, ih shown false⟩⟩

theorem shown_blockHeader (text : List Char) : ∀ c ∈ blockHeader text, isPrintable c = true := by
  have digit : ∀ c ∈ Block.digit text, isPrintable c = true := by
    cases text with
    | nil => simp [Block.digit]
    | cons c rest =>
      rw [Block.digit]
      split <;> exact forall_mem_of_all (by decide)
  have sign : ∀ c ∈ Block.signBefore text.reverse, isPrintable c = true := by
    rw [Block.signBefore.eq_def]
    split
    · exact forall_mem_of_all (by decide)
    · split <;> exact forall_mem_of_all (by decide)
    · split
      · split <;> exact forall_mem_of_all (by decide)
      · exact forall_mem_of_all (by decide)
  rw [Block.blockHeader_eq]
  exact List.forall_mem_cons.2 ⟨by decide, List.forall_mem_append.2 ⟨digit, sign⟩⟩

theorem shown_hexCapitals (width number : Nat) :
    ∀ c ∈ Text.hexCapitals width number, isPrintable c = true ∧ isBreak c = false := by
  have digits : ∀ c ∈ "0123456789ABCDEF".toList, isPrintable c = true ∧ isBreak c = false := by
    exact forall_mem_of_all (by decide)
  exact fun c member => digits c (Text.mem_of_mem_hexCapitals member)

/-- What stands for a character between double quotes has no breaks. -/
theorem shown_doubleQuotedChar (c : Char) :
    ∀ d ∈ doubleQuotedChar c, isPrintable d = true ∧ isBreak d = false := by
  unfold doubleQuotedChar
  split
  · next shown =>
    simp only [Bool.and_eq_true, Bool.not_eq_true'] at shown
    simpa using shown.1.1
  · refine List.forall_mem_cons.2 ⟨by decide, ?_⟩
    split
    case h_16 =>
      have digits (width : Nat) := shown_hexCapitals width c.toNat
      split
      · exact List.forall_mem_cons.2 ⟨by decide, digits 2⟩
      · split
        · exact List.forall_mem_cons.2 ⟨by decide, digits 4⟩
        · exact List.forall_mem_cons.2 ⟨by decide, digits 8⟩
    all_goals exact forall_mem_of_all (by decide)

/-- No character between double quotes takes more than a backslash, a letter and four digits. -/
theorem length_doubleQuotedChar (c : Char) : (doubleQuotedChar c).length ≤ 6 := by
  unfold doubleQuotedChar
  split
  · simp
  · next hidden =>
    have short (code : c.toNat < 0x10000) : (if c.toNat ≤ 0xFF then
        'x' :: Text.hexCapitals 2 c.toNat else if c.toNat ≤ 0xFFFF then
        'u' :: Text.hexCapitals 4 c.toNat else 'U' :: Text.hexCapitals 8 c.toNat).length ≤ 5 := by
      split
      · simp [@Text.length_hexCapitals 2 c.toNat (by omega) (by decide)]
      · simp [@Text.length_hexCapitals 4 c.toNat (by omega) (by decide),
          show c.toNat ≤ 0xFFFF by omega]
    have code : c.toNat < 0x10000 := by
      refine Nat.lt_of_not_le fun wide => hidden ?_
      have apart (d : Char) (small : d.toNat < 0x10000) : c ≠ d := by
        rintro rfl
        omega
      simp [isPrintable, wide, isBreak, apart '\n' (by decide), apart '\r' (by decide),
        apart '\u0085' (by decide), apart '\u2028' (by decide), apart '\u2029' (by decide),
        apart '\x22' (by decide), apart '\\' (by decide)]
    rw [List.length_cons]
    refine Nat.succ_le_succ ?_
    split
    case h_16 => exact short code
    all_goals decide

/-- All characters of a scalar are shown. -/
theorem Writes.shown {column : Nat} {style : Style} {text written : List Char}
    (writes : Writes column style text written) : ∀ c ∈ written, isPrintable c = true := by
  cases writes with
  | bare bare => exact fun c member => (bare.shown c member).1
  | single allowed noFeed =>
    simp only [Style.allowsSingle, Bool.and_eq_true, List.all_eq_true] at allowed
    exact List.forall_mem_cons.2 ⟨by decide, List.forall_mem_append.2
      ⟨shown_singleQuotedBody allowed.1.1 column false, forall_mem_of_all (by decide)⟩⟩
  | double =>
    refine List.forall_mem_cons.2 ⟨by decide, List.forall_mem_append.2
      ⟨?_, forall_mem_of_all (by decide)⟩⟩
    intro d member
    obtain ⟨c, -, inside⟩ := List.mem_flatMap.1 member
    exact (shown_doubleQuotedChar c d inside).1
  | literal allowed =>
    simp only [Style.allowsBlock, Bool.and_eq_true, List.all_eq_true] at allowed
    exact List.forall_mem_append.2 ⟨shown_blockHeader text,
      List.forall_mem_cons.2 ⟨by decide, shown_blockBody allowed.1.1.2 column true⟩⟩

namespace Token
namespace State

open Style (hasIndicator)

variable {state : State} {columns : List Nat} {column : Nat} {keyAllowed : Bool}
  {kinds : List TokenKind} {passed rest : List Char}

/-- The candidate for a key that begins here, if one may begin. -/
def ownCandidate (state : State) : Option Candidate :=
  if state.keyAllowed then
    some ⟨state.slots, state.place, state.columns.head? = some state.place.column⟩
  else none

/-- The state behind a token that may begin a key. -/
def scanned (state : State) (passed rest : List Char) (kind : TokenKind) (keyAllowed : Bool) :
    State :=
  { state with
    rest
    place := state.place.after passed
    keyAllowed
    candidate := state.ownCandidate
    items := .token ⟨kind, state.place⟩ ::
      (if state.keyAllowed then .slot state.slots :: state.items else state.items)
    slots := if state.keyAllowed then state.slots + 1 else state.slots }

theorem keepSlot_eq (noFlow : state.outer = []) (noCandidate : state.candidate = none) :
    state.keepSlot = .ok { state with
      candidate := state.ownCandidate
      items := if state.keyAllowed then .slot state.slots :: state.items else state.items
      slots := if state.keyAllowed then state.slots + 1 else state.slots } := by
  rw [keepSlot, dropCandidate_eq noCandidate]
  cases allowed : state.keyAllowed with
  | false =>
    cases state
    simp_all [ownCandidate, pure, Except.pure]
  | true => simp [ownCandidate, allowed, inFlow, noFlow, bind, Except.bind, pure, Except.pure]

theorem keyed_eq {α : Type} (here : At state columns column keyAllowed kinds (passed ++ rest))
    {activity : Activity} {marked : Nat} {reader : Reader α} {value : α}
    (read : reader ((passed ++ rest).drop marked) = .ok (value, rest)) (kind : α → TokenKind) :
    state.keyed activity marked reader kind =
      .ok (value, state.scanned passed rest (kind value) false) := by
  have text : state.rest = passed ++ rest := here.text
  rw [keyed, keepSlot_eq here.noFlow here.noCandidate]
  simp only [bind, Except.bind, run, text, read, pure, Except.pure]
  rw [moveTo_eq (by rfl)]
  rfl

theorem kinds_scanned (fresh : state.Fresh) (passed rest : List Char) (kind : TokenKind)
    (allowed : Bool) :
    (state.scanned passed rest kind allowed).kinds = state.kinds ++ [kind] := by
  rw [kinds_eq, kinds_eq, scanned, kindsOf_cons]
  congr 1
  split
  · rw [kindsOf_cons, itemTokens, slotTokens_eq_nil fresh.fillings, List.map_nil, List.append_nil]
  · rfl

theorem Fresh.scanned (fresh : state.Fresh) (passed rest : List Char) (kind : TokenKind)
    (allowed : Bool) :
    (state.scanned passed rest kind allowed).Fresh := by
  have grows : state.slots ≤ if state.keyAllowed then state.slots + 1 else state.slots := by
    split <;> omega
  refine ⟨fun number member => ?_, fun filling member => ?_⟩
  · cases allows : state.keyAllowed with
    | false =>
      have below := fresh.items number (by simpa [State.scanned, allows] using member)
      simpa [State.scanned, allows] using below
    | true =>
      have cases_ : number = state.slots ∨ Item.slot number ∈ state.items := by
        simpa [State.scanned, allows] using member
      rcases cases_ with rfl | old
      · simp [State.scanned, allows]
      · have below := fresh.items number old
        simp [State.scanned, allows]
        omega
  · exact Nat.lt_of_lt_of_le (fresh.fillings filling member) grows

theorem token_single (rest : List Char) :
    state.token '\x27' rest = state.quotedScalar '\x27' .singleQuoted := by
  simp [token, startsMark]

theorem token_double (rest : List Char) :
    state.token '\x22' rest = state.quotedScalar '\x22' .doubleQuoted := by
  simp [token, startsMark]

theorem token_literal (noFlow : state.outer = []) (rest : List Char) :
    state.token '|' rest = state.blockScalar .literal := by
  simp [token, startsMark, inFlow, noFlow]

/-- A text without quotes is no mark of a document. -/
theorem not_startsMark_isBare {text tail : List Char} (bare : IsBare text)
    (ends : ∀ c ∈ tail.head?, c ≠ '-' ∧ c ≠ '.') : startsMark (text ++ tail) = false := by
  have noMark := bare.noIndicator
  simp only [hasIndicator, Bool.or_eq_false_iff] at noMark
  obtain ⟨⟨noDashes, noDots⟩, -⟩ := noMark
  have nonempty := bare.nonempty
  unfold startsMark
  split
  · next same =>
    rcases text with _ | ⟨a, _ | ⟨b, _ | ⟨c, text⟩⟩⟩ <;> simp_all [List.isPrefixOf]
  · next same =>
    rcases text with _ | ⟨a, _ | ⟨b, _ | ⟨c, text⟩⟩⟩ <;> simp_all [List.isPrefixOf]
  · rfl

theorem token_bare (noFlow : state.outer = []) {c : Char} {text tail : List Char}
    (bare : IsBare (c :: text)) (ends : ∀ d ∈ tail.head?, d ≠ '-' ∧ d ≠ '.') :
    state.token c (text ++ tail) = state.bareScalar := by
  have noMark : startsMark (c :: (text ++ tail)) = false := not_startsMark_isBare bare ends
  have noIndicator := bare.noIndicator
  simp only [hasIndicator, Bool.or_eq_false_iff] at noIndicator
  obtain ⟨-, ⟨noOpening, noBegin⟩, -⟩ := noIndicator
  have noBlank : isBlank c = false :=
    isBlank_eq_false (bare.shown c List.mem_cons_self).1 fun space => bare.first (by simp [space])
  have marks : (c == '-' || c == '?' || c == ':') = true → startsBlank (text ++ tail) = false := by
    intro mark
    refine Bare.startsBlank_append ?_ tail
    cases ended : endsWord text <;> simp_all
  have apart : c ≠ '#' ∧ c ≠ ',' ∧ c ≠ '[' ∧ c ≠ ']' ∧ c ≠ '\x7b' ∧ c ≠ '\x7d' ∧ c ≠ '&' ∧
      c ≠ '*' ∧ c ≠ '!' ∧ c ≠ '|' ∧ c ≠ '>' ∧ c ≠ '\x27' ∧ c ≠ '\x22' ∧ c ≠ '%' ∧ c ≠ '@' ∧
      c ≠ '\x60' := by
    simpa [isOpeningIndicator] using noOpening
  have begins : state.beginsBare c (text ++ tail) = true := by
    by_cases mark : (c == '-' || c == '?' || c == ':') = true
    · have goesOn := marks mark
      generalize text ++ tail = following at goesOn
      have noHead : following.head?.any isBlank = false := by
        cases following <;> simp_all [startsBlank]
      simp only [Bool.or_eq_true, beq_iff_eq] at mark
      rcases mark with (rfl | rfl) | rfl <;> simp [beginsBare, inFlow, noFlow, goesOn, noHead]
    · simp only [Bool.or_eq_true, beq_iff_eq, not_or] at mark
      simp [beginsBare, noBlank, apart, mark]
  have noEntry : (decide (c = '-') && startsBlank (text ++ tail)) = false := by
    by_cases dash : c = '-' <;> simp_all
  have noKey : (c == '?' && startsBlank (text ++ tail)) = false := by
    by_cases mark : c = '?' <;> simp_all
  have noValue : (c == ':' && startsBlank (text ++ tail)) = false := by
    by_cases colon : c = ':' <;> simp_all
  simp [token, inFlow, noFlow, noMark, begins, noEntry, noKey, noValue, apart]

/-! ## Values -/

/-- The candidate that begins with a token is forgotten behind its line, if no block has its
column. -/
theorem reads_forgotten {next : State} (noFlow : next.outer = [])
    (inside : ∀ head ∈ state.columns.head?, head < state.place.column)
    (own : next.candidate = state.ownCandidate) (behind : state.place.line < next.place.line)
    (begins : BeginsToken next.rest) : Reads next { next with candidate := none } := by
  refine reads_of_ahead (Nat.le_refl _) ?_
  rw [@ahead_of_beginsToken { next with candidate := none } noFlow rfl begins, ahead,
    passBlanks_of_beginsToken begins]
  refine refreshAll_eq noFlow fun candidate found => ?_
  rw [own, ownCandidate] at found
  split at found
  · obtain rfl := Option.some.inj found
    have apart : state.columns.head? ≠ some state.place.column := fun same =>
      absurd (inside _ same) (Nat.lt_irrefl _)
    exact ⟨by simpa using apart, behind⟩
  · simp at found

/-- Behind the line of a token that might have begun a key. -/
theorem At.scanned_line {written next : List Char} {count : Nat}
    (here : At state columns column keyAllowed kinds (written ++ '\n' :: (spaces count ++ next)))
    (inside : ∀ head ∈ columns.head?, head < column) (noReturn : '\r' ∉ written)
    (begins : BeginsToken next) (kind : TokenKind) :
    ∃ settled, Reads (state.scanned (written ++ '\n' :: spaces count) next kind true) settled ∧
      At settled columns count true (kinds ++ [kind]) next := by
  obtain ⟨place, behind⟩ :=
    @Mark.after_newLine state.place written noReturn '\n' (by decide) (by decide) count
  have fresh := here.fresh.scanned (written ++ '\n' :: spaces count) next kind true
  refine ⟨_, reads_forgotten here.noFlow ?_ rfl behind begins,
    ⟨rfl, here.blocks, place, rfl, ?_, here.noFlow, rfl, ⟨fresh.items, fresh.fillings⟩⟩⟩
  · rw [here.blocks, here.place]
    exact inside
  · rw [← here.known]
    exact kinds_scanned here.fresh (written ++ '\n' :: spaces count) next kind true

theorem beginsToken_of_writes {style : Style} {text written : List Char} {width : Nat}
    (writes : Writes width style text written) (tail : List Char) :
    ∃ c rest, written = c :: rest ∧ BeginsToken (c :: (rest ++ tail)) := by
  cases writes with
  | single => exact ⟨_, _, rfl, by decide, by decide, by decide⟩
  | double => exact ⟨_, _, rfl, by decide, by decide, by decide⟩
  | literal =>
    rw [Block.blockHeader_eq, List.cons_append]
    exact ⟨_, _, rfl, by decide, by decide, by decide⟩
  | bare bare =>
    obtain ⟨c, rest, rfl⟩ := List.exists_cons_of_ne_nil bare.nonempty
    obtain ⟨shown, noBreak⟩ := bare.shown c List.mem_cons_self
    have noIndicator := bare.noIndicator
    refine ⟨c, rest, rfl, isBlank_eq_false shown fun space => bare.first (by simp [space]),
      noBreak, ?_⟩
    rintro rfl
    simp [hasIndicator, isOpeningIndicator] at noIndicator

/-- A shown text that closes its line ends with a break. -/
theorem exists_break {written : List Char} (shown : ∀ c ∈ written, isPrintable c = true) :
    ∃ front b, written ++ closing written = front ++ [b] ∧ isPrintable b = true ∧
      isBreak b = true ∧ '\r' ∉ front := by
  have noReturn : '\r' ∉ written := fun member => absurd (shown _ member) (by decide)
  rcases List.eq_nil_or_concat written with rfl | ⟨front, b, same⟩
  · exact ⟨[], '\n', rfl, by decide, by decide, noReturn⟩
  · rw [List.concat_eq_append] at same
    subst same
    rw [closing_concat]
    split
    · next breaks =>
      exact ⟨front, b, List.append_nil _, shown b (by simp), breaks,
        fun member => noReturn (List.mem_append_left _ member)⟩
    · exact ⟨front ++ [b], '\n', rfl, by decide, by decide, noReturn⟩

theorem reads_scanned_line (noFlow : state.outer = []) {written next : List Char} {count : Nat}
    (noReturn : '\r' ∉ written) (begins : BeginsToken next) (kind : TokenKind) :
    Reads (state.scanned written ('\n' :: (spaces count ++ next)) kind false)
      (state.scanned (written ++ '\n' :: spaces count) next kind true) := by
  have reads := @reads_newLine (state.scanned written ('\n' :: (spaces count ++ next)) kind false)
    noFlow count next rfl begins
  have same : (state.place.after written).after ('\n' :: spaces count) =
      state.place.after (written ++ '\n' :: spaces count) :=
    (Mark.after_append _ noReturn (by simp [spaces])).symm
  simp only [scanned] at reads ⊢
  rwa [same] at reads

/-- Only a block may end with a line break. -/
theorem closing_of_writes {style : Style} {text written : List Char} {width : Nat}
    (writes : Writes width style text written) (noBlock : style ≠ .literal) :
    closing written = ['\n'] := by
  cases writes with
  | literal => exact absurd rfl noBlock
  | single => exact closing_concat ('\x27' :: singleQuotedBody width false text) '\x27'
  | double => exact closing_concat ('\x22' :: text.flatMap doubleQuotedChar) '\x22'
  | bare bare =>
    rcases List.eq_nil_or_concat text with rfl | ⟨front, c, same⟩
    · exact absurd rfl bare.nonempty
    · rw [List.concat_eq_append] at same
      rw [same, closing_concat, (bare.shown c (by simp [same])).2]
      rfl

/-- A scalar between quotes is read up to its closing quote. -/
theorem At.token_quoted {style : Style} {text written tail : List Char} {width : Nat}
    (here : At state columns column keyAllowed kinds (written ++ tail))
    (writes : Writes width style text written) (positive : 0 < width)
    (quoted : style ≠ .plain ∧ style ≠ .literal) (ends : tail.head? ≠ some '\x27') {c : Char}
    {rest : List Char} (same : written = c :: rest) :
    state.token c (rest ++ tail) = .ok (state.scanned written tail (.scalar style text) false) := by
  cases writes with
  | bare => exact absurd rfl quoted.1
  | literal => exact absurd rfl quoted.2
  | single allowed noFeed =>
    obtain ⟨rfl, rfl⟩ := List.cons.inj same
    have read := Quoted.read_singleQuoted positive ends allowed noFeed
    rw [token_single, quotedScalar, keyed_eq here (by simpa using read)]
    rfl
  | double =>
    obtain ⟨rfl, rfl⟩ := List.cons.inj same
    have read := Quoted.read_doubleQuoted text tail
    rw [token_double, quotedScalar, keyed_eq here (by simpa using read)]
    rfl

/-- A bare key is read up to its colon. -/
theorem At.token_bareKey {text rest : List Char}
    (here : At state columns column keyAllowed kinds (text ++ ':' :: rest)) (bare : IsBare text)
    (blank : startsBlank rest = true) {c : Char} {more : List Char} (same : text = c :: more) :
    state.token c (more ++ ':' :: rest) =
      .ok (state.scanned text (':' :: rest) (.scalar .plain text) false) := by
  have read := @Bare.read_key ⟨state.innerColumn, state.inFlow⟩ (by simp [inFlow, here.noFlow])
    text rest bare blank
  have token := @token_bare state here.noFlow c more (':' :: rest) (same ▸ bare) (by simp)
  rw [token, bareScalar, keyed_eq here (by simpa using read)]
  rfl

/-- A bare value is read up to the token in the next line. -/
theorem At.token_bareLine {text next : List Char} {count : Nat}
    (here : At state columns column keyAllowed kinds (text ++ '\n' :: (spaces count ++ next)))
    (bare : IsBare text) (begins : BeginsToken next)
    (outside : next = [] ∨ count < state.innerColumn) {c : Char} {more : List Char}
    (same : text = c :: more) :
    state.token c (more ++ '\n' :: (spaces count ++ next)) =
      .ok (state.scanned (text ++ '\n' :: spaces count) next (.scalar .plain text) true) := by
  have read := @Bare.read_line ⟨state.innerColumn, state.inFlow⟩ (by simp [inFlow, here.noFlow])
    text next count bare begins outside
  have token := @token_bare state here.noFlow c more ('\n' :: (spaces count ++ next)) (same ▸ bare)
    (by simp)
  have split : At state columns column keyAllowed kinds ((text ++ '\n' :: spaces count) ++ next) :=
    by simpa using here
  rw [token, bareScalar, keyed_eq split (by simpa using read)]
  rfl

/-- A block is read up to the token in the line behind it. -/
theorem At.token_literal {text written next : List Char} {count : Nat}
    (here : At state columns column keyAllowed kinds
      (written ++ (closing written ++ (spaces count ++ next))))
    (writes : Writes (state.innerColumn - 1 + 2) .literal text written) (begins : BeginsToken next)
    (outside : count < state.innerColumn - 1 + 2) {c : Char} {rest : List Char}
    (same : written = c :: rest) :
    ∃ behind, state.token c (rest ++ (closing written ++ (spaces count ++ next))) = .ok behind ∧
      At behind columns count true (kinds ++ [.scalar .literal text]) next := by
  obtain ⟨front, b, closed, bShown, breaks, noReturn⟩ := exists_break writes.shown
  have split : state.rest = front ++ b :: spaces count ++ next := by
    rw [here.text, ← List.append_assoc, closed]
    simp
  cases writes with
  | literal allowed =>
    rw [Block.blockHeader_eq, List.cons_append] at same
    obtain ⟨rfl, rfl⟩ := List.cons.inj same
    have read := Block.read_literal allowed rfl outside begins
    refine ⟨{ state with
      rest := next
      place := state.place.after (front ++ b :: spaces count)
      keyAllowed := true
      items := .token ⟨.scalar .literal text, state.place⟩ :: state.items }, ?_, rfl, here.blocks,
      (Mark.after_newLine _ noReturn bShown breaks count).1, rfl, ?_, here.noFlow,
      here.noCandidate, ?_, here.fresh.fillings⟩
    · have behind : state.rest.drop 1 = (blockHeader text).drop 1 ++ '\n' ::
          (blockBody (state.innerColumn - 1 + 2) true text ++
            (closing (blockHeader text ++ '\n' ::
              blockBody (state.innerColumn - 1 + 2) true text) ++ (spaces count ++ next))) := by
        rw [here.text, Block.blockHeader_eq]
        simp
      have moved := moveTo_eq split
      rw [State.token_literal here.noFlow, blockScalar, dropCandidate_eq here.noCandidate]
      simp only [bind, Except.bind, pure, Except.pure, run, behind,
        show (Style.literal == Style.folded) = false from rfl, read, moved]
    · rw [← here.known]
      exact kindsOf_cons _ _ _
    · exact fun number member => here.fresh.items number (by simpa using member)

/-- A scalar is read up to the token in the next line. -/
theorem At.value {style : Style} {text written next : List Char} {count : Nat}
    (here : At state columns column keyAllowed kinds
      (written ++ (closing written ++ (spaces count ++ next))))
    (writes : Writes (state.innerColumn - 1 + 2) style text written)
    (inside : ∀ head ∈ columns.head?, head < column) (begins : BeginsToken next)
    (outside : (next = [] ∧ count = 0) ∨ count < state.innerColumn) :
    ∃ behind, Reads state behind ∧
      At behind columns count true (kinds ++ [.scalar style text]) next := by
  have noReturn : '\r' ∉ written := fun member => absurd (writes.shown _ member) (by decide)
  have within : ∀ head ∈ columns.head?, head ≤ column :=
    fun head member => Nat.le_of_lt (inside head member)
  obtain ⟨c, rest, same, starts⟩ :=
    beginsToken_of_writes writes (closing written ++ (spaces count ++ next))
  have front : written ++ (closing written ++ (spaces count ++ next)) =
    c :: (rest ++ (closing written ++ (spaces count ++ next))) := by rw [same, List.cons_append]
  by_cases block : style = .literal
  · subst block
    obtain ⟨behind, token, settled⟩ := here.token_literal writes begins (by omega) same
    exact ⟨behind, (front ▸ here).reads starts within token (by simp [settled.text]; omega), settled⟩
  · have closed := closing_of_writes writes block
    rw [closed] at here front starts
    obtain ⟨settled, reads, known⟩ :=
      At.scanned_line here inside noReturn begins (.scalar style text)
    refine ⟨settled, .trans ?_ reads, known⟩
    by_cases plain : style = .plain
    · subst plain
      cases writes with
      | bare bare =>
        have token := here.token_bareLine bare begins (outside.imp_left And.left) same
        exact (front ▸ here).reads starts within token (by simp [scanned]; omega)
    · have token := here.token_quoted writes (by omega) ⟨plain, block⟩ (by simp) same
      refine .trans ((front ▸ here).reads starts within token ?_)
        (reads_scanned_line here.noFlow noReturn begins _)
      simp [scanned]

end State
end Token
end Yaml
end SchemaScaffold
