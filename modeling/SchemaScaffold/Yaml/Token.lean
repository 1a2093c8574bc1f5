import SchemaScaffold.Yaml.Property
import SchemaScaffold.Yaml.Scalar.Bare
import SchemaScaffold.Yaml.Scalar.Block
import SchemaScaffold.Yaml.Scalar.Quoted

/-!
# Tokens of YAML

The pieces of a YAML text. Indentation is turned into marks that begin and end collections, and
keys are marked, though it takes the colon behind a key to know it for one: where a key may
begin a slot is kept, and the slot is filled when the colon comes.
-/

namespace SchemaScaffold
namespace Yaml

/-- The kinds of tokens. -/
inductive TokenKind where
  | directive (value : Property.Directive)
  | documentStart
  | documentEnd
  | blockListStart
  | blockRecordStart
  | blockEnd
  | flowListStart
  | flowListEnd
  | flowRecordStart
  | flowRecordEnd
  | entry
  | comma
  | key
  | value
  | reference (name : List Char)
  | anchor (name : List Char)
  | tag (value : Property.Tag)
  | scalar (style : Style) (text : List Char)
deriving DecidableEq, Repr

/-- A token and the place where it begins. -/
structure Token where
  kind : TokenKind
  place : Mark
deriving DecidableEq, Repr

namespace Token

/-- A place at which a key may begin. -/
structure Candidate where
  /-- The number of the slot that is kept for the mark of the key. -/
  slot : Nat
  place : Mark
  /-- Something must be a key here, or the block is malformed. -/
  required : Bool
deriving DecidableEq, Repr

/-- What has been read so far: tokens, and slots for keys. -/
inductive Item where
  | token (value : Token)
  | slot (number : Nat)
deriving DecidableEq, Repr

/-- What a slot is filled with: the mark of a key, and before it that of a record if the key is
the first of one. -/
structure Filling where
  slot : Nat
  opensRecord : Bool
  place : Mark
deriving DecidableEq, Repr

/-- The state of the reader between tokens. -/
structure State where
  rest : List Char
  place : Mark := {}
  /-- The columns of the open block collections, innermost first. -/
  columns : List Nat := []
  /-- The candidate for a key within the innermost brackets. -/
  candidate : Option Candidate := none
  /-- The candidates outside of brackets that are open, innermost first. -/
  outer : List (Option Candidate) := []
  /-- A key may begin here. -/
  keyAllowed : Bool := true
  /-- What has been read, last item first. -/
  items : List Item := []
  slots : Nat := 0
  fillings : List Filling := []

/-- A step that reads on, unless there is a fault. -/
abbrev Step := Except Fault State

namespace State

/-- The reader is between brackets. -/
def inFlow (state : State) : Bool :=
  !state.outer.isEmpty

/-- The least column inside the innermost block collection. -/
def innerColumn (state : State) : Nat :=
  match state.columns with
  | [] => 0
  | column :: _ => column + 1

/-- A fault at the present place. -/
def fail {α : Type} (state : State) (problem : Problem)
    (during : Option (Activity × Mark) := none) : Except Fault α :=
  .error ⟨problem, state.place, during⟩

/-- The state behind characters, of which `rest` is what follows. -/
def moveTo (state : State) (rest : List Char) : State :=
  let passed := state.rest.take (state.rest.length - rest.length)
  { state with rest, place := state.place.after passed }

def skip (state : State) (count : Nat) : State :=
  state.moveTo (state.rest.drop count)

/-- The state with a token at a place behind what has been read. -/
def emitAt (state : State) (place : Mark) (kind : TokenKind) : State :=
  { state with items := .token ⟨kind, place⟩ :: state.items }

def emit (state : State) (kind : TokenKind) : State :=
  state.emitAt state.place kind

/-- Run a reader on the rest of the text. -/
def run {α : Type} (state : State) (activity : Activity) (reader : Reader α)
    (text : List Char) : Except Fault (α × State) :=
  match reader text with
  | .ok (value, rest) => .ok (value, state.moveTo rest)
  | .error (problem, rest) =>
    (state.moveTo rest).fail problem (some (activity, state.place))

/-- Give a candidate up, which is a fault if it is required. -/
def giveUp (state : State) (candidate : Candidate) : Except Fault Unit :=
  if candidate.required then state.fail .missingColon (some (.key, candidate.place))
  else .ok ()

/-- The longest key, in characters. -/
def maxKeyLength : Nat := 1024

/-- A candidate is out of date behind its line, or too far behind it. -/
def isStale (state : State) (candidate : Candidate) : Bool :=
  candidate.place.line < state.place.line ||
    candidate.place.index + maxKeyLength < state.place.index

/-- A candidate unless it is out of date. -/
def refresh (state : State) : Option Candidate → Except Fault (Option Candidate)
  | none => .ok none
  | some candidate =>
    if state.isStale candidate then do
      state.giveUp candidate
      return none
    else .ok (some candidate)

/-- Forget the candidates that are out of date. -/
def refreshAll (state : State) : Step := do
  let outer ← state.outer.reverse.mapM state.refresh
  let candidate ← state.refresh state.candidate
  return { state with candidate, outer := outer.reverse }

/-- Forget the candidate. -/
def dropCandidate (state : State) : Step := do
  state.candidate.forM state.giveUp
  return { state with candidate := none }

/-- Keep a slot if a key may begin here. -/
def keepSlot (state : State) : Step := do
  if !state.keyAllowed then return state
  let cleared ← state.dropCandidate
  let required := !state.inFlow && state.columns.head? = some state.place.column
  return { cleared with
    candidate := some ⟨state.slots, state.place, required⟩
    items := .slot state.slots :: cleared.items
    slots := state.slots + 1 }

/-- Whether a block collection begins at a column. -/
def opensAt (state : State) (column : Nat) : Bool :=
  !state.inFlow && state.columns.head?.all (· < column)

/-- Begin a block collection here, unless one is open at this column. -/
def openBlock (state : State) (kind : TokenKind) : State :=
  if state.opensAt state.place.column then
    { state with columns := state.place.column :: state.columns }.emit kind
  else state

/-- Close collections: `columns` are those of the open ones, and those before which `stays` is
false are closed. -/
def closeColumns (stays : Nat → Bool) (state : State) : List Nat → State
  | [] => { state with columns := [] }
  | column :: rest =>
    if stays column then { state with columns := column :: rest }
    else closeColumns stays (state.emit .blockEnd) rest

/-- Close the block collections that lie behind a column. -/
def closeBlocks (state : State) (column : Nat) : State :=
  if state.inFlow then state else closeColumns (· ≤ column) state state.columns

/-- Close all block collections. -/
def closeAllBlocks (state : State) : State :=
  if state.inFlow then state else closeColumns (fun _ => false) state state.columns

/-- Pass over blanks, comments and breaks. Behind a break outside of brackets a key may begin,
and where one may begin no tab is passed over. The fuel bounds the number of steps. -/
def passBlanks : Nat → State → State
  | 0, state => state
  | fuel + 1, state =>
    let passes (c : Char) : Bool :=
      c == ' ' || ((state.inFlow || !state.keyAllowed) && c == '\t')
    let unblank := state.rest.dropWhile passes
    let rest :=
      if unblank.head? = some '#' then unblank.dropWhile (!isBreak ·) else unblank
    match lineBreak rest with
    | some (_, after) =>
      let next := state.moveTo after
      passBlanks fuel { next with keyAllowed := state.keyAllowed || !state.inFlow }
    | none => state.moveTo rest

/-- Read a directive line. -/
def directive (state : State) : Step := do
  let closed ← state.closeAllBlocks.dropCandidate
  let started := { closed with keyAllowed := false }
  let (value, read) ← started.run .directive Property.directive (started.rest.drop 1)
  let ((), next) ← read.run .directive Block.endOfLine read.rest
  return { next with items := .token ⟨.directive value, state.place⟩ :: next.items }

/-- Read a mark that begins or ends a document. -/
def documentMark (state : State) (kind : TokenKind) : Step := do
  let closed ← state.closeAllBlocks.dropCandidate
  return { (closed.emit kind).skip 3 with keyAllowed := false }

/-- Read an opening bracket. -/
def openFlow (state : State) (kind : TokenKind) : Step := do
  let kept ← state.keepSlot
  return { (kept.emit kind).skip 1 with
    outer := kept.candidate :: kept.outer
    candidate := none
    keyAllowed := true }

/-- Read a closing bracket. -/
def closeFlow (state : State) (kind : TokenKind) : Step := do
  let cleared ← state.dropCandidate
  let next := (cleared.emit kind).skip 1
  match next.outer with
  | [] => return { next with keyAllowed := false }
  | candidate :: outer => return { next with candidate, outer, keyAllowed := false }

/-- Read a comma between brackets. -/
def comma (state : State) : Step := do
  let cleared ← state.dropCandidate
  return { (cleared.emit .comma).skip 1 with keyAllowed := true }

/-- Read the dash before an item. -/
def entry (state : State) : Step := do
  if !state.inFlow && !state.keyAllowed then state.fail .entryNotAllowed
  let cleared ← (state.openBlock .blockListStart).dropCandidate
  return { (cleared.emit .entry).skip 1 with keyAllowed := true }

/-- Read the question mark before a key. -/
def explicitKey (state : State) : Step := do
  if !state.inFlow && !state.keyAllowed then state.fail .keyNotAllowed
  let cleared ← (state.openBlock .blockRecordStart).dropCandidate
  return { (cleared.emit .key).skip 1 with keyAllowed := !state.inFlow }

/-- Fill the slot of a key. -/
def fill (state : State) (candidate : Candidate) : State :=
  let column := candidate.place.column
  let opensRecord := state.opensAt column
  { state with
    columns := if opensRecord then column :: state.columns else state.columns
    fillings := ⟨candidate.slot, opensRecord, candidate.place⟩ :: state.fillings
    candidate := none
    keyAllowed := false }

/-- Read the colon before a value. -/
def value (state : State) : Step :=
  match state.candidate with
  | some candidate => .ok (((state.fill candidate).emit .value).skip 1)
  | none =>
    if !state.inFlow && !state.keyAllowed then state.fail .valueNotAllowed
    else
      let opened := state.openBlock .blockRecordStart
      .ok { (opened.emit .value).skip 1 with keyAllowed := !state.inFlow }

/-- Read a token that may begin a key, behind a number of characters that mark it. -/
def keyed {α : Type} (state : State) (activity : Activity) (marked : Nat) (reader : Reader α)
    (kind : α → TokenKind) : Except Fault (α × State) := do
  let kept ← state.keepSlot
  let (value, next) ← { kept with keyAllowed := false }.run activity reader
    (kept.rest.drop marked)
  return (value, { next with items := .token ⟨kind value, state.place⟩ :: next.items })

def anchor (state : State) : Step :=
  (state.keyed .anchor 1 Property.name .anchor).map (·.2)

def reference (state : State) : Step :=
  (state.keyed .reference 1 Property.name .reference).map (·.2)

def tag (state : State) : Step :=
  (state.keyed .tag 0 (Property.tag state.inFlow) .tag).map (·.2)

/-- Read a block scalar. -/
def blockScalar (state : State) (style : Style) : Step := do
  let cleared ← state.dropCandidate
  let (text, next) ← cleared.run .blockScalar (Block.read (style == .folded) state.innerColumn)
    (cleared.rest.drop 1)
  return { next with
    items := .token ⟨.scalar style text, state.place⟩ :: next.items
    keyAllowed := true }

def quotedScalar (state : State) (quote : Char) (style : Style) : Step :=
  (state.keyed .quotedScalar 1 (Quoted.read quote) (.scalar style)).map (·.2)

/-- Read a bare scalar. If it ends behind its line, a key may follow. -/
def bareScalar (state : State) : Step := do
  let (result, next) ← state.keyed .plainScalar 0
    (Bare.read ⟨state.innerColumn, state.inFlow⟩) fun found => .scalar .plain found.text
  return { next with keyAllowed := result.endsLine }

/-- Whether a bare scalar can begin with a character before a rest. -/
def beginsBare (state : State) (c : Char) (rest : List Char) : Bool :=
  !(isBlank c || "-?:,[]\x7b\x7d#&*!|>'\x22%@\x60".toList.contains c) ||
    (c == '-' && !rest.head?.any isBlank) ||
    (!state.inFlow && (c == '?' || c == ':') && !startsBlank rest)

/-- Read the token that begins with a character. -/
def token (state : State) (c : Char) (rest : List Char) : Step :=
  let marks (m : Char) : Bool := c == m && (state.inFlow || startsBlank rest)
  let lineStart := state.place.column == 0
  if lineStart && c == '%' then state.directive
  else if lineStart && startsMark (c :: rest) then
    state.documentMark (if c = '-' then .documentStart else .documentEnd)
  else if c = '[' then state.openFlow .flowListStart
  else if c = '\x7b' then state.openFlow .flowRecordStart
  else if c = ']' then state.closeFlow .flowListEnd
  else if c = '\x7d' then state.closeFlow .flowRecordEnd
  else if c = ',' then state.comma
  else if c = '-' && startsBlank rest then state.entry
  else if marks '?' then state.explicitKey
  else if marks ':' then state.value
  else if c = '*' then state.reference
  else if c = '&' then state.anchor
  else if c = '!' then state.tag
  else if c = '|' && !state.inFlow then state.blockScalar .literal
  else if c = '>' && !state.inFlow then state.blockScalar .folded
  else if c = '\x27' then state.quotedScalar c .singleQuoted
  else if c = '\x22' then state.quotedScalar c .doubleQuoted
  else if state.beginsBare c rest then state.bareScalar
  else state.fail .strayCharacter (some (.token, state.place))

/-- The end of the text closes all that is open. -/
def finish (state : State) : Step := do
  let place : Mark :=
    if state.place.column = 0 then state.place
    else { state.place with line := state.place.line + 1, column := 0 }
  { state with place }.closeAllBlocks.dropCandidate

/-- Read all tokens. The fuel bounds their number. -/
def readAll : Nat → State → Step
  | 0, state => .ok state
  | fuel + 1, state => do
    let next ← (passBlanks (state.rest.length + 1) state).refreshAll
    let closed := next.closeBlocks next.place.column
    match closed.rest with
    | [] => closed.finish
    | c :: rest => readAll fuel (← closed.token c rest)

/-- The tokens in a slot. -/
def slotTokens (fillings : List Filling) (number : Nat) : List Token :=
  match fillings.find? (·.slot = number) with
  | none => []
  | some filling =>
    (if filling.opensRecord then [⟨.blockRecordStart, filling.place⟩] else []) ++
      [⟨.key, filling.place⟩]

/-- The tokens of an item. -/
def itemTokens (fillings : List Filling) : Item → List Token
  | .token value => [value]
  | .slot number => slotTokens fillings number

/-- All tokens in order. -/
def tokens (state : State) : List Token :=
  state.items.reverse.flatMap (itemTokens state.fillings)

end State

/-- The tokens of a text, and the place of its end. -/
def ofText (text : List Char) : Except Fault (List Token × Mark) := do
  let state : State := { rest := text }
  let start := if text.head? = some '\uFEFF' then state.skip 1 else state
  let state ← State.readAll (text.length + 1) start
  return (state.tokens, state.place)

end Token
end Yaml
end SchemaScaffold
