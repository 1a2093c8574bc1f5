import SchemaScaffold.Yaml.Scalar.Basic

/-!
# Reading block scalars

Scalars in lines of their own, all indented alike. A literal scalar keeps its line breaks; in a
folded one a break between two lines of text becomes a space.
-/

namespace SchemaScaffold
namespace Yaml
namespace Block

/-- What happens to the line breaks at the end of a scalar. -/
inductive Chomping where
  | strip
  | clip
  | keep
deriving DecidableEq, Repr

/-- What stands behind the mark that begins a block scalar. -/
structure Header where
  chomping : Chomping
  /-- Indentation beyond that of the surrounding block, if it is given. -/
  indentation : Option Nat
deriving DecidableEq, Repr

def chomping? (c : Char) : Option Chomping :=
  if c = '+' then some .keep else if c = '-' then some .strip else none

/-- Read a digit that gives the indentation, if there is one. -/
def indentation : Reader (Option Nat)
  | [] => .ok (none, [])
  | c :: rest =>
    if c = '0' then .error (.zeroIndentation, c :: rest)
    else if c.isDigit then .ok (some (c.toNat - 48), rest)
    else .ok (none, c :: rest)

/-- Read the chomping and the indentation in any order. -/
def header : Reader Header
  | [] => .ok (⟨.clip, none⟩, [])
  | c :: rest =>
    match chomping? c with
    | some chomping => do
      let (found, after) ← indentation rest
      return (⟨chomping, found⟩, after)
    | none => do
      let (found, after) ← indentation (c :: rest)
      match found, after with
      | some _, mark :: behind =>
        match chomping? mark with
        | some chomping => return (⟨chomping, found⟩, behind)
        | none => return (⟨.clip, found⟩, after)
      | _, _ => return (⟨.clip, found⟩, after)

/-- Pass over blanks and a comment to the end of the line and over its break. -/
def endOfLine : Reader Unit := fun text =>
  let unblank := text.dropWhile isBlank
  let rest := if unblank.head? = some '#' then unblank.dropWhile (!isBreak ·) else unblank
  match lineBreak rest with
  | some (_, after) => .ok ((), after)
  | none => if rest.isEmpty then .ok ((), []) else .error (.lineGoesOn, rest)

/-- Empty lines and the indentation of the line behind them. -/
structure Margin where
  breaks : List Char
  column : Nat
  /-- The widest indentation seen. -/
  widest : Nat

/-- Read empty lines, and spaces before a limit if there is one. `column` and `widest` are those
so far. The fuel bounds the number of steps. -/
def margin (limit : Option Nat) : Nat → Nat → Nat → Reader Margin
  | 0, column, widest, text => .ok (⟨[], column, widest⟩, text)
  | _, column, widest, [] => .ok (⟨[], column, widest⟩, [])
  | fuel + 1, column, widest, c :: rest =>
    let inside := limit.all (column < ·)
    match lineBreak (c :: rest) with
    | some (kept, after) =>
      (margin limit fuel 0 widest after).map fun (found, rest) =>
        ({ found with breaks := kept :: found.breaks }, rest)
    | none =>
      if inside && c = ' ' then margin limit fuel (column + 1) (max widest (column + 1)) rest
      else if inside && c = '\t' then .error (.tabInIndentation, c :: rest)
      else .ok (⟨[], column, widest⟩, c :: rest)

/-- The text that two lines are joined with: the break of the first, then empty lines. In a
folded scalar the break between two lines of text that begin with no blank is a space, or
nothing before empty lines. -/
def joint (folded : Bool) (blankBefore : Bool) (first breaks line : List Char) : List Char :=
  if folded && first = ['\n'] && !blankBefore && !(line.head?.any isBlank) then
    if breaks.isEmpty then [' '] else breaks
  else first ++ breaks

/-- The breaks that a scalar ends with. -/
def Chomping.tail (chomping : Chomping) (first breaks : List Char) : List Char :=
  match chomping with
  | .strip => []
  | .clip => first
  | .keep => first ++ breaks

/-- Read the lines of a scalar; `first` is the break of the line before, and `space` are the
empty lines behind it and the indentation of the next line. The fuel bounds the number of
lines. -/
def lines (folded : Bool) (chomping : Chomping) (column : Nat) :
    Nat → Bool → List Char → Margin → Reader (List Char)
  | 0, _, first, space, text => .ok (chomping.tail first space.breaks, text)
  | fuel + 1, blankBefore, first, space, text =>
    if space.column != column || text.isEmpty then
      .ok (chomping.tail first space.breaks, text)
    else do
      let line := text.takeWhile (!isBreak ·)
      let behind := text.dropWhile (!isBreak ·)
      let (broken, after) := match lineBreak behind with
        | some (kept, rest) => ([kept], rest)
        | none => ([], behind)
      let (next, rest) ← margin (some column) (after.length + 1) 0 0 after
      let (tail, following) ←
        lines folded chomping column fuel (line.head?.any isBlank) broken next rest
      return (joint folded blankBefore first space.breaks line ++ line ++ tail, following)

/-- Read a block scalar behind its mark; `outer` is the least column that is inside the
surrounding block. -/
def read (folded : Bool) (outer : Nat) : Reader (List Char) := fun text => do
  let (header, behind) ← header text
  let ((), after) ← endOfLine behind
  let given := header.indentation.map (outer - 1 + ·)
  let (space, rest) ← margin given (after.length + 1) 0 0 after
  let column := given.getD (max (max space.widest outer) 1)
  lines folded header.chomping column (rest.length + 1) false [] space rest

end Block
end Yaml
end SchemaScaffold
