import SchemaScaffold.Yaml.Scalar.Basic

/-!
# Reading bare scalars

Scalars without quotes. They end at a colon that ends a word, at a comment, where a line is not
indented enough, and within brackets at every mark that brackets know.
-/

namespace SchemaScaffold
namespace Yaml
namespace Bare

/-- What a bare scalar depends on. -/
structure Setting where
  /-- The least column of its lines. -/
  column : Nat
  /-- The scalar stands between brackets. -/
  flow : Bool

/-- The marks that end words between brackets. -/
def isFlowMark (c : Char) : Bool :=
  c == ',' || c == '[' || c == ']' || c == '\x7b' || c == '\x7d'

/-- Whether a bare scalar ends before a text. -/
def endsAt (setting : Setting) : List Char → Bool
  | [] => true
  | c :: rest => (c == ':' && startsBlank rest) || (setting.flow && isFlowMark c)

/-- Whether a text begins with a colon and a mark that must not follow it between brackets. -/
def hasOddColon (setting : Setting) : List Char → Bool
  | ':' :: c :: _ => setting.flow && (isFlowMark c || c == '?')
  | _ => false

/-- What a bare scalar is read to: its text, and whether a line has ended behind it. -/
structure Result where
  text : List Char
  endsLine : Bool

/-- Read the rest of a bare scalar behind a gap. In a new line, `column` is the number of blanks
so far. The fuel bounds the number of steps. -/
def body (setting : Setting) : Nat → Gap → Nat → Reader Result
  | 0, gap, _, text => .ok (⟨[], gap.hasLines⟩, text)
  | _, gap, _, [] => .ok (⟨[], gap.hasLines⟩, [])
  | fuel + 1, gap, column, c :: rest =>
    match lineBreak (c :: rest) with
    | some (kept, after) => body setting fuel (gap.addBreak kept) 0 after
    | none =>
      if isBlank c then
        if gap.hasLines && column < setting.column && c = '\t' then
          .error (.tabBeforeWord, c :: rest)
        else body setting fuel (gap.addBlank c) (column + 1) rest
      else
        let newLine := gap.hasLines
        let stops :=
          (newLine && ((!setting.flow && column < setting.column) ||
            (column = 0 && startsMark (c :: rest)))) ||
          (gap != .none && c = '#')
        if stops then .ok (⟨[], newLine⟩, c :: rest)
        else if hasOddColon setting (c :: rest) then .error (.colonInFlow, c :: rest)
        else if endsAt setting (c :: rest) then .ok (⟨[], newLine⟩, c :: rest)
        else
          (body setting fuel .none 0 rest).map fun (result, after) =>
            (⟨gap.fold ++ c :: result.text, result.endsLine⟩, after)

/-- Read a bare scalar. -/
def read (setting : Setting) : Reader Result := fun text =>
  body setting (text.length + 1) .none 0 text

end Bare
end Yaml
end SchemaScaffold
