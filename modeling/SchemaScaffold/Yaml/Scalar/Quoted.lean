import SchemaScaffold.Yaml.Scalar.Basic

/-!
# Reading quoted scalars

Between single quotes a quote is written twice; between double quotes a backslash begins an
escape. Lines are folded in both.
-/

namespace SchemaScaffold
namespace Yaml
namespace Quoted

/-- The character that a letter behind a backslash stands for. -/
def shortEscape (c : Char) : Option Char :=
  match c with
  | '0' => some '\x00'
  | 'a' => some '\x07'
  | 'b' => some '\x08'
  | 't' | '\t' => some '\t'
  | 'n' => some '\n'
  | 'v' => some '\x0B'
  | 'f' => some '\x0C'
  | 'r' => some '\r'
  | 'e' => some '\x1B'
  | ' ' => some ' '
  | '\x22' => some '\x22'
  | '/' => some '/'
  | '\\' => some '\\'
  | 'N' => some '\u0085'
  | '_' => some '\u00A0'
  | 'L' => some '\u2028'
  | 'P' => some '\u2029'
  | _ => none

/-- The number of digits behind a letter that begins a numeric escape. -/
def escapeWidth (c : Char) : Option Nat :=
  match c with
  | 'x' => some 2
  | 'u' => some 4
  | 'U' => some 8
  | _ => none

/-- The character of a code, unless there is none. -/
def ofCode? (code : Nat) : Option Char :=
  if (0xD800 ≤ code && code ≤ 0xDFFF) || 0x10FFFF < code then none else some (Char.ofNat code)

/-- Read an escape behind its backslash. -/
def escape : Reader Char
  | [] => .error (.unknownEscape, [])
  | c :: rest =>
    match shortEscape c, escapeWidth c with
    | some value, _ => .ok (value, rest)
    | none, some width =>
      let digits := rest.take width
      if digits.length < width then .error (.badEscapeDigits, rest)
      else
        match Text.ofDigits? 16 digits with
        | none => .error (.badEscapeDigits, rest)
        | some code =>
          match ofCode? code with
          | none => .error (.badEscapeCode, rest)
          | some value => .ok (value, rest.drop width)
    | none, none => .error (.unknownEscape, '\\' :: c :: rest)

/-- Put characters in front of what a reader returns. -/
def prepend (text : List Char) (result : Except (Problem × List Char) (List Char × List Char)) :
    Except (Problem × List Char) (List Char × List Char) :=
  result.map fun (value, rest) => (text ++ value, rest)

/-- Read the text between quotes and the closing quote, behind a gap. The fuel bounds the number
of steps. -/
def body (quote : Char) : Nat → Gap → Reader (List Char)
  | 0, _, text => .error (.quoteNotClosed, text)
  | _, _, [] => .error (.quoteNotClosed, [])
  | fuel + 1, gap, c :: rest =>
    match lineBreak (c :: rest) with
    | some (kept, after) =>
      if startsMark after then .error (.quoteCutOff, after)
      else body quote fuel (gap.addBreak kept) after
    | none =>
      if isBlank c then body quote fuel (gap.addBlank c) rest
      else if c = quote then
        if quote = '\x27' && rest.head? = some '\x27' then
          prepend (gap.fold ++ [c]) (body quote fuel .none (rest.drop 1))
        else .ok (gap.fold, rest)
      else if quote = '\x22' && c = '\\' then
        match lineBreak rest with
        | some (_, after) =>
          if startsMark after then .error (.quoteCutOff, after)
          else prepend gap.fold (body quote fuel (.lines [] []) after)
        | none =>
          match escape rest with
          | .error problem => .error problem
          | .ok (value, after) => prepend (gap.fold ++ [value]) (body quote fuel .none after)
      else prepend (gap.fold ++ [c]) (body quote fuel .none rest)

/-- Read a quoted scalar behind its opening quote. -/
def read (quote : Char) : Reader (List Char) := fun text =>
  body quote (text.length + 1) .none text

end Quoted
end Yaml
end SchemaScaffold
