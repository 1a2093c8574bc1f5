import SchemaScaffold.Yaml.Plain

/-!
# Scalar styles

The ways in which a text can be written as a scalar, and the choice among them: the plainest
that reads back as the same text.
-/

namespace SchemaScaffold
namespace Yaml

/-- The ways of writing a scalar. -/
inductive Style where
  | plain
  | singleQuoted
  | doubleQuoted
  | literal
  | folded
deriving DecidableEq, Repr

/-- The characters that end a line. -/
def isBreak (c : Char) : Bool :=
  c == '\n' || c == '\r' || c == '\u0085' || c == '\u2028' || c == '\u2029'

/-- Characters that a scalar may show unescaped. Tabs, control characters, the byte order mark
and the last two of the basic plane are none. -/
def isPrintable (c : Char) : Bool :=
  let code := c.toNat
  code == 0x0A || (0x20 ≤ code && code ≤ 0x7E) || (0xA0 ≤ code && code ≤ 0xD7FF) ||
    (0xE000 ≤ code && code ≤ 0xFFFD && code != 0xFEFF) || 0x10000 ≤ code

/-- Whether a word ends before the rest of a text. -/
def endsWord : List Char → Bool
  | [] => true
  | c :: _ => c == ' ' || c == '\t' || c == '\x00' || isBreak c

/-- Characters that have a meaning at the start of a scalar. -/
def isOpeningIndicator (c : Char) : Bool :=
  "#,[]\x7b\x7d&*!|>'\"%@`".toList.contains c

namespace Style

/-- Whether a colon that ends a word, or a number sign that begins one, occurs in a text
behind its first character; `spaced` says whether a word ended just before. -/
def hasInnerIndicator (spaced : Bool) : List Char → Bool
  | [] => false
  | c :: rest =>
    (c == ':' && endsWord rest) || (c == '#' && spaced) ||
      hasInnerIndicator (endsWord [c]) rest

/-- Whether the text would be taken for something else than a plain scalar in a block. -/
def hasIndicator (text : List Char) : Bool :=
  "---".toList.isPrefixOf text || "...".toList.isPrefixOf text ||
    match text with
    | [] => false
    | c :: rest =>
      isOpeningIndicator c || ((c == '?' || c == ':' || c == '-') && endsWord rest) ||
        hasInnerIndicator (endsWord [c]) rest

/-- Whether a character of one class stands before one of another somewhere in a text. -/
def hasPair (first second : Char → Bool) : List Char → Bool
  | a :: b :: rest => (first a && second b) || hasPair first second (b :: rest)
  | _ => false

def isSpace (c : Char) : Bool :=
  c == ' '

/-- Whether a text can be written plain in a block, apart from what it would denote. -/
def allowsPlain (text : List Char) : Bool :=
  text.isEmpty ||
    (!hasIndicator text && text.all (fun c => isPrintable c && !isBreak c) &&
      text.head? != some ' ' && text.getLast? != some ' ')

/-- Whether a text can be written between single quotes. -/
def allowsSingle (text : List Char) : Bool :=
  text.all isPrintable && !hasPair isBreak isSpace text && !hasPair isSpace isBreak text

/-- Whether a text can be written as an indented block. -/
def allowsBlock (text : List Char) : Bool :=
  !text.isEmpty && text.all isPrintable && !hasPair isSpace isBreak text &&
    text.getLast? != some ' '

/-- The style of a text: a block if it has lines, plain if that is allowed and denotes the
text, otherwise the simpler quotes that can hold it. -/
def ofText (text : List Char) : Style :=
  if text.contains '\n' then
    if allowsBlock text then .literal else .doubleQuoted
  else if !Plain.isAmbiguous text && allowsPlain text then .plain
  else if allowsSingle text then .singleQuoted
  else .doubleQuoted

theorem ofText_ne_folded (text : List Char) : ofText text ≠ .folded := by
  unfold ofText
  split
  · split <;> simp
  · split
    · simp
    · split <;> simp

end Style
end Yaml
end SchemaScaffold
