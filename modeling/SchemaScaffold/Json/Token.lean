import SchemaScaffold.Text.Digits

/-!
# Tokens of JSON

The smallest pieces of a JSON text. Each reader returns what follows the piece, which is
always shorter than what it was given.
-/

namespace SchemaScaffold
namespace Json

/-- A piece of a JSON text. -/
inductive Token where
  | openList
  | closeList
  | openRecord
  | closeRecord
  | comma
  | colon
  | null
  | bool (value : Bool)
  | number (literal : String)
  /-- A text between quotes; `none` if an escape in it stands for half a character. -/
  | text (value : Option String)
deriving DecidableEq, Repr

namespace Token

def isBlank (c : Char) : Bool :=
  c == ' ' || c == '\n' || c == '\t' || c == '\r'

/-- Four digits of base sixteen. -/
def fourDigits (a b c d : Char) : Option Nat :=
  Text.ofDigits? 16 [a, b, c, d]

/-- The character that a letter behind a backslash stands for. -/
def shortEscape (c : Char) : Option Char :=
  if c = '\x22' || c = '\\' || c = '/' then some c
  else if c = 'b' then some '\x08'
  else if c = 'f' then some '\x0C'
  else if c = 'n' then some '\n'
  else if c = 'r' then some '\r'
  else if c = 't' then some '\t'
  else none

/-- A unit of a quoted text: a character, or the number of an escape of four digits. -/
inductive Unit16 where
  | char (value : Char)
  | escaped (code : Nat)
deriving DecidableEq, Repr

/-- Read the units up to the closing quote. -/
def units : List Char → Option (List Unit16 × List Char)
  | [] => none
  | '\\' :: 'u' :: a :: b :: c :: d :: rest => do
    let code ← fourDigits a b c d
    let (tail, after) ← units rest
    return (.escaped code :: tail, after)
  | '\\' :: c :: rest => do
    let value ← shortEscape c
    let (tail, after) ← units rest
    return (.char value :: tail, after)
  | c :: rest =>
    if c = '\x22' then some ([], rest)
    else if c.toNat < 0x20 || c = '\\' then none
    else do
      let (tail, after) ← units rest
      return (.char c :: tail, after)

/-- The characters of units. The numbers of two halves in a row make one character; a half
alone makes none. -/
def characters : List Unit16 → Option (List Char)
  | [] => some []
  | .char value :: rest => (characters rest).map (value :: ·)
  | .escaped high :: .escaped low :: rest =>
    if 0xD800 ≤ high && high ≤ 0xDBFF then
      if 0xDC00 ≤ low && low ≤ 0xDFFF then
        (characters rest).map
          (Char.ofNat (0x10000 + (high - 0xD800) * 0x400 + (low - 0xDC00)) :: ·)
      else none
    else if 0xDC00 ≤ high && high ≤ 0xDFFF then none
    else (characters (.escaped low :: rest)).map (Char.ofNat high :: ·)
  | .escaped code :: rest =>
    if 0xD800 ≤ code && code ≤ 0xDFFF then none
    else (characters rest).map (Char.ofNat code :: ·)

/-- Read the digits of a whole number, which has no zero in front. -/
def wholePart (text : List Char) : Option (List Char × List Char) :=
  match text with
  | '0' :: rest =>
    match rest with
    | c :: _ => if c.isDigit then none else some (['0'], rest)
    | [] => some (['0'], [])
  | _ =>
    let digits := text.takeWhile Char.isDigit
    if digits.isEmpty then none else some (digits, text.dropWhile Char.isDigit)

/-- Read the point and the digits behind it, if there is a point. -/
def fractionPart : List Char → Option (List Char × List Char)
  | '.' :: rest =>
    let digits := rest.takeWhile Char.isDigit
    if digits.isEmpty then none else some ('.' :: digits, rest.dropWhile Char.isDigit)
  | unsigned => some ([], unsigned)

/-- Read an exponent, if there is one. -/
def exponentPart : List Char → Option (List Char × List Char)
  | c :: rest =>
    if c = 'e' || c = 'E' then
      let (sign, tail) := match rest with
        | s :: more => if s = '+' || s = '-' then ([s], more) else ([], rest)
        | [] => ([], [])
      let digits := tail.takeWhile Char.isDigit
      if digits.isEmpty then none
      else some (c :: (sign ++ digits), tail.dropWhile Char.isDigit)
    else some ([], c :: rest)
  | [] => some ([], [])

/-- Read a number. -/
def number? (text : List Char) : Option (Token × List Char) := do
  let (sign, unsigned) := match text with
    | '-' :: rest => (['-'], rest)
    | _ => ([], text)
  let (whole, afterWhole) ← wholePart unsigned
  let (fraction, afterFraction) ← fractionPart afterWhole
  let (exponent, after) ← exponentPart afterFraction
  return (.number (String.ofList (sign ++ whole ++ fraction ++ exponent)), after)

/-- Read a word. -/
def word? (word : List Char) (token : Token) (text : List Char) : Option (Token × List Char) :=
  if word.isPrefixOf text then some (token, text.drop word.length) else none

/-- Read one token. -/
def read (c : Char) (rest : List Char) : Option (Token × List Char) :=
  match c with
  | '[' => some (.openList, rest)
  | ']' => some (.closeList, rest)
  | '\x7b' => some (.openRecord, rest)
  | '\x7d' => some (.closeRecord, rest)
  | ',' => some (.comma, rest)
  | ':' => some (.colon, rest)
  | '\x22' => (units rest).map fun (found, after) =>
      (.text ((characters found).map String.ofList), after)
  | 'n' => word? "null".toList .null (c :: rest)
  | 't' => word? "true".toList (.bool true) (c :: rest)
  | 'f' => word? "false".toList (.bool false) (c :: rest)
  | _ => number? (c :: rest)

/-- Read tokens; `pending` characters of the last one are still to be passed over. -/
def readFrom : Nat → List Char → Option (List Token)
  | _, [] => some []
  | pending + 1, _ :: rest => readFrom pending rest
  | 0, c :: rest =>
    if isBlank c then readFrom 0 rest
    else
      match read c rest with
      | none => none
      | some (token, after) => (readFrom (rest.length - after.length) rest).map (token :: ·)

/-- All tokens of a text, unless some part of it is none. -/
def readAll (text : List Char) : Option (List Token) :=
  readFrom 0 text

@[simp] theorem readAll_nil : readAll [] = some [] := rfl

end Token
end Json
end SchemaScaffold
