import SchemaScaffold.Document
import SchemaScaffold.Yaml.Style

/-!
# Writing YAML

Documents as YAML texts in block style: two columns of indentation a level, lists in the
columns of their keys, and empty lists and records as pairs of brackets.
-/

namespace SchemaScaffold
namespace Yaml

/-- Spaces up to a column. -/
def spaces (column : Nat) : List Char :=
  List.replicate column ' '

/-- The text between single quotes. A quote is written twice, and a line begins at the given
column; `broken` says whether a break came just before. -/
def singleQuotedBody (column : Nat) (broken : Bool) : List Char → List Char
  | [] => if broken then spaces column else []
  | c :: rest =>
    if isBreak c then c :: singleQuotedBody column true rest
    else if c = ' ' then c :: singleQuotedBody column broken rest
    else
      (if broken then spaces column else []) ++
        (if c = '\x27' then ['\x27', '\x27'] else [c]) ++ singleQuotedBody column false rest

/-- What stands for a character between double quotes. -/
def doubleQuotedChar (c : Char) : List Char :=
  if isPrintable c && !isBreak c && c != '\x22' && c != '\\' then [c]
  else
    '\\' ::
      match c.toNat with
      | 0x00 => ['0']
      | 0x07 => ['a']
      | 0x08 => ['b']
      | 0x09 => ['t']
      | 0x0A => ['n']
      | 0x0B => ['v']
      | 0x0C => ['f']
      | 0x0D => ['r']
      | 0x1B => ['e']
      | 0x22 => ['\x22']
      | 0x5C => ['\\']
      | 0x85 => ['N']
      | 0xA0 => ['_']
      | 0x2028 => ['L']
      | 0x2029 => ['P']
      | code =>
        if code ≤ 0xFF then 'x' :: Text.hexCapitals 2 code
        else if code ≤ 0xFFFF then 'u' :: Text.hexCapitals 4 code
        else 'U' :: Text.hexCapitals 8 code

/-- The lines of a block, each at the given column; `broken` says whether a break came just
before. -/
def blockBody (column : Nat) (broken : Bool) : List Char → List Char
  | [] => []
  | c :: rest =>
    if isBreak c then c :: blockBody column true rest
    else (if broken then spaces column else []) ++ c :: blockBody column false rest

/-- The header of a block: the indentation where the text begins with a space or a break, and
a sign that says whether breaks at the end are kept. -/
def blockHeader (text : List Char) : List Char :=
  let indentation := match text with
    | c :: _ => if c = ' ' || isBreak c then ['2'] else []
    | [] => []
  let chomping := match text.reverse with
    | [] => ['-']
    | [c] => if isBreak c then ['+'] else ['-']
    | c :: before :: _ => if isBreak c then (if isBreak before then ['+'] else []) else ['-']
  '|' :: (indentation ++ chomping)

/-- A scalar in a style. The lines behind its first begin at the given column. -/
def scalar (column : Nat) (style : Style) (text : List Char) : List Char :=
  match style with
  | .plain => text
  | .singleQuoted => '\x27' :: (singleQuotedBody column false text ++ ['\x27'])
  | .doubleQuoted => '\x22' :: (text.flatMap doubleQuotedChar ++ ['\x22'])
  | .literal | .folded => blockHeader text ++ '\n' :: blockBody column true text

/-- The scalar that a text is written as. -/
def textScalar (column : Nat) (text : String) : List Char :=
  scalar column (Style.ofText text.toList) text.toList

/-- Whether a text, written as a scalar, ends with a line break. -/
def endsLine (written : List Char) : Bool :=
  match written.getLast? with
  | some c => isBreak c
  | none => false

/-- Whether a key can stand on one line with its colon: it has no breaks and at most 128
bytes. -/
def isSimpleKey (key : String) : Bool :=
  key.toList.all (fun c => !isBreak c) && key.utf8ByteSize ≤ 128

/-- Pieces of text, each on lines of its own that begin at a column. A piece that ends with a
line break needs no other. -/
def stack (column : Nat) : List (List Char) → List Char
  | [] => []
  | [piece] => piece
  | piece :: pieces =>
    piece ++ (if endsLine piece then [] else ['\n']) ++ spaces column ++ stack column pieces

/-- Join a piece to what follows it on a line of its own. -/
def below (column : Nat) (piece following : List Char) : List Char :=
  stack column [piece, following]

mutual

/-- A document behind the mark of an item or a member of a collection at `column`. If nothing
but marks stand before it on the line, it is `compact`: a collection begins on that line. -/
def printBehind (column : Nat) (compact : Bool) : Document → List Char
  | .list [] => [' ', '[', ']']
  | .record [] => [' ', '\x7b', '\x7d']
  | .list items =>
    if compact then ' ' :: stack (column + 2) (printItems (column + 2) items)
    else '\n' :: (spaces column ++ stack column (printItems column items))
  | .record members =>
    if compact then ' ' :: stack (column + 2) (printMembers (column + 2) members)
    else '\n' :: (spaces (column + 2) ++ stack (column + 2) (printMembers (column + 2) members))
  | .bool true => " true".toList
  | .bool false => " false".toList
  | .number literal => ' ' :: literal.toList
  | .text value => ' ' :: textScalar (column + 2) value

/-- The items of a list at a column, each behind a dash. -/
def printItems (column : Nat) : List Document → List (List Char)
  | [] => []
  | item :: items => ('-' :: printBehind column true item) :: printItems column items

/-- The members of a record at a column: a key, a colon and the value, with a question mark in
front and the colon on a line of its own if the key is not simple. -/
def printMembers (column : Nat) : List (String × Document) → List (List Char)
  | [] => []
  | (key, value) :: members =>
    (if isSimpleKey key then
      textScalar (column + 2) key ++ ':' :: printBehind column false value
    else
      below column ('?' :: ' ' :: textScalar (column + 2) key)
        (':' :: printBehind column true value)) :: printMembers column members

end

/-- The YAML text of a document, closed by a line break. -/
def render (document : Document) : String :=
  let written := match document with
    | .list (item :: items) => stack 0 (printItems 0 (item :: items))
    | .record (member :: members) => stack 0 (printMembers 0 (member :: members))
    | other => (printBehind 0 true other).drop 1
  String.ofList (written ++ if endsLine written then [] else ['\n'])

end Yaml
end SchemaScaffold
