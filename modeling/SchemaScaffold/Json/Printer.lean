import SchemaScaffold.Document
import SchemaScaffold.Text.Split

/-!
# Writing JSON

Documents as JSON texts: one entry a line, two spaces of indentation a level, and empty lists
and records closed on the spot.
-/

namespace SchemaScaffold
namespace Json

/-- A digit of base sixteen. -/
def hexDigit (value : Nat) : Char :=
  Nat.digitChar value

/-- A character inside quotes. Quotes, backslashes and control characters are escaped, the
common control characters by a letter. -/
def escape (c : Char) : List Char :=
  if c = '\x22' then ['\\', '\x22']
  else if c = '\\' then ['\\', '\\']
  else if c = '\x08' then ['\\', 'b']
  else if c = '\t' then ['\\', 't']
  else if c = '\n' then ['\\', 'n']
  else if c = '\x0C' then ['\\', 'f']
  else if c = '\r' then ['\\', 'r']
  else if c.toNat < 0x20 then
    ['\\', 'u', '0', '0', hexDigit (c.toNat / 16), hexDigit (c.toNat % 16)]
  else [c]

/-- A text between quotes. -/
def quote (text : String) : List Char :=
  '\x22' :: (text.toList.flatMap escape ++ ['\x22'])

/-- A line break and the indentation of a level. -/
def newline (depth : Nat) : List Char :=
  '\n' :: List.replicate (2 * depth) ' '

/-- Entries between brackets, each on a line of its own. -/
def bracketed (left right : Char) (depth : Nat) (entries : List (List Char)) : List Char :=
  match entries with
  | [] => [left, right]
  | _ :: _ =>
    left :: (newline (depth + 1) ++
      Text.joinWith (',' :: newline (depth + 1)) entries ++ newline depth ++ [right])

mutual

/-- A document at a level of indentation. -/
def print (depth : Nat) : Document → List Char
  | .bool true => "true".toList
  | .bool false => "false".toList
  | .number literal => literal.toList
  | .text value => quote value
  | .list items => bracketed '[' ']' depth (printItems (depth + 1) items)
  | .record members => bracketed '\x7b' '\x7d' depth (printMembers (depth + 1) members)

/-- The items of a list. -/
def printItems (depth : Nat) : List Document → List (List Char)
  | [] => []
  | item :: items => print depth item :: printItems depth items

/-- The members of a record, each behind its key. -/
def printMembers (depth : Nat) : List (String × Document) → List (List Char)
  | [] => []
  | (key, value) :: members =>
    (quote key ++ [':', ' '] ++ print depth value) :: printMembers depth members

end

/-- The JSON text of a document. -/
def render (document : Document) : String :=
  String.ofList (print 0 document)

@[simp] theorem bracketed_nil (left right : Char) (depth : Nat) :
    bracketed left right depth [] = [left, right] := rfl

theorem length_printItems (depth : Nat) (items : List Document) :
    (printItems depth items).length = items.length := by
  induction items with
  | nil => rfl
  | cons item items ih => simp [printItems, ih]

end Json
end SchemaScaffold
