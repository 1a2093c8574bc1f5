/-!
# Searching a text

Occurrences of one text in another, and a left-to-right scan that resumes behind each match.
-/

namespace SchemaScaffold
namespace Text

/-- Whether `needle` occurs somewhere in `text`. -/
def occursIn (needle : List Char) : List Char → Bool
  | [] => needle.isEmpty
  | c :: rest => needle.isPrefixOf (c :: rest) || occursIn needle rest

/-- The text before the first occurrence of `needle` and the text from its start on. -/
def splitAtFirst (needle : List Char) : List Char → Option (List Char × List Char)
  | [] => if needle.isEmpty then some ([], []) else none
  | c :: rest =>
    if needle.isPrefixOf (c :: rest) then some ([], c :: rest)
    else (splitAtFirst needle rest).map fun (before, found) => (c :: before, found)

/-- Replace the occurrences of `needle` from left to right; `pending` characters of the last
one are still to be passed over. -/
def replaceFrom (needle replacement : List Char) : Nat → List Char → List Char
  | _, [] => []
  | pending + 1, _ :: rest => replaceFrom needle replacement pending rest
  | 0, c :: rest =>
    if needle.isPrefixOf (c :: rest) then
      replacement ++ replaceFrom needle replacement (needle.length - 1) rest
    else c :: replaceFrom needle replacement 0 rest

/-- Every occurrence of a non-empty `needle`, found from left to right without overlap,
replaced. -/
def replaceAll (needle replacement text : List Char) : List Char :=
  replaceFrom needle replacement 0 text

/-- A matcher reads a value off the start of a text and returns what follows it. -/
abbrev Matcher (α : Type) := List Char → Option (α × List Char)

/-- Matches from left to right, each starting behind the one before; `pending` characters of
the last match are still to be passed over. -/
def scanFrom {α : Type} (read : Matcher α) : Nat → List Char → List α
  | _, [] => []
  | pending + 1, _ :: rest => scanFrom read pending rest
  | 0, c :: rest =>
    match read (c :: rest) with
    | some (value, after) => value :: scanFrom read (rest.length - after.length) rest
    | none => scanFrom read 0 rest

/-- All matches of a matcher that never matches the empty text. -/
def scan {α : Type} (read : Matcher α) (text : List Char) : List α :=
  scanFrom read 0 text

/-- The match at the first position that has one. -/
def firstMatch {α : Type} (read : Matcher α) : List Char → Option α
  | [] => none
  | c :: rest =>
    match read (c :: rest) with
    | some (value, _) => some value
    | none => firstMatch read rest

/-- The members of a list without those that occurred before. -/
def firstOccurrences {α : Type} [BEq α] : List α → List α → List α
  | _, [] => []
  | seen, a :: rest =>
    if seen.contains a then firstOccurrences seen rest
    else a :: firstOccurrences (a :: seen) rest

@[simp] theorem replaceAll_nil (needle replacement : List Char) :
    replaceAll needle replacement [] = [] := rfl

@[simp] theorem scan_nil {α : Type} (read : Matcher α) : scan read [] = [] := rfl

end Text
end SchemaScaffold
