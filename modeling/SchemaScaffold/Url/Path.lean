import SchemaScaffold.Url.Percent

/-!
# Paths of addresses

A path is a list of segments. Segments of one dot are left out, and segments of two dots take
the one before them away; drive letters stay.
-/

namespace SchemaScaffold
namespace Url
namespace Path

/-- Characters that a path shows as they are. -/
def keeps (c : Char) : Bool :=
  0x20 < c.toNat && c.toNat < 0x7F &&
    !(c == '\x22' || c == '#' || c == '<' || c == '>' || c == '?' || c == '\x60' ||
      c == '\x7b' || c == '\x7d')

/-- A text with every encoded dot in it decoded. -/
def decodeDots : List Char → List Char
  | '%' :: '2' :: 'e' :: rest | '%' :: '2' :: 'E' :: rest => '.' :: decodeDots rest
  | c :: rest => c :: decodeDots rest
  | [] => []

/-- A letter and a colon or a bar. -/
def isDriveLetter : List Char → Bool
  | [letter, mark] => letter.isAlpha && (mark == ':' || mark == '|')
  | _ => false

/-- The segments between slashes, and between backslashes if these count as slashes too. -/
def split (backslashes : Bool) : List Char → List (List Char)
  | [] => [[]]
  | c :: rest =>
    if c = '/' || (backslashes && c = '\\') then [] :: split backslashes rest
    else
      match split backslashes rest with
      | [] => [[c]]
      | segment :: segments => (c :: segment) :: segments

/-- Segments, last one first, without the last one unless that is a drive letter. -/
def parent : List (List Char) → List (List Char)
  | [] => []
  | last :: before => if isDriveLetter last then last :: before else before

/-- Follow segments from the place that `done` leads to, last segment first. A path that ends
with dots ends with an empty segment. -/
def follow (done : List (List Char)) : List (List Char) → List (List Char)
  | [] => done.reverse
  | segment :: rest =>
    let ended (place : List (List Char)) := if rest.isEmpty then [] :: place else place
    match decodeDots segment with
    | ['.'] => follow (ended done) rest
    | ['.', '.'] => follow (ended (parent done)) rest
    | _ => follow (Percent.encode keeps segment :: done) rest

/-- The segments of a path behind its first slash. -/
def ofText (backslashes : Bool) (text : List Char) : List (List Char) :=
  follow [] (split backslashes text)

/-- A drive letter with a colon for its bar. -/
def normalizeDrive : List Char → List Char
  | [letter, '|'] => [letter, ':']
  | segment => segment

/-- The segments of a path in a file system, where a drive letter that comes first has a
colon. -/
def ofFileText (text : List Char) : List (List Char) :=
  match ofText true text with
  | first :: rest => (if isDriveLetter first then normalizeDrive first else first) :: rest
  | [] => []

theorem split_ne_nil (backslashes : Bool) (text : List Char) : split backslashes text ≠ [] := by
  induction text with
  | nil => simp [split]
  | cons c rest ih =>
    simp only [split]
    split
    · simp
    · split <;> simp

end Path
end Url
end SchemaScaffold
