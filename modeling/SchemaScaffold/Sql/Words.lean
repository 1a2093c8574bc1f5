import SchemaScaffold.Text.Blank
import SchemaScaffold.Text.LetterCase
import SchemaScaffold.Text.Search

/-!
# Words of a statement

Readers for the pieces that statements are made of: keywords in any case, blanks, and names
with or without backticks. Each returns what follows the piece.
-/

namespace SchemaScaffold
namespace Sql

open Text

/-- Whether a character is the given capital letter up to simple case folding, under which
the long s is an S and the Kelvin sign a K. -/
def isLetter (capital c : Char) : Bool :=
  c.toUpper == capital || (capital == 'S' && c == '\u017F') || (capital == 'K' && c == '\u212A')

/-- Read a keyword, given in capitals. -/
def keyword : List Char → List Char → Option (List Char)
  | [], text => some text
  | _ :: _, [] => none
  | capital :: capitals, c :: rest =>
    if isLetter capital c then keyword capitals rest else none

/-- Read at least one blank and all that follow it. -/
def blanks : List Char → Option (List Char)
  | [] => none
  | c :: rest => if isBlank c then some (trimLeft rest) else none

/-- Read blanks and a keyword. -/
def spacedKeyword (word : String) (text : List Char) : Option (List Char) :=
  (blanks text).bind (keyword word.toList)

/-- Characters of a name: ASCII letters, digits and the underscore, closed under simple case
folding. -/
def isNameChar (c : Char) : Bool :=
  c.isAlphanum || c == '_' || c == '\u017F' || c == '\u212A'

/-- Pass over one backtick, if there is one. -/
def skipBacktick : List Char → List Char
  | [] => []
  | c :: rest => if c = '\x60' then rest else c :: rest

/-- Read a longest non-empty run of characters of one class. -/
def run (member : Char → Bool) (text : List Char) : Option (List Char × List Char) :=
  match text.takeWhile member with
  | [] => none
  | c :: rest => some (c :: rest, text.dropWhile member)

/-- Read a name between optional backticks. -/
def quotedName (text : List Char) : Option (List Char × List Char) :=
  (run isNameChar (skipBacktick text)).map fun (name, rest) => (name, skipBacktick rest)

/-- Read blanks and a name. -/
def spacedName (text : List Char) : Option (List Char × List Char) :=
  (blanks text).bind quotedName

/-- Read `IF NOT EXISTS` behind blanks. -/
def ifNotExists (text : List Char) : Option (List Char) :=
  ((spacedKeyword "IF" text).bind (spacedKeyword "NOT")).bind (spacedKeyword "EXISTS")

theorem length_keyword_le {word text rest : List Char} (read : keyword word text = some rest) :
    rest.length + word.length = text.length := by
  induction word generalizing text with
  | nil =>
    simp only [keyword, Option.some.injEq] at read
    simp [read]
  | cons capital capitals ih =>
    cases text with
    | nil => simp [keyword] at read
    | cons c tail =>
      simp only [keyword] at read
      split at read
      · have shorter := ih read
        simp only [List.length_cons]
        omega
      · simp at read

theorem run_eq_some {member : Char → Bool} {text name rest : List Char}
    (read : run member text = some (name, rest)) :
    name ≠ [] ∧ text = name ++ rest ∧ ∀ c ∈ name, member c = true := by
  unfold run at read
  split at read
  · simp at read
  · next c tail taken =>
    simp only [Option.some.injEq, Prod.mk.injEq] at read
    obtain ⟨rfl, rfl⟩ := read
    refine ⟨by simp, ?_, ?_⟩
    · rw [← taken]
      exact (List.takeWhile_append_dropWhile).symm
    · intro x xMember
      rw [← taken] at xMember
      exact List.all_eq_true.1 List.all_takeWhile x xMember

end Sql
end SchemaScaffold
