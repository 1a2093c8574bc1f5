import SchemaScaffold.Text.Split

/-!
# Texts for characters

Tables that give a text for each of a run of consecutive characters.
-/

namespace SchemaScaffold
namespace Text

/-- The texts for consecutive characters from a first one on. A space stands between the texts
of a line, so that no text has a space. -/
structure CharImages where
  first : Nat
  lines : List String

namespace CharImages

/-- The texts in the order of their characters. -/
def texts (run : CharImages) : List (List Char) :=
  run.lines.flatMap fun line => splitOn ' ' line.toList

/-- The text for a character of the run. -/
def image? (run : CharImages) (c : Char) : Option (List Char) :=
  if run.first ≤ c.toNat then run.texts[c.toNat - run.first]? else none

/-- The text for a character in the first run that has one. -/
def find? (runs : List CharImages) (c : Char) : Option (List Char) :=
  runs.findSome? (·.image? c)

end CharImages
end Text
end SchemaScaffold
