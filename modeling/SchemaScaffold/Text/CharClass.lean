import SchemaScaffold.Text.Mark.Table
import SchemaScaffold.Text.WordChar.Table

/-!
# Classes of characters

Classes of characters that Unicode gives by closed ranges of code points: the characters words are
made of, where a word boundary lies between one of them and anything else, and the marks that
attach to the character before them.
-/

namespace SchemaScaffold
namespace Text

/-- Whether a character lies in one of the closed ranges of code points. -/
def inRanges (ranges : List (Nat × Nat)) (c : Char) : Bool :=
  ranges.any fun (first, last) => first ≤ c.toNat && c.toNat ≤ last

theorem inRanges_iff {ranges : List (Nat × Nat)} {c : Char} :
    inRanges ranges c = true ↔
      ∃ range ∈ ranges, range.1 ≤ c.toNat ∧ c.toNat ≤ range.2 := by
  simp [inRanges]

/-- Letters, marks, decimal digits, connector punctuation and join controls of Unicode. -/
def isWordChar (c : Char) : Bool :=
  if c.toNat < 0x80 then c.isAlphanum || c == '_'
  else inRanges WordChar.ranges c

theorem isWordChar_of_isAlphanum {c : Char} (ascii : c.toNat < 0x80)
    (alphanumeric : c.isAlphanum = true) : isWordChar c = true := by
  simp [isWordChar, ascii, alphanumeric]

namespace Mark

/-- Marks that take no place of their own. -/
def isNonspacing (c : Char) : Bool :=
  inRanges nonspacing c

/-- All combining marks. -/
def isMark (c : Char) : Bool :=
  isNonspacing c || inRanges spacing c

end Mark
end Text
end SchemaScaffold
