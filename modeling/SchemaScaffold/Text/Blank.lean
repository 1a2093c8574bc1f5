/-!
# Blanks

The white space of Unicode, and texts with the white space at their ends removed.
-/

namespace SchemaScaffold
namespace Text

/-- White space, as Unicode's property of that name lists it. -/
def isBlank (c : Char) : Bool :=
  let code := c.toNat
  (0x09 ≤ code && code ≤ 0x0D) || code == 0x20 || code == 0x85 || code == 0xA0 ||
    code == 0x1680 || (0x2000 ≤ code && code ≤ 0x200A) || code == 0x2028 || code == 0x2029 ||
    code == 0x202F || code == 0x205F || code == 0x3000

/-- The characters from the first that is no blank. -/
def trimLeft (text : List Char) : List Char :=
  text.dropWhile isBlank

/-- The characters up to the last that is no blank. -/
def trimRight (text : List Char) : List Char :=
  (text.reverse.dropWhile isBlank).reverse

/-- The characters between the first and the last that are no blanks. -/
def trim (text : List Char) : List Char :=
  trimRight (trimLeft text)

/-- Whether a text has no character but blanks. -/
def isAllBlank (text : List Char) : Bool :=
  text.all isBlank

theorem isBlank_of_isWhitespace {c : Char} (white : c.isWhitespace = true) :
    isBlank c = true := by
  simp only [Char.isWhitespace, Bool.or_eq_true, decide_eq_true_eq] at white
  rcases white with ((rfl | rfl) | rfl) | rfl <;> rfl

end Text
end SchemaScaffold
