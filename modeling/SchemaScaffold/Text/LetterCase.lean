import SchemaScaffold.Text.LetterCase.Table

/-!
# Upper and lower case

The full case mappings of single characters: most characters map to one, some to several.
-/

namespace SchemaScaffold
namespace Text
namespace LetterCase

/-- The image of a code point under the first range that covers it. -/
def shifted (ranges : List CaseRange) (code : Nat) : Nat :=
  match ranges.find? (·.covers code) with
  | some range => (code + range.shift).toNat
  | none => code

/-- Look a character up among the expansions, then among the ranges. -/
def mapped (expansions : List (Nat × List Nat)) (ranges : List CaseRange) (c : Char) :
    List Char :=
  match expansions.lookup c.toNat with
  | some codes => codes.map Char.ofNat
  | none => [Char.ofNat (shifted ranges c.toNat)]

/-- The full upper-case mapping of a character. -/
def upper (c : Char) : List Char :=
  if c.toNat < 0x80 then [c.toUpper] else mapped upperExpansions upperRanges c

/-- The full lower-case mapping of a character. -/
def lower (c : Char) : List Char :=
  if c.toNat < 0x80 then [c.toLower] else mapped lowerExpansions lowerRanges c

end LetterCase

/-- A text with its first character in upper case. -/
def capitalize : List Char → List Char
  | [] => []
  | c :: rest => LetterCase.upper c ++ rest

/-- A text with its first character in lower case. -/
def uncapitalize : List Char → List Char
  | [] => []
  | c :: rest => LetterCase.lower c ++ rest

/-- A text with its ASCII letters in upper case. -/
def asciiUpper (text : List Char) : List Char :=
  text.map Char.toUpper

@[simp] theorem length_asciiUpper (text : List Char) :
    (asciiUpper text).length = text.length := by
  simp [asciiUpper]

@[simp] theorem asciiUpper_append (left right : List Char) :
    asciiUpper (left ++ right) = asciiUpper left ++ asciiUpper right := by
  simp [asciiUpper]

end Text
end SchemaScaffold
