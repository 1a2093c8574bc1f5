import SchemaScaffold.Schema.EntityNames
import SchemaScaffold.Sql.Words

/-!
# Characters of entity names

The names of an entity are made of the characters that table names are made of, so that they
can be parts of paths and of code.
-/

namespace SchemaScaffold

open Sql (isNameChar)

/-- A text of the characters of names. -/
def IsNameText (text : List Char) : Prop :=
  ∀ c ∈ text, isNameChar c = true

namespace IsNameText

instance (text : List Char) : Decidable (IsNameText text) :=
  decidable_of_iff (text.all isNameChar = true) List.all_eq_true

theorem append {left right : List Char} (first : IsNameText left)
    (second : IsNameText right) : IsNameText (left ++ right) := by
  intro c member
  rcases List.mem_append.1 member with inLeft | inRight
  · exact first c inLeft
  · exact second c inRight

theorem of_subset {text part : List Char} (named : IsNameText text) (within : part ⊆ text) :
    IsNameText part := fun c member => named c (within member)

/-- A character of another kind does not occur. -/
theorem not_mem {text : List Char} (named : IsNameText text) {c : Char}
    (other : isNameChar c = false) : c ∉ text := by
  intro member
  rw [named c member] at other
  simp at other

end IsNameText

/-- The characters of names are those of ASCII words, the long s and the Kelvin sign. -/
theorem nameChar_cases {c : Char} (named : isNameChar c = true) :
    c.toNat < 0x80 ∨ c = '\u017F' ∨ c = '\u212A' := by
  delta isNameChar Char.isAlphanum Char.isAlpha Char.isUpper Char.isLower Char.isDigit at named
  simp only [Bool.or_eq_true, Bool.and_eq_true, decide_eq_true_eq, beq_iff_eq] at named
  rcases named with ((((named | named) | named) | rfl) | rfl) | rfl
  · left
    have := UInt32.le_iff_toNat_le.1 named.2
    exact Nat.lt_of_le_of_lt this (by decide)
  · left
    have := UInt32.le_iff_toNat_le.1 named.2
    exact Nat.lt_of_le_of_lt this (by decide)
  · left
    have := UInt32.le_iff_toNat_le.1 named.2
    exact Nat.lt_of_le_of_lt this (by decide)
  · left
    decide
  · simp
  · simp

/-- What holds of the characters of names in ASCII and of the two others holds of all. -/
theorem forall_nameChar (property : Char → Prop)
    (ascii : ∀ code < 0x80, isNameChar (Char.ofNat code) = true → property (Char.ofNat code))
    (longS : property '\u017F') (kelvin : property '\u212A') (c : Char)
    (named : isNameChar c = true) : property c := by
  rcases nameChar_cases named with small | rfl | rfl
  · have own := ascii c.toNat small (by rwa [Char.ofNat_toNat])
    rwa [Char.ofNat_toNat] at own
  · exact longS
  · exact kelvin

/-- Only letters become others as capitals. -/
theorem toUpper_eq_self {c : Char} (plain : c.isAlpha = false) : c.toUpper = c := by
  unfold Char.toUpper
  split
  · next lower =>
    have small : c.isLower = true := by
      delta Char.isLower
      simpa using lower
    delta Char.isAlpha at plain
    simp [small] at plain
  · rfl

/-- What becomes a capital is a letter. -/
theorem isAlpha_of_toUpper {c capital : Char} (letter : c.toUpper = capital)
    (isCapital : capital.isUpper = true) : c.isAlpha = true := by
  rw [← Bool.not_eq_false]
  intro other
  rw [toUpper_eq_self other] at letter
  delta Char.isAlpha at other
  simp [letter, isCapital] at other

/-- Letters are characters of names. -/
theorem isNameChar_of_isAlpha {c : Char} (letter : c.isAlpha = true) : isNameChar c = true := by
  simp [isNameChar, Char.isAlphanum, letter]

/-- Capital letters and the small ones are characters of names. -/
theorem isNameChar_of_toUpper {c capital : Char} (letter : c.toUpper = capital)
    (isCapital : capital.isUpper = true) : isNameChar c = true :=
  isNameChar_of_isAlpha (isAlpha_of_toUpper letter isCapital)

theorem isBlank_eq_false_of_nameChar {c : Char} (named : isNameChar c = true) :
    Text.isBlank c = false :=
  forall_nameChar (Text.isBlank · = false) (by decide) (by decide) (by decide) c named

namespace Text
namespace LetterCase

theorem isNameText_upper {c : Char} (named : isNameChar c = true) : IsNameText (upper c) :=
  forall_nameChar (fun c => IsNameText (upper c)) (by decide) (by decide) (by decide) c named

theorem isNameText_lower {c : Char} (named : isNameChar c = true) : IsNameText (lower c) :=
  forall_nameChar (fun c => IsNameText (lower c)) (by decide) (by decide) (by decide) c named

end LetterCase

theorem isNameText_capitalize {text : List Char} (named : IsNameText text) :
    IsNameText (capitalize text) := by
  cases text with
  | nil => exact named
  | cons c rest =>
    exact (LetterCase.isNameText_upper (named c (by simp))).append
      (named.of_subset (List.subset_cons_self c rest))

theorem isNameText_uncapitalize {text : List Char} (named : IsNameText text) :
    IsNameText (uncapitalize text) := by
  cases text with
  | nil => exact named
  | cons c rest =>
    exact (LetterCase.isNameText_lower (named c (by simp))).append
      (named.of_subset (List.subset_cons_self c rest))

/-- The pieces of a text have only characters of the text. -/
theorem subset_of_mem_splitOn {separator : Char} {text piece : List Char}
    (member : piece ∈ splitOn separator text) : piece ⊆ text := by
  induction text generalizing piece with
  | nil => simp_all [splitOn]
  | cons c rest ih =>
    by_cases same : c = separator
    · simp only [splitOn, same, if_true, List.mem_cons] at member
      rcases member with rfl | later
      · simp
      · exact fun d inside => List.mem_cons_of_mem _ (ih later inside)
    · obtain ⟨first, pieces, split⟩ :=
        List.exists_cons_of_ne_nil (splitOn_ne_nil separator rest)
      simp only [splitOn, same, if_false, split, List.mem_cons] at member
      rcases member with rfl | later
      · exact List.cons_subset_cons c (ih (by simp [split]))
      · exact fun d inside => List.mem_cons_of_mem _ (ih (by simp [split, later]) inside)

end Text

namespace EntityNames

theorem isNameText_singularChars {noun : List Char} (named : IsNameText noun) :
    IsNameText (singularChars noun) := by
  unfold singularChars
  split
  · refine (named.of_subset (List.take_subset _ _)).append ?_
    intro c member
    obtain rfl : c = 'y' := by simpa using member
    decide
  · split
    · exact named.of_subset (List.take_subset _ _)
    · split
      · exact named.of_subset (List.take_subset _ _)
      · exact named

theorem isNameText_pascalChars {text : List Char} (named : IsNameText text) :
    IsNameText (pascalChars text) := by
  intro c member
  obtain ⟨piece, isPiece, inside⟩ := List.mem_flatMap.1 member
  exact Text.isNameText_capitalize
    (named.of_subset (Text.subset_of_mem_splitOn isPiece)) c inside

/-- The name of an entity has the characters of names. -/
theorem isNameText_pascal {table : String} (named : IsNameText table.toList) :
    IsNameText (ofTable table).pascal.toList := by
  simp only [ofTable, toPascalCase, singularize, String.toList_ofList]
  exact isNameText_pascalChars (isNameText_singularChars named)

/-- The name of an entity in code has the characters of names. -/
theorem isNameText_camel {table : String} (named : IsNameText table.toList) :
    IsNameText (ofTable table).camel.toList := by
  simp only [ofTable, toCamelCase, singularize, String.toList_ofList, camelChars]
  exact Text.isNameText_uncapitalize (isNameText_pascalChars (isNameText_singularChars named))

end EntityNames
end SchemaScaffold
