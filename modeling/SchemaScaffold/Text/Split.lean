/-!
# Splitting and joining texts

Pieces between separators. A text has one piece more than it has separators, and joining the
pieces gives the text back.
-/

namespace SchemaScaffold
namespace Text

/-- The pieces between the characters equal to `separator`. -/
def splitOn (separator : Char) : List Char → List (List Char)
  | [] => [[]]
  | c :: rest =>
    if c = separator then [] :: splitOn separator rest
    else
      match splitOn separator rest with
      | [] => [[c]]
      | piece :: pieces => (c :: piece) :: pieces

/-- Pieces joined by one separating text. -/
def joinWith (separator : List Char) : List (List Char) → List Char
  | [] => []
  | [piece] => piece
  | piece :: pieces => piece ++ separator ++ joinWith separator pieces

theorem splitOn_ne_nil (separator : Char) (text : List Char) : splitOn separator text ≠ [] := by
  induction text with
  | nil => simp [splitOn]
  | cons c rest ih =>
    simp only [splitOn]
    split
    · simp
    · split <;> simp

theorem joinWith_splitOn (separator : Char) (text : List Char) :
    joinWith [separator] (splitOn separator text) = text := by
  induction text with
  | nil => rfl
  | cons c rest ih =>
    simp only [splitOn]
    split
    · next separates =>
      subst separates
      obtain ⟨piece, pieces, pieceEquality⟩ :=
        List.exists_cons_of_ne_nil (splitOn_ne_nil c rest)
      rw [pieceEquality] at ih ⊢
      simp [joinWith, ih]
    · next plain =>
      split
      · next empty => exact absurd empty (splitOn_ne_nil separator rest)
      · next piece pieces pieceEquality =>
        rw [pieceEquality] at ih
        cases pieces with
        | nil => simpa [joinWith] using ih
        | cons next others => simpa [joinWith] using ih

/-- A text padded with spaces on the right to `width` characters. -/
def padRight (width : Nat) (text : List Char) : List Char :=
  text ++ List.replicate (width - text.length) ' '

theorem length_padRight (width : Nat) (text : List Char) :
    (padRight width text).length = max width text.length := by
  simp [padRight]
  omega

end Text
end SchemaScaffold
