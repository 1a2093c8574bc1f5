import SchemaScaffold.Text.Split

/-!
# Pieces of joined texts

Splitting is a homomorphism at every separator, and pieces without separators are found again
in what they are joined to.
-/

namespace SchemaScaffold
namespace Text

/-- A separator splits a text in two parts that are split on their own. -/
theorem splitOn_append_separator (separator : Char) (left right : List Char) :
    splitOn separator (left ++ separator :: right) =
      splitOn separator left ++ splitOn separator right := by
  induction left with
  | nil => simp [splitOn]
  | cons c rest ih =>
    by_cases same : c = separator
    · simp [splitOn, same, ih]
    · obtain ⟨piece, pieces, split⟩ :=
        List.exists_cons_of_ne_nil (splitOn_ne_nil separator rest)
      rw [split] at ih
      simp only [List.cons_append, splitOn, same, if_false, ih, split]

/-- A text without separators is one piece. -/
theorem splitOn_of_not_mem {separator : Char} {text : List Char}
    (absent : separator ∉ text) : splitOn separator text = [text] := by
  induction text with
  | nil => rfl
  | cons c rest ih =>
    simp only [List.mem_cons, not_or] at absent
    simp [splitOn, Ne.symm absent.1, ih absent.2]

/-- No piece has a separator in it. -/
theorem not_mem_of_mem_splitOn {separator : Char} {text piece : List Char}
    (member : piece ∈ splitOn separator text) : separator ∉ piece := by
  induction text generalizing piece with
  | nil =>
    obtain rfl : piece = [] := by simpa [splitOn] using member
    simp
  | cons c rest ih =>
    by_cases same : c = separator
    · simp only [splitOn, same, if_true, List.mem_cons] at member
      rcases member with rfl | later
      · simp
      · exact ih later
    · obtain ⟨first, pieces, split⟩ :=
        List.exists_cons_of_ne_nil (splitOn_ne_nil separator rest)
      simp only [splitOn, same, if_false, split, List.mem_cons] at member
      rcases member with rfl | later
      · have free : separator ∉ first := ih (by simp [split])
        simp [free, Ne.symm same]
      · exact ih (by simp [split, later])

theorem joinWith_eq_intercalate (separator : List Char) (pieces : List (List Char)) :
    joinWith separator pieces = separator.intercalate pieces := by
  induction pieces with
  | nil => simp [joinWith]
  | cons piece rest ih =>
    cases rest with
    | nil => simp [joinWith]
    | cons second others => simp [joinWith, ih, List.intercalate_cons_cons]

/-- Pieces without separators are found again in the text that joins them. -/
theorem splitOn_joinWith {separator : Char} {pieces : List (List Char)}
    (nonempty : pieces ≠ []) (free : ∀ piece ∈ pieces, separator ∉ piece) :
    splitOn separator (joinWith [separator] pieces) = pieces := by
  induction pieces with
  | nil => exact absurd rfl nonempty
  | cons piece rest ih =>
    cases rest with
    | nil => simpa [joinWith] using splitOn_of_not_mem (free piece (by simp))
    | cons second others =>
      have tail := ih (by simp) fun other member => free other (by simp [member])
      simp only [joinWith, List.append_assoc, List.cons_append, List.nil_append]
      rw [splitOn_append_separator, tail, splitOn_of_not_mem (free piece (by simp))]
      rfl

/-- Texts without separators are found again in the text that joins them. -/
theorem splitOn_intercalate {separator : Char} {texts : List String} (nonempty : texts ≠ [])
    (free : ∀ text ∈ texts, separator ∉ text.toList) :
    splitOn separator (String.intercalate (String.singleton separator) texts).toList =
      texts.map String.toList := by
  have joined : (String.intercalate (String.singleton separator) texts).toList =
      joinWith [separator] (texts.map String.toList) := by
    rw [String.toList_intercalate, joinWith_eq_intercalate]
    simp
  rw [joined, splitOn_joinWith (by simpa using nonempty) (by simpa using free)]

end Text
end SchemaScaffold
