import Mathlib.Data.List.DropRight
import SchemaScaffold.Text.Blank

/-!
# Trimmed texts

Blanks in front of a text are dropped up to its first character that is none, and a text stays
as it is exactly if its ends are no blanks.
-/

namespace SchemaScaffold
namespace Text

/-- Blanks in front of a text are dropped. -/
theorem trimLeft_append_of_blank {blank : List Char} (isBlank : isAllBlank blank = true)
    (text : List Char) : trimLeft (blank ++ text) = trimLeft text := by
  simp only [isAllBlank, List.all_eq_true] at isBlank
  rw [trimLeft, List.dropWhile_append_of_pos isBlank]
  rfl

/-- What is behind a character that is no blank stays as it is. -/
theorem trimLeft_append_cons {c : Char} (visible : isBlank c = false) (left right : List Char) :
    trimLeft (left ++ c :: right) = trimLeft left ++ c :: right := by
  induction left with
  | nil => simp [trimLeft, visible]
  | cons d rest ih =>
    simp only [trimLeft, List.cons_append, List.dropWhile_cons] at ih ⊢
    split
    · exact ih
    · rfl

/-- A text is in front of nothing but blanks that are dropped. -/
theorem exists_blank_append_trimLeft (text : List Char) :
    ∃ blank, isAllBlank blank = true ∧ text = blank ++ trimLeft text :=
  ⟨text.takeWhile isBlank, List.all_takeWhile, List.takeWhile_append_dropWhile.symm⟩

@[simp] theorem trimLeft_cons {c : Char} (visible : isBlank c = false) (rest : List Char) :
    trimLeft (c :: rest) = c :: rest :=
  trimLeft_append_cons visible [] rest

/-- What is left starts with a character that is no blank. -/
theorem isBlank_of_trimLeft {text rest : List Char} {c : Char}
    (shape : trimLeft text = c :: rest) : isBlank c = false := by
  have other := List.head?_dropWhile_not isBlank text
  rw [show text.dropWhile isBlank = c :: rest from shape] at other
  simpa using other

/-- Nothing is dropped behind a character that is no blank. -/
theorem trimRight_concat {c : Char} (visible : isBlank c = false) (text : List Char) :
    trimRight (text ++ [c]) = text ++ [c] := by
  simp [trimRight, visible]

/-- Blanks behind a text are dropped. -/
theorem trimRight_append_of_blank {blank : List Char} (isBlank : isAllBlank blank = true)
    (text : List Char) : trimRight (text ++ blank) = trimRight text := by
  simp only [isAllBlank, List.all_eq_true] at isBlank
  rw [trimRight, List.reverse_append, List.dropWhile_append_of_pos (by simpa using isBlank)]
  rfl

/-- What is in front of a text that stays as it is stays as well. -/
theorem trimRight_append {text : List Char} (nonempty : text ≠ [])
    (kept : trimRight text = text) (front : List Char) :
    trimRight (front ++ text) = front ++ text := by
  obtain ⟨start, c, rfl⟩ := List.eq_nil_or_concat' text |>.resolve_left nonempty
  rw [← List.append_assoc]
  refine trimRight_concat ?_ (front ++ start)
  by_contra blank
  have shorter := congrArg List.length kept
  rw [Bool.not_eq_false] at blank
  have bound := (List.dropWhile_suffix isBlank (l := start.reverse)).length_le
  simp only [trimRight, List.reverse_append, List.reverse_singleton, List.singleton_append,
    List.dropWhile_cons, blank, if_true, List.length_reverse, List.length_append,
    List.length_singleton] at shorter bound
  omega

/-- A text is behind nothing but blanks that are dropped. -/
theorem exists_trimRight_append_blank (text : List Char) :
    ∃ blank, isAllBlank blank = true ∧ text = trimRight text ++ blank := by
  obtain ⟨blank, isGap, whole⟩ := exists_blank_append_trimLeft text.reverse
  refine ⟨blank.reverse, by simpa [isAllBlank] using isGap, ?_⟩
  have turned := congrArg List.reverse whole
  rwa [List.reverse_reverse, List.reverse_append] at turned

/-- A character that is no blank stays where it is. -/
theorem trimRight_cons {c : Char} (visible : isBlank c = false) (rest : List Char) :
    trimRight (c :: rest) = c :: trimRight rest := by
  have turned : trimLeft (rest.reverse ++ [c]) = trimLeft rest.reverse ++ [c] :=
    trimLeft_append_cons visible rest.reverse []
  have whole : trimRight (c :: rest) = (trimLeft (rest.reverse ++ [c])).reverse := by
    rw [← List.reverse_cons]
    rfl
  rw [whole, turned, List.reverse_concat]
  rfl

/-- What is left is in front of the blanks that are dropped. -/
theorem isPrefix_trimRight (text : List Char) : trimRight text <+: text :=
  List.rdropWhile_prefix isBlank text

@[simp] theorem trimRight_trimRight (text : List Char) :
    trimRight (trimRight text) = trimRight text :=
  List.rdropWhile_idempotent isBlank text

/-- What is dropped behind a text that is not blank is dropped from it. -/
theorem trimRight_append_of_visible {text : List Char} (visible : isAllBlank text = false)
    (front : List Char) : trimRight (front ++ text) = front ++ trimRight text := by
  obtain ⟨blank, isGap, whole⟩ := exists_trimRight_append_blank text
  have nonempty : trimRight text ≠ [] := by
    intro empty
    rw [empty, List.nil_append] at whole
    rw [whole, isGap] at visible
    simp at visible
  calc trimRight (front ++ text) = trimRight (front ++ trimRight text ++ blank) := by
        rw [List.append_assoc, ← whole]
    _ = trimRight (front ++ trimRight text) := trimRight_append_of_blank isGap _
    _ = front ++ trimRight text := trimRight_append nonempty (trimRight_trimRight text) front

theorem length_trimRight_le (text : List Char) : (trimRight text).length ≤ text.length :=
  (isPrefix_trimRight text).length_le

/-- A text that is its own trim has no blanks at either end. -/
theorem trim_eq_self_iff {text : List Char} :
    trim text = text ↔ trimLeft text = text ∧ trimRight text = text := by
  constructor
  · intro kept
    have left : trimLeft text = text := by
      refine (List.dropWhile_suffix isBlank).eq_of_length_le ?_
      have bound := length_trimRight_le (trimLeft text)
      rwa [← trim, kept] at bound
    exact ⟨left, by rw [trim, left] at kept; exact kept⟩
  · rintro ⟨left, right⟩
    rw [trim, left, right]

/-- A text without blanks is its own trim. -/
theorem trim_of_visible {text : List Char} (visible : ∀ c ∈ text, isBlank c = false) :
    trim text = text := by
  cases text with
  | nil => rfl
  | cons c rest =>
    refine trim_eq_self_iff.2 ⟨trimLeft_cons (visible c List.mem_cons_self) rest, ?_⟩
    obtain ⟨front, last, shape⟩ := (List.eq_nil_or_concat' (c :: rest)).resolve_left
      (List.cons_ne_nil c rest)
    rw [shape, trimRight_concat (visible last (by simp [shape]))]

/-- In front of a trimmed text there were only blanks. -/
theorem exists_trim_cons {text : List Char} (visible : isAllBlank text = false) :
    ∃ blank c more, isAllBlank blank = true ∧ trimRight text = blank ++ trim text ∧
      trim text = c :: more ∧ isBlank c = false ∧ c :: more ⊆ text := by
  obtain ⟨blank, isGap, whole⟩ := exists_blank_append_trimLeft text
  have given : trimLeft text ≠ [] := by
    intro empty
    rw [whole, empty, List.append_nil, isGap] at visible
    simp at visible
  obtain ⟨c, rest, shape⟩ := List.exists_cons_of_ne_nil given
  have first : isBlank c = false := isBlank_of_trimLeft shape
  have trimmed : trim text = c :: trimRight rest := by rw [trim, shape, trimRight_cons first]
  have behind : trimRight (blank ++ trimLeft text) = blank ++ trim text :=
    trimRight_append_of_visible (by simp [shape, isAllBlank, first]) blank
  refine ⟨blank, c, _, isGap, by rwa [← whole] at behind, trimmed, first, ?_⟩
  rw [whole, shape]
  have kept : c :: trimRight rest <+: c :: rest :=
    List.cons_prefix_cons.2 ⟨rfl, isPrefix_trimRight rest⟩
  exact List.Subset.trans kept.subset (List.subset_append_right blank (c :: rest))

@[simp] theorem trim_trim (text : List Char) : trim (trim text) = trim text := by
  refine trim_eq_self_iff.2 ⟨?_, trimRight_trimRight (trimLeft text)⟩
  rw [trim]
  cases shape : trimLeft text with
  | nil => rfl
  | cons c rest =>
    have visible := isBlank_of_trimLeft shape
    rw [trimRight_cons visible, trimLeft_cons visible]

end Text
end SchemaScaffold
