import SchemaScaffold.Proofs.Text.Pieces
import SchemaScaffold.Text.Search

/-!
# Replacing in a text

Replacing works from left to right: it passes over what cannot start an occurrence, exchanges an
occurrence where it meets one, and goes on behind it. It does not look over characters that are
not in what is replaced.
-/

namespace SchemaScaffold
namespace Text

/-- Characters that are still to be passed over are dropped. -/
theorem replaceFrom_eq_drop (needle replacement : List Char) (pending : Nat)
    (text : List Char) :
    replaceFrom needle replacement pending text =
      replaceAll needle replacement (text.drop pending) := by
  induction pending generalizing text with
  | zero => rfl
  | succ pending ih =>
    cases text with
    | nil => simp [replaceFrom, replaceAll]
    | cons c rest => exact ih rest

/-- An occurrence is exchanged. -/
theorem replaceAll_needle {needle : List Char} (nonempty : needle ≠ [])
    (replacement text : List Char) :
    replaceAll needle replacement (needle ++ text) =
      replacement ++ replaceAll needle replacement text := by
  obtain ⟨c, rest, rfl⟩ := List.exists_cons_of_ne_nil nonempty
  have found : (c :: rest).isPrefixOf (c :: (rest ++ text)) = true := by
    simp
  simp only [replaceAll, List.cons_append, replaceFrom, found, if_true]
  rw [replaceFrom_eq_drop]
  simp [replaceAll]

/-- A text in which no occurrence starts is passed over. -/
theorem replaceAll_append {c : Char} {front : List Char} (free : c ∉ front)
    (rest replacement back : List Char) :
    replaceAll (c :: rest) replacement (front ++ back) =
      front ++ replaceAll (c :: rest) replacement back := by
  induction front with
  | nil => rfl
  | cons first others ih =>
    simp only [List.mem_cons, not_or] at free
    have apart : (c :: rest).isPrefixOf (first :: (others ++ back)) = false := by
      have other : (c == first) = false := by simpa using free.1
      simp only [List.isPrefixOf, other, Bool.false_and]
    have step := ih free.2
    simp only [replaceAll] at step ⊢
    simp only [List.cons_append, replaceFrom, apart, Bool.false_eq_true, if_false, step]

/-- A text in which no occurrence starts stays as it is. -/
theorem replaceAll_of_not_mem {c : Char} {text : List Char} (free : c ∉ text)
    (rest replacement : List Char) : replaceAll (c :: rest) replacement text = text := by
  simpa using replaceAll_append free rest replacement []

section Pieces

variable {needle replacement : List Char}

theorem replaceFrom_subset (pending : Nat) (text : List Char) :
    replaceFrom needle replacement pending text ⊆ replacement ++ text := by
  induction text generalizing pending with
  | nil => simp [replaceFrom]
  | cons c rest ih =>
    have wider : replacement ++ rest ⊆ replacement ++ c :: rest :=
      List.append_subset.2 ⟨List.subset_append_left _ _, fun d member => by simp [member]⟩
    cases pending with
    | succ pending => exact List.Subset.trans (ih pending) wider
    | zero =>
      rw [replaceFrom]
      split
      · exact List.append_subset.2
          ⟨List.subset_append_left _ _, List.Subset.trans (ih _) wider⟩
      · exact List.cons_subset.2 ⟨by simp, List.Subset.trans (ih 0) wider⟩

/-- A character is passed over where no occurrence starts. -/
theorem replaceAll_cons_of_apart {c : Char} {rest : List Char}
    (apart : ¬ needle <+: c :: rest) :
    replaceAll needle replacement (c :: rest) = c :: replaceAll needle replacement rest := by
  rw [replaceAll, replaceFrom, if_neg (by simpa [List.isPrefixOf_iff_prefix] using apart)]
  rfl

variable {separator : Char} (nonempty : needle ≠ []) (foreign : separator ∉ needle)

include nonempty foreign

/-- Both sides of a character that does not occur in what is replaced are on their own. -/
theorem replaceAll_append_separator (left right : List Char) :
    replaceAll needle replacement (left ++ separator :: right) =
      replaceAll needle replacement left ++ separator :: replaceAll needle replacement right := by
  induction size : left.length using Nat.strongRecOn generalizing left with
  | ind size ih =>
    subst size
    by_cases here : needle <+: left
    · obtain ⟨rest, rfl⟩ := here
      have shorter : rest.length < (needle ++ rest).length := by
        simpa using List.length_pos_iff.2 nonempty
      rw [List.append_assoc, replaceAll_needle nonempty, replaceAll_needle nonempty,
        ih _ shorter rest rfl, List.append_assoc]
    · -- An occurrence would have to go over the character.
      have apart : ¬ needle <+: left ++ separator :: right := by
        intro found
        have upTo : left ++ [separator] <+: left ++ separator :: right := ⟨right, by simp⟩
        rcases List.prefix_or_prefix_of_prefix found upTo with shorter | longer
        · rcases List.prefix_concat_iff.1 shorter with whole | before
          · exact foreign (by simp [whole])
          · exact here before
        · exact foreign (longer.subset (by simp))
      cases left with
      | nil => rw [List.nil_append, replaceAll_cons_of_apart apart]; rfl
      | cons c rest =>
        rw [List.cons_append] at apart ⊢
        rw [replaceAll_cons_of_apart apart, ih rest.length (by simp) rest rfl,
          replaceAll_cons_of_apart here, List.cons_append]

/-- Replacing works on the pieces of a text. -/
theorem splitOn_replaceAll (absent : separator ∉ replacement) (text : List Char) :
    splitOn separator (replaceAll needle replacement text) =
      (splitOn separator text).map (replaceAll needle replacement) := by
  induction size : text.length using Nat.strongRecOn generalizing text with
  | ind size ih =>
    subst size
    by_cases inside : separator ∈ text
    · obtain ⟨left, right, rfl⟩ := List.append_of_mem inside
      rw [replaceAll_append_separator nonempty foreign, splitOn_append_separator,
        splitOn_append_separator, List.map_append, ih left.length (by simp) left rfl,
        ih right.length (by simp; omega) right rfl]
    · have outside : separator ∉ replaceAll needle replacement text := fun member => by
        rcases List.mem_append.1 (replaceFrom_subset 0 text member) with new | old
        · exact absent new
        · exact inside old
      rw [splitOn_of_not_mem inside, splitOn_of_not_mem outside]
      rfl

end Pieces

end Text
end SchemaScaffold
