import SchemaScaffold.Text.LetterCase
import SchemaScaffold.Text.Search

/-!
# Searching and scanning

A text occurs in another one if that one has it as an infix, searching splits a text at the
occurrence that ends first, whatever follows, and what a scan finds was read somewhere in the
text.
-/

namespace SchemaScaffold
namespace Text

theorem occursIn_iff {needle text : List Char} :
    occursIn needle text = true ↔ needle <:+: text := by
  induction text with
  | nil => simp [occursIn]
  | cons c rest ih =>
    rw [occursIn, Bool.or_eq_true, ih, List.isPrefixOf_iff_prefix, List.infix_cons_iff]

/-- The text is split in front of an occurrence, and nothing is lost. -/
theorem splitAtFirst_eq_some {needle text before found : List Char}
    (split : splitAtFirst needle text = some (before, found)) :
    text = before ++ found ∧ needle <+: found := by
  induction text generalizing before with
  | nil =>
    simp only [splitAtFirst] at split
    split at split
    · next empty =>
      obtain ⟨rfl, rfl⟩ : [] = before ∧ [] = found := by simpa using split
      simpa using empty
    · simp at split
  | cons c rest ih =>
    simp only [splitAtFirst] at split
    split at split
    · next here =>
      obtain ⟨rfl, rfl⟩ : [] = before ∧ c :: rest = found := by simpa using split
      exact ⟨rfl, List.isPrefixOf_iff_prefix.1 here⟩
    · obtain ⟨⟨front, back⟩, later, shape⟩ := Option.map_eq_some_iff.1 split
      obtain ⟨rfl, rfl⟩ : c :: front = before ∧ back = found := by simpa using shape
      obtain ⟨whole, start⟩ := ih later
      exact ⟨by rw [whole, List.cons_append], start⟩

/-- Nothing is split exactly where nothing occurs. -/
theorem splitAtFirst_eq_none_iff {needle text : List Char} :
    splitAtFirst needle text = none ↔ ¬ needle <:+: text := by
  induction text with
  | nil => simp [splitAtFirst]
  | cons c rest ih =>
    rw [splitAtFirst, List.infix_cons_iff, not_or, ← ih, ← List.isPrefixOf_iff_prefix]
    split
    · next here => simp [here]
    · next apart => simp [apart]

/-- An occurrence is the first one also in front of more text. -/
theorem splitAtFirst_append {needle text before found : List Char}
    (split : splitAtFirst needle text = some (before, found)) (more : List Char) :
    splitAtFirst needle (text ++ more) = some (before, found ++ more) := by
  induction text generalizing before with
  | nil =>
    simp only [splitAtFirst] at split
    split at split
    · next empty =>
      obtain ⟨rfl, rfl⟩ : [] = before ∧ [] = found := by simpa using split
      cases more <;> simp [splitAtFirst, List.isEmpty_iff.1 empty]
    · simp at split
  | cons c rest ih =>
    simp only [splitAtFirst] at split
    split at split
    · next here =>
      obtain ⟨rfl, rfl⟩ : [] = before ∧ c :: rest = found := by simpa using split
      have longer : needle.isPrefixOf (c :: rest ++ more) = true :=
        List.isPrefixOf_iff_prefix.2
          ((List.isPrefixOf_iff_prefix.1 here).trans (List.prefix_append _ more))
      rw [List.cons_append, splitAtFirst, ← List.cons_append, longer, if_pos rfl]
    · next apart =>
      obtain ⟨⟨front, back⟩, later, shape⟩ := Option.map_eq_some_iff.1 split
      obtain ⟨rfl, rfl⟩ : c :: front = before ∧ back = found := by simpa using shape
      -- What follows is long enough for the occurrence, so no text is needed from behind.
      have short : needle.length ≤ (c :: rest).length := by
        obtain ⟨whole, start⟩ := splitAtFirst_eq_some later
        have bound := start.length_le
        simp only [whole, List.length_cons, List.length_append]
        omega
      have shorter : needle.isPrefixOf (c :: rest ++ more) = false := by
        rw [← Bool.not_eq_true, List.isPrefixOf_iff_prefix]
        exact fun start => apart (List.isPrefixOf_iff_prefix.2
          (List.prefix_of_prefix_length_le start (List.prefix_append _ more) short))
      rw [List.cons_append, splitAtFirst, ← List.cons_append, shorter, ih later]
      rfl

/-- A text in which no occurrence starts is passed over. -/
theorem splitAtFirst_append_of_apart {needle front : List Char} (text : List Char)
    (apart : ∀ back, back ≠ [] → back <:+ front → ¬ needle <+: back ++ text) :
    splitAtFirst needle (front ++ text) =
      (splitAtFirst needle text).map fun split => (front ++ split.1, split.2) := by
  induction front with
  | nil => simp
  | cons c front ih =>
    have here : needle.isPrefixOf (c :: (front ++ text)) = false := by
      rw [← Bool.not_eq_true, List.isPrefixOf_iff_prefix]
      exact apart (c :: front) (List.cons_ne_nil c front) List.suffix_rfl
    have later := ih fun back nonempty behind =>
      apart back nonempty (behind.trans (List.suffix_cons c front))
    rw [List.cons_append, splitAtFirst, here, if_neg Bool.false_ne_true, later, Option.map_map]
    rfl

/-- A text starts with `before` and `needle`, and no occurrence of `needle` ends earlier. -/
structure StandsFirst (needle before text : List Char) : Prop where
  stands : before ++ needle <+: text
  first : ¬ needle <:+: (before ++ needle).dropLast

/-- A text is split at the occurrence that ends first. -/
theorem standsFirst_of_splitAtFirst {needle text before found : List Char}
    (nonempty : needle ≠ []) (split : splitAtFirst needle text = some (before, found)) :
    StandsFirst needle before text := by
  obtain ⟨rfl, rest, rfl⟩ := splitAtFirst_eq_some split
  refine ⟨⟨rest, List.append_assoc before needle rest⟩, ?_⟩
  induction before with
  | nil =>
    intro inside
    have bound := inside.length_le
    have positive := List.length_pos_iff.2 nonempty
    rw [List.nil_append, List.length_dropLast] at bound
    omega
  | cons c front ih =>
    simp only [List.cons_append, splitAtFirst] at split
    split at split
    · simp at split
    · next apart =>
      obtain ⟨⟨start, back⟩, later, shape⟩ := Option.map_eq_some_iff.1 split
      obtain ⟨rfl, rfl⟩ : start = front ∧ back = needle ++ rest := by simpa using shape
      have further : start ++ needle ≠ [] := by simp [nonempty]
      rw [List.cons_append, List.dropLast_cons_of_ne_nil further, List.infix_cons_iff, not_or]
      refine ⟨fun here => apart (List.isPrefixOf_iff_prefix.2 (here.trans ?_)), ih later⟩
      rw [← List.append_assoc]
      exact (List.prefix_cons_inj c).2
        ((List.dropLast_prefix _).trans (List.prefix_append _ rest))

/-- Two occurrences that both end first are the same. -/
theorem StandsFirst.eq_of_le {needle before other text : List Char}
    (first : StandsFirst needle before text) (second : StandsFirst needle other text)
    (shorter : before.length ≤ other.length) : before = other := by
  have whole : before ++ needle <+: other ++ needle :=
    List.prefix_of_prefix_length_le first.stands second.stands (by simpa using shorter)
  rcases Nat.lt_or_eq_of_le shorter with longer | same
  · refine absurd ((List.suffix_append before needle).isInfix.trans ?_) second.first
    refine (List.prefix_of_prefix_length_le whole (List.dropLast_prefix _) ?_).isInfix
    rw [List.length_dropLast, List.length_append, List.length_append]
    omega
  · exact (List.append_inj (whole.eq_of_length (by simp [same])) same).1

theorem splitAtFirst_eq_some_iff {needle text before found : List Char} (nonempty : needle ≠ []) :
    splitAtFirst needle text = some (before, found) ↔
      StandsFirst needle before text ∧ text = before ++ found := by
  constructor
  · intro split
    exact ⟨standsFirst_of_splitAtFirst nonempty split, (splitAtFirst_eq_some split).1⟩
  · rintro ⟨first, rfl⟩
    cases split : splitAtFirst needle (before ++ found) with
    | none =>
      exact absurd ((List.suffix_append before needle).isInfix.trans first.stands.isInfix)
        (splitAtFirst_eq_none_iff.1 split)
    | some parts =>
      obtain ⟨other, more⟩ := parts
      have second := standsFirst_of_splitAtFirst nonempty split
      have same : before = other := by
        rcases Nat.le_total before.length other.length with shorter | shorter
        · exact first.eq_of_le second shorter
        · exact (second.eq_of_le first shorter).symm
      subst same
      rw [List.append_cancel_left (splitAtFirst_eq_some split).1]

/-- A text is split at the first of the characters that are searched. -/
theorem splitAtFirst_singleton (mark : Char) (text : List Char) :
    splitAtFirst [mark] text =
      if mark ∈ text then some (text.takeWhile (· != mark), text.dropWhile (· != mark))
      else none := by
  induction text with
  | nil => simp [splitAtFirst]
  | cons c rest ih =>
    by_cases same : c = mark
    · simp [splitAtFirst, same]
    · rw [splitAtFirst, if_neg (by simp [Ne.symm same]), ih]
      by_cases member : mark ∈ rest
      · simp [same, member]
      · simp [Ne.symm same, member]

/-- What is found in capitals stands in the text itself, in letters of either case. -/
theorem exists_of_splitAtFirst_asciiUpper {needle text before found : List Char}
    (split : splitAtFirst needle (asciiUpper text) = some (before, found)) :
    ∃ front keyword rest, text = front ++ (keyword ++ rest) ∧ asciiUpper front = before ∧
      asciiUpper keyword = needle ∧ text.drop (before.length + needle.length) = rest := by
  obtain ⟨whole, more, rfl⟩ := splitAtFirst_eq_some split
  obtain ⟨front, behind, rfl, rfl, second⟩ := List.map_eq_append_iff.1 whole
  obtain ⟨keyword, rest, rfl, rfl, -⟩ := List.map_eq_append_iff.1 second
  refine ⟨front, keyword, rest, rfl, rfl, rfl, ?_⟩
  rw [List.length_map, List.length_map, ← List.drop_drop, List.drop_left, List.drop_left]

/-- What a scan finds was read at some position. -/
theorem exists_read_of_mem_scanFrom {α : Type} {read : Matcher α} {pending : Nat}
    {text : List Char} {a : α} (member : a ∈ scanFrom read pending text) :
    ∃ tail rest, read tail = some (a, rest) := by
  induction text generalizing pending with
  | nil => simp [scanFrom] at member
  | cons c rest ih =>
    cases pending with
    | succ pending => exact ih member
    | zero =>
      simp only [scanFrom] at member
      split at member
      · next value after found =>
        rcases List.mem_cons.1 member with rfl | later
        · exact ⟨c :: rest, after, found⟩
        · exact ih later
      · exact ih member

end Text
end SchemaScaffold
