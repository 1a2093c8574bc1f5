import SchemaScaffold.Proofs.Text.Pieces

/-!
# Dotted pieces

Single quotes part a text into pieces. This module follows those that start with a dot, as paths
of modules do: quotes take them apart, and code that is inserted between quoted texts leaves them
as they are.
-/

namespace SchemaScaffold
namespace Text

/-- The pieces between single quotes that start with a dot. -/
def dottedPieces (text : List Char) : List (List Char) :=
  (splitOn '\'' text).filter (·.head? = some '.')

/-- The same without the piece in front of the first quote. -/
def laterDotted (text : List Char) : List (List Char) :=
  (splitOn '\'' text).tail.filter (·.head? = some '.')

theorem mem_dottedPieces {text piece : List Char} :
    piece ∈ dottedPieces text ↔ piece ∈ splitOn '\'' text ∧ piece.head? = some '.' := by
  simp [dottedPieces]

/-- A quote parts the pieces of both sides. -/
theorem dottedPieces_append_quote (left right : List Char) :
    dottedPieces (left ++ '\'' :: right) = dottedPieces left ++ dottedPieces right := by
  rw [dottedPieces, splitOn_append_separator, List.filter_append]
  rfl

/-- A text between two quotes is a piece. -/
theorem mem_splitOn_of_quoted {piece : List Char} (unquoted : '\'' ∉ piece)
    (left right : List Char) :
    piece ∈ splitOn '\'' (left ++ '\'' :: (piece ++ '\'' :: right)) := by
  rw [splitOn_append_separator, splitOn_append_separator, splitOn_of_not_mem unquoted]
  simp

section Unquoted

variable {front : List Char} (unquoted : '\'' ∉ front)

include unquoted

/-- A text without quotes goes in front of the first piece of what follows. -/
theorem exists_splitOn_append (back : List Char) :
    ∃ piece pieces, splitOn '\'' back = piece :: pieces ∧
      splitOn '\'' (front ++ back) = (front ++ piece) :: pieces := by
  obtain ⟨piece, pieces, split⟩ := List.exists_cons_of_ne_nil (splitOn_ne_nil '\'' back)
  refine ⟨piece, pieces, split, ?_⟩
  induction front with
  | nil => exact split
  | cons c front ih =>
    simp only [List.mem_cons, not_or] at unquoted
    rw [List.cons_append, splitOn, if_neg (Ne.symm unquoted.1), ih unquoted.2]
    rfl

theorem dottedPieces_of_not_mem (plain : front.head? ≠ some '.') : dottedPieces front = [] := by
  simp [dottedPieces, splitOn_of_not_mem unquoted, plain]

/-- Behind code that starts with no dot only later pieces are dotted. -/
theorem dottedPieces_append (nonempty : front ≠ []) (plain : front.head? ≠ some '.')
    (back : List Char) : dottedPieces (front ++ back) = laterDotted back := by
  obtain ⟨piece, pieces, split, shape⟩ := exists_splitOn_append unquoted back
  have start : (front ++ piece).head? ≠ some '.' := by
    rwa [List.head?_append, List.head?_eq_some_head nonempty, Option.some_or,
      ← List.head?_eq_some_head nonempty]
  rw [dottedPieces, laterDotted, shape, split, List.filter_cons_of_neg (by simpa using start)]
  rfl

theorem laterDotted_append (back : List Char) : laterDotted (front ++ back) = laterDotted back := by
  obtain ⟨piece, pieces, split, shape⟩ := exists_splitOn_append unquoted back
  rw [laterDotted, laterDotted, shape, split]
  rfl

end Unquoted

theorem laterDotted_subset (text : List Char) : laterDotted text ⊆ dottedPieces text :=
  fun _ member => List.mem_filter.2 ((List.mem_filter.1 member).imp_left List.mem_of_mem_tail)

/-- The text behind the last quote, and what is in front of it. -/
theorem exists_last_piece (text : List Char) :
    ∃ piece, '\'' ∉ piece ∧ (text = piece ∨ ∃ left, text = left ++ '\'' :: piece) := by
  induction text with
  | nil => exact ⟨[], by simp, .inl rfl⟩
  | cons c text ih =>
    obtain ⟨piece, unquoted, rfl | ⟨left, rfl⟩⟩ := ih
    · by_cases quote : c = '\''
      · exact ⟨text, unquoted, .inr ⟨[], by simp [quote]⟩⟩
      · exact ⟨c :: text, by simp [unquoted, Ne.symm quote], .inl rfl⟩
    · exact ⟨piece, unquoted, .inr ⟨c :: left, rfl⟩⟩

/-- A line of code with one quoted text. -/
structure QuotingLine where
  front : List Char
  quoted : List Char
  behind : List Char
  frontCode : '\'' ∉ front
  unquoted : '\'' ∉ quoted
  behindCode : '\'' ∉ behind
  frontPlain : front.head? ≠ some '.'
  behindPlain : behind.head? ≠ some '.'
  further : behind ≠ []

def QuotingLine.text (line : QuotingLine) : List Char :=
  line.front ++ '\'' :: (line.quoted ++ '\'' :: line.behind)

/-- A line comes between two parts of a text, with code around it that replaces other code. -/
structure Insertion (line : QuotingLine) where
  before : List Char
  old : List Char
  above : List Char
  below : List Char
  back : List Char
  oldCode : '\'' ∉ old
  aboveCode : '\'' ∉ above
  belowCode : '\'' ∉ below
  abovePlain : above.head? ≠ some '.'

namespace Insertion

variable {line : QuotingLine} (insertion : Insertion line)

/-- The text before the insertion. -/
def source : List Char :=
  insertion.before ++ (insertion.old ++ insertion.back)

/-- The text after the insertion. -/
def result : List Char :=
  insertion.before ++ (insertion.above ++ (line.text ++ (insertion.below ++ insertion.back)))

/-- The code that is replaced stands at the beginning, or has a character that no dotted piece
has. -/
def IsMarked : Prop :=
  insertion.before = [] ∨ ∃ c ∈ insertion.old, ∀ other ∈ dottedPieces insertion.source, c ∉ other

variable {insertion} (marked : insertion.IsMarked)

include marked

/-- The code behind the last quote in front of the line does not start with a dot. -/
theorem IsMarked.head?_ne_dot {left last : List Char} (unquoted : '\'' ∉ last)
    (shape : insertion.before = left ++ last)
    (within : dottedPieces (last ++ (insertion.old ++ insertion.back)) ⊆
      dottedPieces insertion.source) :
    (last ++ (insertion.above ++ line.front)).head? ≠ some '.' := by
  by_cases empty : last = []
  · by_cases bare : insertion.above = []
    · rw [empty, bare]
      exact line.frontPlain
    · have plain := insertion.abovePlain
      rw [List.head?_eq_some_head bare] at plain
      rwa [empty, List.nil_append, List.head?_append, List.head?_eq_some_head bare, Option.some_or]
  · rw [List.head?_append, List.head?_eq_some_head empty, Option.some_or]
    intro dot
    rcases marked with none | ⟨c, inOld, absent⟩
    · simp [none, empty] at shape
    · -- The marked character would be in the piece that starts with the dot.
      have code : '\'' ∉ last ++ insertion.old := by simp [unquoted, insertion.oldCode]
      obtain ⟨first, pieces, -, split⟩ := exists_splitOn_append code insertion.back
      rw [List.append_assoc] at split
      have dotted : (last ++ insertion.old) ++ first ∈
          dottedPieces (last ++ (insertion.old ++ insertion.back)) := by
        refine mem_dottedPieces.2 ⟨split ▸ List.mem_cons_self, ?_⟩
        rw [List.append_assoc, List.head?_append, List.head?_eq_some_head empty, dot]
        rfl
      exact absent _ (within dotted) (by simp [inOld])

/-- From the last quote in front of the line on, the quoted text alone is added. -/
theorem IsMarked.mem_of_last {left last piece : List Char} (unquoted : '\'' ∉ last)
    (shape : insertion.before = left ++ last)
    (within : dottedPieces (last ++ (insertion.old ++ insertion.back)) ⊆
      dottedPieces insertion.source)
    (member : piece ∈ dottedPieces
      (last ++ (insertion.above ++ (line.text ++ (insertion.below ++ insertion.back))))) :
    piece ∈ dottedPieces insertion.source ∨ piece = line.quoted := by
  have old : '\'' ∉ last ++ insertion.old := by simp [unquoted, insertion.oldCode]
  have front : '\'' ∉ last ++ (insertion.above ++ line.front) := by
    simp [unquoted, insertion.aboveCode, line.frontCode]
  have behind : '\'' ∉ line.behind ++ insertion.below := by
    simp [line.behindCode, insertion.belowCode]
  have plain : (line.behind ++ insertion.below).head? ≠ some '.' := by
    have start := line.behindPlain
    rw [List.head?_eq_some_head line.further] at start
    rwa [List.head?_append, List.head?_eq_some_head line.further, Option.some_or]
  have split : last ++ (insertion.above ++ (line.text ++ (insertion.below ++ insertion.back))) =
      (last ++ (insertion.above ++ line.front)) ++ '\'' :: (line.quoted ++
        '\'' :: ((line.behind ++ insertion.below) ++ insertion.back)) := by
    simp [QuotingLine.text]
  rw [split, dottedPieces_append_quote, dottedPieces_append_quote,
    dottedPieces_of_not_mem front (marked.head?_ne_dot unquoted shape within),
    dottedPieces_append behind (by simp [line.further]) plain, List.nil_append] at member
  rcases List.mem_append.1 member with own | later
  · rw [mem_dottedPieces, splitOn_of_not_mem line.unquoted] at own
    exact .inr (List.mem_singleton.1 own.1)
  · refine .inl (within (laterDotted_subset _ ?_))
    rwa [← List.append_assoc, laterDotted_append old]

/-- No dotted piece comes about by an insertion but for the quoted text. -/
theorem IsMarked.mem_dottedPieces {piece : List Char}
    (member : piece ∈ dottedPieces insertion.result) :
    piece ∈ dottedPieces insertion.source ∨ piece = line.quoted := by
  obtain ⟨last, unquoted, whole | ⟨left, shape⟩⟩ := exists_last_piece insertion.before
  · have within : dottedPieces (last ++ (insertion.old ++ insertion.back)) ⊆
        dottedPieces insertion.source := by
      rw [source, whole]
      exact List.Subset.refl _
    rw [result, whole] at member
    exact marked.mem_of_last unquoted (whole.trans (List.nil_append last).symm) within member
  · have split : insertion.source =
        left ++ '\'' :: (last ++ (insertion.old ++ insertion.back)) := by
      rw [source, shape, List.append_assoc, List.cons_append]
    have within : dottedPieces (last ++ (insertion.old ++ insertion.back)) ⊆
        dottedPieces insertion.source := by
      rw [split, dottedPieces_append_quote]
      exact List.subset_append_right _ _
    rw [result, shape, List.append_assoc, List.cons_append, dottedPieces_append_quote] at member
    rcases List.mem_append.1 member with early | late
    · refine .inl ?_
      rw [split, dottedPieces_append_quote]
      exact List.mem_append_left _ early
    · exact marked.mem_of_last unquoted (shape.trans (List.append_cons _ _ _)) within late

end Insertion

end Text
end SchemaScaffold
