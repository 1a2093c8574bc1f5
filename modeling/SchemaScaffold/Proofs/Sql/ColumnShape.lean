import Mathlib.Data.List.DropRight
import SchemaScaffold.Proofs.Sql.PieceForms

/-!
# The shape of column lines

A line declares a column exactly if, apart from the blanks around it, it is a name with or without
backticks, blanks and a remainder. The definition is the remainder without the comma at its end,
and a column that is read is read again from the line that is written for it.
-/

namespace SchemaScaffold
namespace Sql

open Text

namespace ColumnLine

/-- A line is a name, with or without backticks, blanks and a remainder. The name and the blanks
go as far as they can, and the remainder is on one line. -/
structure HasShape (line name rest : List Char) : Prop where
  nonempty : name ≠ []
  isName : ∀ c ∈ name, isNameChar c = true
  pieces : ∃ tick ∈ tickForm, ∃ tock ∈ tickForm, ∃ space ∈ spaceForm,
    tick ++ (name ++ (tock ++ (space ++ rest))) = line ∧
      ∀ c, (tock ++ (space ++ rest)).head? = some c → isNameChar c = false
  isVisible : StartsVisibly rest
  isGiven : rest ≠ []
  isOnOneLine : '\n' ∉ rest

/-- A remainder without the comma at its end; a comma on its own stays. -/
def LosesComma (rest kept : List Char) : Prop :=
  kept ≠ [] ∧ kept ++ [','] = rest ∨ kept = rest ∧ ∀ front, front ++ [','] = rest → front = []

theorem dropComma_concat {front : List Char} (nonempty : front ≠ []) :
    dropComma (front ++ [',']) = front := by
  have long : 1 ≤ front.length := List.length_pos_of_ne_nil nonempty
  rw [dropComma, if_pos (by simpa using long), List.dropLast_concat]

theorem dropComma_eq_self {rest : List Char}
    (short : ∀ front, front ++ [','] = rest → front = []) : dropComma rest = rest := by
  rw [dropComma, if_neg]
  intro comma
  obtain ⟨last, long⟩ : rest.getLast? = some ',' ∧ 2 ≤ rest.length := by simpa using comma
  have whole : rest.dropLast ++ [','] = rest := List.dropLast_append_getLast? ',' last
  have single := congrArg List.length whole
  rw [short _ whole] at single
  simp only [List.nil_append, List.length_singleton] at single
  omega

theorem losesComma_iff {rest kept : List Char} : LosesComma rest kept ↔ dropComma rest = kept := by
  constructor
  · rintro (⟨nonempty, rfl⟩ | ⟨rfl, short⟩)
    · exact dropComma_concat nonempty
    · exact dropComma_eq_self short
  · rintro rfl
    by_cases long : ∃ front, front ≠ [] ∧ front ++ [','] = rest
    · obtain ⟨front, nonempty, rfl⟩ := long
      exact .inl ⟨by rwa [dropComma_concat nonempty], by rw [dropComma_concat nonempty]⟩
    · have short (front : List Char) (whole : front ++ [','] = rest) : front = [] := by
        by_contra nonempty
        exact long ⟨front, nonempty, whole⟩
      exact .inr ⟨dropComma_eq_self short, short⟩

/-- What is left of a remainder without its comma begins as the remainder does. -/
theorem LosesComma.begins {rest kept : List Char} (loses : LosesComma rest kept)
    (given : rest ≠ []) : kept ≠ [] ∧ kept <+: rest := by
  rcases loses with ⟨nonempty, rfl⟩ | ⟨rfl, -⟩
  · exact ⟨nonempty, List.prefix_append kept _⟩
  · exact ⟨given, List.prefix_rfl⟩

theorem trimRight_eq_rdropWhile (text : List Char) : trimRight text = text.rdropWhile isBlank :=
  rfl

/-- The definition of a line begins with a character that is no blank, so that it is not empty. -/
theorem definition_of_rest {rest kept : List Char} (visible : StartsVisibly rest)
    (given : rest ≠ []) (loses : LosesComma rest kept) :
    trimRight kept ≠ [] ∧ StartsVisibly (trimRight kept) ∧ trimRight kept <+: rest := by
  obtain ⟨nonempty, tail, rfl⟩ := loses.begins given
  obtain ⟨c, others, rfl⟩ := List.exists_cons_of_ne_nil nonempty
  have first : isBlank c = false := startsVisibly_cons.1 visible
  refine ⟨?_, ?_, (isPrefix_trimRight _).trans (List.prefix_append _ tail)⟩
  · rw [trimRight_cons first]
    exact List.cons_ne_nil c _
  · rw [trimRight_cons first]
    exact startsVisibly_cons.2 first

theorem parse_of_shape {line name rest kept : List Char} (shape : HasShape (trim line) name rest)
    (loses : LosesComma rest kept) : parse line =
      some (Column.ofDefinition (String.ofList name) (String.ofList (trimRight kept))) := by
  obtain ⟨tick, isTick, tock, isTock, space, isSpace, whole, ends⟩ := shape.pieces
  obtain ⟨first, letters, rfl⟩ := List.exists_cons_of_ne_nil shape.nonempty
  have noTick : first ≠ '\x60' := by
    rintro rfl
    exact absurd (shape.isName '\x60' (by simp)) (by decide)
  have spaceStart : (space ++ rest).head? ≠ some '\x60' := by
    obtain ⟨c, others, rfl⟩ := List.exists_cons_of_ne_nil isSpace.1
    have blank : isBlank c = true := List.all_eq_true.1 isSpace.2 c (by simp)
    rintro ⟨⟩
    exact absurd blank (by decide)
  have opened : skipBacktick (trim line) = first :: letters ++ (tock ++ (space ++ rest)) := by
    rw [← whole]
    exact Option.some.inj (takes_skipBacktick.complete isTick (by simpa using noTick))
  have ran := run_of_ends shape.nonempty shape.isName ends
  have closed : skipBacktick (tock ++ (space ++ rest)) = space ++ rest :=
    Option.some.inj (takes_skipBacktick.complete isTock spaceStart)
  have gap := takes_blanks.complete isSpace shape.isVisible
  have given := (definition_of_rest shape.isVisible shape.isGiven loses).1
  simp only [parse, opened, ran, Option.bind_some, closed, gap, losesComma_iff.1 loses]
  simp [shape.isOnOneLine, given]

theorem shape_of_parse {line : List Char} {column : Column} (read : parse line = some column) :
    ∃ name rest kept, HasShape (trim line) name rest ∧ LosesComma rest kept ∧
      column = Column.ofDefinition (String.ofList name) (String.ofList (trimRight kept)) := by
  obtain ⟨⟨name, behind⟩, ran, further⟩ := Option.bind_eq_some_iff.1 read
  obtain ⟨rest, gap, declared⟩ := Option.bind_eq_some_iff.1 further
  obtain ⟨nonempty, start, isName⟩ := run_eq_some ran
  obtain ⟨tick, isTick, opened⟩ := exists_tick_append (trim line)
  obtain ⟨tock, isTock, closed⟩ := exists_tick_append behind
  obtain ⟨space, isSpace, spaced⟩ := takes_blanks.sound gap
  obtain ⟨-, -, -, -, trimmed⟩ := exists_of_blanks_eq_some gap
  dsimp only at declared spaced
  split at declared
  · simp at declared
  · next fits =>
    simp only [Bool.or_eq_true, not_or, List.contains_iff_mem, Bool.not_eq_true,
      List.isEmpty_eq_false_iff] at fits
    have given : rest ≠ [] := by
      rintro rfl
      exact fits.2 rfl
    refine ⟨name, rest, dropComma rest, ⟨nonempty, isName, ⟨tick, isTick, tock, isTock, space,
      isSpace, ?_, ?_⟩, ?_, given, fits.1⟩, losesComma_iff.2 rfl, (Option.some.inj declared).symm⟩
    · rw [spaced, closed, ← start, opened]
    · rw [spaced, closed]
      exact head?_of_run ran
    · exact trimmed ▸ startsVisibly_trimLeft _

/-- The line of a column: its name between backticks, its definition and a comma. -/
def ofColumn (column : Column) : String :=
  "\x60" ++ column.name ++ "\x60 " ++ column.definition ++ ","

theorem toList_ofColumn (column : Column) : (ofColumn column).toList =
    '\x60' :: (column.name.toList ++
      '\x60' :: ' ' :: (column.definition.toList ++ [','])) := by
  simp [ofColumn]

/-- Backtick and comma are no blanks. -/
theorem trim_ofColumn (column : Column) :
    trim (ofColumn column).toList = (ofColumn column).toList := by
  rw [toList_ofColumn, trim_eq_self_iff]
  refine ⟨trimLeft_cons (by decide) _, ?_⟩
  have closed := trimRight_concat (c := ',') (by decide)
    ('\x60' :: (column.name.toList ++ '\x60' :: ' ' :: column.definition.toList))
  simpa only [List.cons_append, List.append_assoc] using closed

theorem hasShape_ofColumn (column : Column) (nonempty : column.name.toList ≠ [])
    (isName : ∀ c ∈ column.name.toList, isNameChar c = true)
    (given : column.definition.toList ≠ []) (visible : StartsVisibly column.definition.toList)
    (isOnOneLine : '\n' ∉ column.definition.toList) :
    HasShape (ofColumn column).toList column.name.toList (column.definition.toList ++ [',']) where
  nonempty := nonempty
  isName := isName
  pieces := by
    refine ⟨['\x60'], .inr rfl, ['\x60'], .inr rfl, [' '], ⟨by simp, by decide⟩, ?_, ?_⟩
    · simp [toList_ofColumn]
    · rintro c ⟨⟩
      decide
  isVisible := by
    obtain ⟨c, others, shape⟩ := List.exists_cons_of_ne_nil given
    rw [shape] at visible ⊢
    exact startsVisibly_cons.2 (startsVisibly_cons.1 visible)
  isGiven := by simp
  isOnOneLine := by simpa using isOnOneLine

/-- A line declares a column exactly if it has the shape of one, and the column is told by its
name and its remainder. The definition is never empty, and the line that is written for a column
declares it again. -/
theorem parse_iff_shape (line : List Char) :
    (∀ column, parse line = some column ↔
      ∃ name rest kept, HasShape (trim line) name rest ∧ LosesComma rest kept ∧
        column = Column.ofDefinition (String.ofList name) (String.ofList (trimRight kept))) ∧
    (∀ name rest kept, HasShape (trim line) name rest → LosesComma rest kept →
      trimRight kept ≠ []) ∧
    ∀ column, parse line = some column → parse (ofColumn column).toList = some column := by
  refine ⟨fun column => ⟨shape_of_parse, ?_⟩, ?_, ?_⟩
  · rintro ⟨name, rest, kept, shape, loses, rfl⟩
    exact parse_of_shape shape loses
  · intro name rest kept shape loses
    exact (definition_of_rest shape.isVisible shape.isGiven loses).1
  · intro column read
    obtain ⟨name, rest, kept, shape, loses, rfl⟩ := shape_of_parse read
    obtain ⟨given, visible, within⟩ := definition_of_rest shape.isVisible shape.isGiven loses
    have isOnOneLine : '\n' ∉ trimRight kept := fun inside =>
      shape.isOnOneLine (within.subset inside)
    have again : trimRight (trimRight kept) = trimRight kept := by
      simp only [trimRight_eq_rdropWhile, List.rdropWhile_idempotent]
    have written := hasShape_ofColumn
      (Column.ofDefinition (String.ofList name) (String.ofList (trimRight kept)))
      (by simpa using shape.nonempty) (by simpa using shape.isName) (by simpa using given)
      (by simpa using visible) (by simpa using isOnOneLine)
    rw [← trim_ofColumn] at written
    rw [parse_of_shape written (.inl ⟨by simpa using given, rfl⟩)]
    simp [again]

/-- Of two commas one belongs to the definition, and it stays when the column is written and read
again. -/
theorem parse_doubled_comma :
    parse "\tprice\x60 \t DECIMAL(10, 2) ,, ".toList =
        some (Column.ofDefinition "price" "DECIMAL(10, 2) ,") ∧
      parse (ofColumn (Column.ofDefinition "price" "DECIMAL(10, 2) ,")).toList =
        some (Column.ofDefinition "price" "DECIMAL(10, 2) ,") := by
  have read : parse "\tprice\x60 \t DECIMAL(10, 2) ,, ".toList =
      some (Column.ofDefinition "price" "DECIMAL(10, 2) ,") := by decide
  exact ⟨read, (parse_iff_shape _).2.2 _ read⟩

end ColumnLine
end Sql
end SchemaScaffold
