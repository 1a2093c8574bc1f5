import SchemaScaffold.Proofs.Sql.DeclaredColumns
import SchemaScaffold.Proofs.Sql.Script

/-!
# Joined bodies

Sorting the lines of a body is a homomorphism: of two bodies, one under the other, the lines of the
first are sorted in front of those of the second, whose places move behind it. What a line becomes
does not depend on the lines around it, so that lines in another order give the same columns in
another order.
-/

namespace SchemaScaffold
namespace Text

theorem trim_eq_nil_iff {text : List Char} : trim text = [] ↔ isAllBlank text = true := by
  cases blank : isAllBlank text with
  | true =>
    have bare : trimLeft text = [] := by
      simpa [trimLeft, isAllBlank] using blank
    simp [trim, bare, trimRight]
  | false =>
    obtain ⟨-, c, more, -, -, shape, -⟩ := exists_trim_cons blank
    simp [shape]

end Text

namespace Sql

open Text

namespace BodyLine

/-- A line behind a number of other lines. -/
def moved (count : Nat) (line : BodyLine) : BodyLine :=
  { line with index := count + line.index }

theorem moved_moved (count more : Nat) (line : BodyLine) :
    (line.moved count).moved more = line.moved (more + count) := by
  simp [moved, Nat.add_assoc]

theorem use_moved (count : Nat) (line : BodyLine) : (line.moved count).use = line.use := by
  simp only [use, moved]

/-- Number of the lines of a body that are not blank. -/
def countVisible (body : List Char) : Nat :=
  (splitOn '\n' body).countP fun line => !isAllBlank line

theorem length_texts (body : List Char) : (texts body).length = countVisible body := by
  have visible (line : List Char) : (!(trim line).isEmpty) = !isAllBlank line := by
    rw [Bool.eq_iff_iff]
    simp [trim_eq_nil_iff]
  rw [texts, List.filter_map, List.length_map, ← List.countP_eq_length_filter, countVisible]
  simp only [Function.comp_def, visible]

/-- The lines of the second body come behind those of the first. -/
theorem ofBody_append (first second : List Char) :
    ofBody (first ++ '\n' :: second) =
      ofBody first ++ (ofBody second).map (moved (countVisible first)) := by
  rw [ofBody, texts_append_newline, List.zipIdx_append, Nat.zero_add, length_texts,
    List.zipIdx_eq_map_add (l := texts second) (i := countVisible first), List.map_append,
    List.map_map, ofBody, ofBody, List.map_map]
  rfl

/-- Bodies that are joined keep their lines. -/
theorem texts_joinWith (bodies : List (List Char)) :
    texts (joinWith ['\n'] bodies) = bodies.flatMap texts := by
  induction bodies with
  | nil => rfl
  | cons body rest ih =>
    cases rest with
    | nil => simp [joinWith]
    | cons next others =>
      have joined : joinWith ['\n'] (body :: next :: others) =
          body ++ '\n' :: joinWith ['\n'] (next :: others) := by simp [joinWith]
      rw [joined, texts_append_newline, ih]
      rfl

/-- The place of a line does not count for what it becomes. -/
theorem map_text_filter (select : LineUse → Bool) (body : List Char) :
    ((ofBody body).filter fun line => select line.use).map (·.text) =
      ((texts body).map String.ofList).filter fun text => select (use ⟨0, text⟩) := by
  have lines : (ofBody body).map (·.text) = (texts body).map String.ofList := by
    rw [ofBody, List.map_map, ← List.zipIdx_map_fst 0 (texts body), List.map_map]
    simp [Function.comp_def]
  rw [← lines, List.filter_map]
  rfl

end BodyLine

namespace BodyContent

/-- Sorted lines with others behind them. -/
def append (first second : BodyContent) : BodyContent where
  columns := first.columns ++ second.columns
  constraintLines := first.constraintLines ++ second.constraintLines
  unmatchedLines := first.unmatchedLines ++ second.unmatchedLines

/-- Sorted lines behind a number of other lines. -/
def moved (count : Nat) (content : BodyContent) : BodyContent where
  columns := content.columns
  constraintLines := content.constraintLines.map (BodyLine.moved count)
  unmatchedLines := content.unmatchedLines.map (BodyLine.moved count)

theorem moved_moved (count more : Nat) (content : BodyContent) :
    (content.moved count).moved more = content.moved (more + count) := by
  simp [moved, Function.comp_def, BodyLine.moved_moved]

theorem moved_append (count : Nat) (first second : BodyContent) :
    (first.append second).moved count = (first.moved count).append (second.moved count) := by
  simp [moved, append]

theorem ofLines_append (first second : List BodyLine) :
    ofLines (first ++ second) = (ofLines first).append (ofLines second) := by
  simp [ofLines_eq, append]

theorem ofLines_moved (count : Nat) (lines : List BodyLine) :
    ofLines (lines.map (BodyLine.moved count)) = (ofLines lines).moved count := by
  simp [ofLines_eq, moved, List.filterMap_map, List.filter_map, Function.comp_def,
    BodyLine.use_moved]

/-- The lines of the second body are sorted behind those of the first. -/
theorem ofBody_append (first second : List Char) :
    ofBody (first ++ '\n' :: second) =
      (ofBody first).append ((ofBody second).moved (BodyLine.countVisible first)) := by
  rw [ofBody, BodyLine.ofBody_append, ofLines_append, ofLines_moved]
  rfl

/-- The same lines are sorted in the same way, but for their order. -/
structure IsReordering (first second : BodyContent) : Prop where
  columns : first.columns.Perm second.columns
  constraintLines :
    (first.constraintLines.map (·.text)).Perm (second.constraintLines.map (·.text))
  unmatchedLines : (first.unmatchedLines.map (·.text)).Perm (second.unmatchedLines.map (·.text))

/-- Bodies with the same lines in some order are sorted in the same way. -/
theorem isReordering_of_perm {first second : List Char}
    (reordered : (BodyLine.texts first).Perm (BodyLine.texts second)) :
    IsReordering (ofBody first) (ofBody second) where
  columns := by
    rw [columns_ofBody, columns_ofBody]
    exact reordered.filterMap _
  constraintLines := by
    rw [ofBody, ofBody, ofLines_eq, ofLines_eq]
    simp only [BodyLine.map_text_filter (· = .constraint)]
    exact (reordered.map _).filter _
  unmatchedLines := by
    rw [ofBody, ofBody, ofLines_eq, ofLines_eq]
    simp only [BodyLine.map_text_filter (· = .dropped)]
    exact (reordered.map _).filter _

/-- Of two bodies under each other the lines are sorted as in each of them alone, those of the
first in front; the places of the others count the lines of the first that are not blank. A line
between others is sorted as it is alone, and lines in another order give the same columns, the
same keys and constraints and the same unmatched lines in another order. -/
theorem sorting_is_homomorphic (first line second : List Char) {lines others : List (List Char)}
    (reordered : lines.Perm others) :
    ofBody (first ++ '\n' :: second) =
        (ofBody first).append ((ofBody second).moved (BodyLine.countVisible first)) ∧
      ofBody (first ++ '\n' :: (line ++ '\n' :: second)) =
        (ofBody first).append (((ofBody line).moved (BodyLine.countVisible first)).append
          ((ofBody second).moved (BodyLine.countVisible first + BodyLine.countVisible line))) ∧
      IsReordering (ofBody (joinWith ['\n'] lines)) (ofBody (joinWith ['\n'] others)) := by
  refine ⟨ofBody_append first second, ?_, isReordering_of_perm ?_⟩
  · rw [ofBody_append, ofBody_append, moved_append, moved_moved]
  · rw [BodyLine.texts_joinWith, BodyLine.texts_joinWith]
    exact reordered.flatMap_right _

/-- The lines of a body, one of them blank, and a key in front of a column. -/
theorem key_and_column_change_places :
    ["KEY a (id)".toList, "\r".toList, "id INT,".toList].Perm
        ["id INT,".toList, "KEY a (id)".toList, "\r".toList] ∧
      IsReordering (ofBody "KEY a (id)\n\r\nid INT,".toList)
        (ofBody "id INT,\nKEY a (id)\n\r".toList) := by
  have reordered : ["KEY a (id)".toList, "\r".toList, "id INT,".toList].Perm
      ["id INT,".toList, "KEY a (id)".toList, "\r".toList] := by
    decide
  exact ⟨reordered, (sorting_is_homomorphic [] [] [] reordered).2.2⟩

end BodyContent
end Sql
end SchemaScaffold
