import SchemaScaffold.Proofs.Sql.Identifiers
import SchemaScaffold.Proofs.Sql.Respelling
import SchemaScaffold.Proofs.Text.Replacing

/-!
# Ends of lines

A carriage return in front of each line feed changes nothing that is read of a text, whatever
carriage returns are in it already: no name goes over a line, and the lines of a body are trimmed.
-/

namespace SchemaScaffold
namespace Sql

open Text

/-- The spelling with a carriage return in front of each line feed. -/
def carriageReturns : Respelling where
  first c := if c = '\n' then '\r' else c
  more c := if c = '\n' then ['\n'] else []
  isBlank_first c := by
    split
    · next feed => rw [feed]; rfl
    · rfl
  isAllBlank_more c := by split <;> rfl
  more_of_visible c visible := by
    have other : c ≠ '\n' := by
      rintro rfl
      exact absurd visible (by decide)
    rw [if_neg other]

theorem carriageReturns_first {c : Char} (other : c ≠ '\n') : carriageReturns.first c = c :=
  if_neg other

theorem isNeutral_carriageReturns : IsNeutral carriageReturns where
  letter capital c isCapital := by
    by_cases feed : c = '\n'
    · rw [isLetter_eq_false_of_isBlank isCapital (c := c) (by rw [feed]; rfl),
        isLetter_eq_false_of_isBlank isCapital (by rw [feed]; rfl)]
    · rw [carriageReturns_first feed]
  nameChar c := by
    by_cases feed : c = '\n'
    · rw [feed]; rfl
    · rw [carriageReturns_first feed]
  wordChar c := by
    by_cases feed : c = '\n'
    · rw [feed]; decide
    · rw [carriageReturns_first feed]
  mark := by
    intro mark isMark c
    by_cases feed : c = '\n'
    · subst feed
      simp only [List.mem_cons, List.not_mem_nil, or_false] at isMark
      rcases isMark with rfl | rfl | rfl | rfl <;> decide
    · rw [carriageReturns_first feed]

/-- The text with a carriage return in front of each line feed. -/
def withCarriageReturns (sql : String) : String :=
  String.ofList (replaceAll ['\n'] ['\r', '\n'] sql.toList)

theorem replaceAll_feed (text : List Char) :
    replaceAll ['\n'] ['\r', '\n'] text = carriageReturns.apply text := by
  induction text with
  | nil => rfl
  | cons c rest ih =>
    by_cases feed : c = '\n'
    · subst feed
      have nonempty : ['\n'] ≠ [] := by simp
      have step := replaceAll_needle nonempty ['\r', '\n'] rest
      rw [List.singleton_append] at step
      rw [step, ih]
      rfl
    · have free : '\n' ∉ [c] := by simpa using Ne.symm feed
      have step := replaceAll_append free [] ['\r', '\n'] rest
      rw [List.singleton_append] at step
      rw [step, ih, Respelling.apply_cons, carriageReturns_first feed]
      simp [carriageReturns, feed]

theorem toList_withCarriageReturns (sql : String) :
    (withCarriageReturns sql).toList = carriageReturns.apply sql.toList := by
  rw [withCarriageReturns, String.toList_ofList, replaceAll_feed]

/-- Names have no line feeds. -/
theorem respell_carriageReturns {name : String} (named : IsNameText name.toList) :
    respell carriageReturns name = name := by
  have own : name.toList.map carriageReturns.first = name.toList := by
    refine (List.map_congr_left fun c member => carriageReturns_first ?_).trans (List.map_id _)
    rintro rfl
    exact absurd (named _ member) (by decide)
  rw [respell, Respelling.apply_of_visible fun c member =>
    isBlank_eq_false_of_nameChar (named c member), own, String.ofList_toList]

/-- A blank behind a text is trimmed. -/
theorem trim_concat {c : Char} (blank : isBlank c = true) (text : List Char) :
    trim (text ++ [c]) = trim text := by
  have behind (front : List Char) : trimRight (front ++ [c]) = trimRight front := by
    simp [trimRight, blank]
  rw [trim, trim, trimLeft, List.dropWhile_append]
  split
  · next empty =>
    rw [trimLeft, List.isEmpty_iff.1 empty]
    simp [blank]
  · exact behind _

/-- Each line but the last one ends with a carriage return more. -/
theorem forall₂_splitOn (body : List Char) :
    List.Forall₂ (fun line other => line = other ∨ line = other ++ ['\r'])
      (splitOn '\n' (carriageReturns.apply body)) (splitOn '\n' body) := by
  induction body with
  | nil => exact .cons (.inl rfl) .nil
  | cons c rest ih =>
    by_cases feed : c = '\n'
    · subst feed
      exact .cons (.inr rfl) ih
    · have same : carriageReturns.apply (c :: rest) = c :: carriageReturns.apply rest := by
        rw [Respelling.apply_cons, carriageReturns_first feed]
        simp [carriageReturns, feed]
      rw [same, splitOn, splitOn, if_neg feed, if_neg feed]
      revert ih
      generalize splitOn '\n' (carriageReturns.apply rest) = lines
      generalize splitOn '\n' rest = others
      rintro (_ | ⟨rfl | rfl, later⟩)
      · exact .cons (.inl rfl) .nil
      · exact .cons (.inl rfl) later
      · exact .cons (.inr rfl) later

theorem texts_carriageReturns (body : List Char) :
    BodyLine.texts (carriageReturns.apply body) = BodyLine.texts body := by
  have lines : (splitOn '\n' (carriageReturns.apply body)).map trim =
      (splitOn '\n' body).map trim := by
    rw [← List.forall₂_eq_eq_eq, List.forall₂_map_left_iff, List.forall₂_map_right_iff]
    refine (forall₂_splitOn body).imp fun line other own => ?_
    rcases own with rfl | rfl
    · rfl
    · exact trim_concat rfl other
  rw [BodyLine.texts, BodyLine.texts, lines]

theorem ofBody_carriageReturns (body : List Char) :
    BodyContent.ofBody (carriageReturns.apply body) = BodyContent.ofBody body := by
  rw [BodyContent.ofBody, BodyContent.ofBody, BodyLine.ofBody, BodyLine.ofBody, texts_carriageReturns]

/-- The first declarations of statements that are changed, but for their names, are those of the
statements. -/
theorem firstDeclarations_map {change : TableStatement → TableStatement}
    {statements : List TableStatement} (same : ∀ statement, (change statement).name = statement.name)
    (seen : List String) :
    firstDeclarations seen (statements.map change) =
      ((firstDeclarations seen statements).1.map change, (firstDeclarations seen statements).2) := by
  induction statements generalizing seen with
  | nil => rfl
  | cons statement rest ih =>
    rw [List.map_cons, firstDeclarations, firstDeclarations, same, ih, ih]
    split <;> rfl

/-- A statement with a carriage return in front of each line feed of its body. -/
def TableStatement.withCarriageReturns (statement : TableStatement) : TableStatement :=
  ⟨statement.name, Sql.respell carriageReturns statement.body⟩

theorem TableStatement.all_carriageReturns (text : List Char) :
    all (carriageReturns.apply text) = (all text).map TableStatement.withCarriageReturns := by
  rw [all_apply isNeutral_carriageReturns]
  refine List.map_congr_left fun statement member => ?_
  rw [TableStatement.respell, respell_carriageReturns (name_of_mem_all member).2]
  rfl

theorem TableStatement.names_carriageReturns (text : List Char) :
    names (carriageReturns.apply text) = names text := by
  rw [names, names, scan_readName_apply isNeutral_carriageReturns]
  refine congrArg _ ((List.map_congr_left fun name member => ?_).trans (List.map_id _))
  exact respell_carriageReturns (readsNames_readName.of_mem_scan member).1.2

theorem DatabaseStatement.name?_carriageReturns (text : List Char) :
    name? (carriageReturns.apply text) = name? text := by
  rw [name?_apply isNeutral_carriageReturns]
  cases found : name? text with
  | none => rfl
  | some name => exact congrArg some (respell_carriageReturns (of_name? found).1.2)

/-- The lines of a statement are used the same way with carriage returns. -/
theorem TableStatement.content_withCarriageReturns (statement : TableStatement) :
    statement.withCarriageReturns.table = statement.table ∧
      statement.withCarriageReturns.droppedLines = statement.droppedLines ∧
      statement.withCarriageReturns.constraintCount = statement.constraintCount := by
  have content : BodyContent.ofBody statement.withCarriageReturns.body.toList =
      BodyContent.ofBody statement.body.toList := by
    rw [TableStatement.withCarriageReturns, Sql.respell, String.toList_ofList,
      ofBody_carriageReturns]
  rw [table, table, droppedLines, droppedLines, constraintCount, constraintCount, content]
  exact ⟨rfl, rfl, rfl⟩

/-- The schema and the report of a text do not depend on how its lines end: a carriage return in
front of each line feed changes nothing, whatever line ends and carriage returns the text mixes. -/
theorem parseWithReport_withCarriageReturns (sql : String) :
    parseWithReport (withCarriageReturns sql) = parseWithReport sql := by
  have parts := TableStatement.content_withCarriageReturns
  have named (statement : TableStatement) :
      statement.withCarriageReturns.name = statement.name := rfl
  have kept (statements : List TableStatement) :
      firstDeclarations [] (statements.map TableStatement.withCarriageReturns) =
        ((firstDeclarations [] statements).1.map TableStatement.withCarriageReturns,
          (firstDeclarations [] statements).2) :=
    firstDeclarations_map named []
  simp only [parseWithReport, toList_withCarriageReturns, TableStatement.all_carriageReturns, kept,
    TableStatement.names_carriageReturns, DatabaseStatement.name?_carriageReturns, List.map_map,
    Function.comp_def, parts, List.foldr_map, List.flatMap_map, Schema.columnCount, List.length_map]
  rfl

end Sql
end SchemaScaffold
