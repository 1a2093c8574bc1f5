import Mathlib.Data.List.Infix
import SchemaScaffold.Proofs.Sql.LineUse
import SchemaScaffold.Proofs.Sql.Repetition

/-!
# Accounts of parsing

The report on a parsed text accounts for every statement and for every line of the statements
that count: each statement is kept or listed as a duplicate, and each line of a kept one is a
column, a key or constraint, or listed as dropped, with its table and its number.
-/

namespace SchemaScaffold
namespace Sql

/-- Statements, each with those in front of it. -/
def withFormer (statements : List TableStatement) :
    List (List TableStatement × TableStatement) :=
  statements.inits.zip statements

/-- Whether a name has been seen or a statement in front has it. -/
def isRepeated (seen : List String) (pair : List TableStatement × TableStatement) : Bool :=
  pair.2.name ∈ seen ++ pair.1.map (·.name)

/-- The statements whose names no statement in front of them has. -/
def firstOfNames (statements : List TableStatement) : List TableStatement :=
  ((withFormer statements).filter fun pair => !isRepeated [] pair).map (·.2)

/-- The statements whose names a statement in front of them has. -/
def repeatedStatements (statements : List TableStatement) : List TableStatement :=
  ((withFormer statements).filter (isRepeated [])).map (·.2)

theorem withFormer_cons (statement : TableStatement) (rest : List TableStatement) :
    withFormer (statement :: rest) =
      ([], statement) :: (withFormer rest).map (Prod.map (statement :: ·) id) := by
  simp [withFormer, List.zip_map_left]

theorem append_of_mem_withFormer {statements former : List TableStatement}
    {statement : TableStatement} (member : (former, statement) ∈ withFormer statements) :
    ∃ back, statements = former ++ statement :: back := by
  induction statements generalizing former with
  | nil => simp [withFormer] at member
  | cons first rest ih =>
    rw [withFormer_cons] at member
    rcases List.mem_cons.1 member with same | later
    · obtain ⟨rfl, rfl⟩ := Prod.mk.inj same
      exact ⟨rest, rfl⟩
    · obtain ⟨⟨front, other⟩, inRest, shape⟩ := List.mem_map.1 later
      obtain ⟨rfl, rfl⟩ := Prod.mk.inj shape
      obtain ⟨back, rfl⟩ := ih inRest
      exact ⟨back, rfl⟩

/-- A statement may be seen in front of the others. -/
theorem isRepeated_map {seen names : List String} {statement : TableStatement}
    (same : ∀ name, name ∈ names ↔ name = statement.name ∨ name ∈ seen)
    (pair : List TableStatement × TableStatement) :
    isRepeated seen (Prod.map (statement :: ·) id pair) = isRepeated names pair := by
  rw [Bool.eq_iff_iff]
  simp only [isRepeated, Prod.map_fst, Prod.map_snd, id_eq, List.map_cons, List.mem_append,
    List.mem_cons, decide_eq_true_eq, same]
  tauto

/-- Statements are kept if their names neither have been seen nor stand in front of them. -/
theorem firstDeclarations_eq_filter (seen : List String) (statements : List TableStatement) :
    firstDeclarations seen statements =
      (((withFormer statements).filter fun pair => !isRepeated seen pair).map (·.2),
        ((withFormer statements).filter (isRepeated seen)).map (·.2.name)) := by
  induction statements generalizing seen with
  | nil => rfl
  | cons statement rest ih =>
    have later {names : List String}
        (same : ∀ name, name ∈ names ↔ name = statement.name ∨ name ∈ seen) :
        firstDeclarations names rest =
          ((((withFormer rest).map (Prod.map (statement :: ·) id)).filter
              fun pair => !isRepeated seen pair).map (·.2),
            (((withFormer rest).map (Prod.map (statement :: ·) id)).filter
              (isRepeated seen)).map (·.2.name)) := by
      simp only [ih, List.filter_map, List.map_map, Function.comp_def, isRepeated_map same,
        Prod.map_snd, id_eq]
    rw [withFormer_cons, firstDeclarations]
    by_cases known : statement.name ∈ seen
    · have own : isRepeated seen ([], statement) = true := by simp [isRepeated, known]
      rw [if_pos (by simpa using known), List.filter_cons_of_neg (by simp [own]),
        List.filter_cons_of_pos own, later (by simp [known])]
      rfl
    · have own : isRepeated seen ([], statement) = false := by simp [isRepeated, known]
      rw [if_neg (by simpa using known), List.filter_cons_of_pos (by simp [own]),
        List.filter_cons_of_neg (by simp [own]), later (by simp)]
      rfl

/-- The first statement of a name is the one that is kept. -/
theorem find?_of_mem_firstOfNames {statements : List TableStatement} {statement : TableStatement}
    (member : statement ∈ firstOfNames statements) :
    statements.find? (·.name == statement.name) = some statement := by
  obtain ⟨⟨former, _⟩, chosen, rfl⟩ := List.mem_map.1 member
  obtain ⟨isPair, new⟩ := List.mem_filter.1 chosen
  obtain ⟨back, rfl⟩ := append_of_mem_withFormer isPair
  refine List.find?_eq_some_iff_append.2 ⟨by simp, former, back, rfl, fun other inFront => ?_⟩
  simp only [Bool.not_eq_true', beq_eq_false_iff_ne]
  intro same
  simp only [isRepeated, List.nil_append, Bool.not_eq_true', decide_eq_false_iff_not] at new
  exact new (List.mem_map.2 ⟨other, inFront, same⟩)

theorem map_withFormer (statements : List TableStatement) :
    (withFormer statements).map (·.2) = statements :=
  List.map_snd_zip (by simp)

/-- Where no statement repeats a name, every statement is the first of its name. -/
theorem firstOfNames_of_repeatedStatements {statements : List TableStatement}
    (unrepeated : repeatedStatements statements = []) : firstOfNames statements = statements := by
  have new : ∀ pair ∈ withFormer statements, (!isRepeated [] pair) = true := by
    intro pair member
    have kept := List.filter_eq_nil_iff.1 (List.map_eq_nil_iff.1 unrepeated) pair member
    simpa using kept
  rw [firstOfNames, List.filter_eq_self.2 new, map_withFormer]

namespace TableStatement

/-- The lines of a statement's body. -/
def lines (statement : TableStatement) : List BodyLine :=
  BodyLine.ofBody statement.body.toList

theorem table_eq (statement : TableStatement) :
    statement.table = ⟨statement.name, statement.lines.filterMap (·.use.column?)⟩ := by
  rw [table, BodyContent.ofBody, BodyContent.ofLines_eq, lines]

theorem droppedLines_eq (statement : TableStatement) :
    statement.droppedLines = (statement.lines.filter (·.use = .dropped)).map fun line =>
      ⟨statement.name, line.index + 1, line.text⟩ := by
  rw [droppedLines, BodyContent.ofBody, BodyContent.ofLines_eq, lines]

theorem constraintCount_eq (statement : TableStatement) :
    statement.constraintCount = (statement.lines.filter (·.use = .constraint)).length := by
  rw [constraintCount, BodyContent.ofBody, BodyContent.ofLines_eq, lines]

/-- Each line of a statement is counted once. -/
theorem length_lines (statement : TableStatement) :
    statement.lines.length = statement.table.columns.length + statement.constraintCount +
      statement.droppedLines.length := by
  rw [lines, ← BodyContent.size_ofLines, droppedLines, List.length_map]
  rfl

end TableStatement

/-- What the report of a reading says about the statements of a text. -/
structure Accounts (statements : List TableStatement) (run : ParseRun) : Prop where
  /-- The tables are the statements with new names, in order, with the columns of their lines. -/
  tables : run.schema.tables = (firstOfNames statements).map fun statement =>
    ⟨statement.name, statement.lines.filterMap (·.use.column?)⟩
  /-- The duplicates are the names of the other statements, in order. -/
  duplicateTables : run.report.duplicateTables = (repeatedStatements statements).map (·.name)
  tableCount : run.report.tableCount = run.schema.tables.length
  statementCount :
    run.report.tableCount + run.report.duplicateTables.length = statements.length
  columnCount :
    run.report.columnCount = (run.schema.tables.flatMap (·.columns)).length
  constraintLines : run.report.constraintLines =
    (((firstOfNames statements).flatMap (·.lines)).filter (·.use = .constraint)).length
  /-- The dropped lines are listed in order, with their tables and their numbers from one. -/
  droppedLines : run.report.droppedLines = (firstOfNames statements).flatMap fun statement =>
    (statement.lines.filter (·.use = .dropped)).map fun line =>
      ⟨statement.name, line.index + 1, line.text⟩
  lineCount :
    run.report.columnCount + run.report.constraintLines + run.report.droppedLines.length =
      ((firstOfNames statements).flatMap (·.lines)).length
  /-- A dropped line stands at its number in the first statement of its table, is no key or
  constraint and cannot be read as a column. -/
  dropped : ∀ entry ∈ run.report.droppedLines, ∃ statement index,
    statements.find? (·.name == entry.table) = some statement ∧
      entry.line = index + 1 ∧
      (BodyLine.texts statement.body.toList)[index]? = some entry.text.toList ∧
      BodyLine.kind entry.text.toList = .candidate ∧
      ColumnLine.parse entry.text.toList = none

/-- Statements with new names, and the names of the others, are told apart. -/
theorem firstDeclarations_nil (statements : List TableStatement) :
    firstDeclarations [] statements =
      (firstOfNames statements, (repeatedStatements statements).map (·.name)) := by
  rw [firstDeclarations_eq_filter, firstOfNames, repeatedStatements, List.map_map]
  rfl

theorem tables_eq_map (sql : String) :
    (parseWithReport sql).schema.tables =
      (firstOfNames (TableStatement.all sql.toList)).map (·.table) := by
  simp only [parseWithReport, firstDeclarations_nil]

theorem droppedLines_eq_flatMap (sql : String) :
    (parseWithReport sql).report.droppedLines =
      (firstOfNames (TableStatement.all sql.toList)).flatMap (·.droppedLines) := by
  simp only [parseWithReport, firstDeclarations_nil]

theorem columnCount_eq_length (schema : Schema) :
    schema.columnCount = (schema.tables.flatMap (·.columns)).length := by
  unfold Schema.columnCount
  induction schema.tables with
  | nil => rfl
  | cons table rest ih => simp [ih]

/-- Counts of all statements are those of their lines together. -/
theorem foldr_constraintCount (statements : List TableStatement) :
    statements.foldr (fun statement count => statement.constraintCount + count) 0 =
      ((statements.flatMap (·.lines)).filter (·.use = .constraint)).length := by
  induction statements with
  | nil => rfl
  | cons statement rest ih =>
    rw [List.foldr_cons, ih, statement.constraintCount_eq, List.flatMap_cons, List.filter_append,
      List.length_append]

/-- Every line of statements is a column, a key or constraint, or dropped. -/
theorem length_flatMap_lines (statements : List TableStatement) :
    ((statements.map (·.table)).flatMap (·.columns)).length +
        ((statements.flatMap (·.lines)).filter (·.use = .constraint)).length +
        (statements.flatMap (·.droppedLines)).length =
      (statements.flatMap (·.lines)).length := by
  induction statements with
  | nil => rfl
  | cons statement rest ih =>
    have own := statement.length_lines
    rw [statement.constraintCount_eq] at own
    simp only [List.map_cons, List.flatMap_cons, List.filter_append, List.length_append] at ih ⊢
    omega

/-- Every statement of a text and every line of the statements that count is accounted for. -/
theorem parse_accounts (sql : String) :
    Accounts (TableStatement.all sql.toList) (parseWithReport sql) := by
  have tables := tables_eq_map sql
  have droppedLines := droppedLines_eq_flatMap sql
  have columnCount : (parseWithReport sql).report.columnCount =
      ((parseWithReport sql).schema.tables.flatMap (·.columns)).length :=
    columnCount_eq_length (parseWithReport sql).schema
  have constraintLines : (parseWithReport sql).report.constraintLines =
      (((firstOfNames (TableStatement.all sql.toList)).flatMap (·.lines)).filter
        (·.use = .constraint)).length := by
    rw [← foldr_constraintCount]
    simp only [parseWithReport, firstDeclarations_nil]
  constructor
  case tables =>
    rw [tables]
    exact List.map_congr_left fun statement _ => statement.table_eq
  case duplicateTables => simp only [parseWithReport, firstDeclarations_nil]
  case tableCount => rfl
  case statementCount =>
    rw [← length_firstDeclarations []]
    simp only [parseWithReport, List.length_map]
  case columnCount => exact columnCount
  case constraintLines => exact constraintLines
  case droppedLines =>
    rw [droppedLines]
    simp only [TableStatement.droppedLines_eq]
  case lineCount =>
    rw [columnCount, constraintLines, droppedLines, tables, length_flatMap_lines]
  case dropped =>
    intro entry member
    rw [droppedLines] at member
    obtain ⟨statement, first, inStatement⟩ := List.mem_flatMap.1 member
    rw [statement.droppedLines_eq] at inStatement
    obtain ⟨line, chosen, rfl⟩ := List.mem_map.1 inStatement
    obtain ⟨isLine, dropped⟩ := List.mem_filter.1 chosen
    obtain ⟨isCandidate, noColumn⟩ := BodyLine.of_use_eq_dropped (by simpa using dropped)
    exact ⟨statement, line.index, find?_of_mem_firstOfNames first, rfl,
      BodyLine.getElem?_texts_of_mem_ofBody isLine, isCandidate, noColumn⟩

end Sql
end SchemaScaffold
