import SchemaScaffold.Proofs.Sql.Repetition
import SchemaScaffold.Proofs.Text.Scanning
import SchemaScaffold.Proofs.Text.Trimming

/-!
# Statements on both sides of a semicolon

Nothing that is read of a statement goes over a semicolon, so that a malformed statement cannot
affect the statements behind the next one. A text is read in two parts at each of its
semicolons, whatever they hold.
-/

namespace SchemaScaffold
namespace Sql

open Text

/-- A reader that leaves a rest of the text stops at semicolons. -/
abbrev LeavesSemicolon (read : List Char → Option (List Char)) : Prop :=
  StopsAt ';' (· ++ ·) read

/-- A reader of values stops at semicolons. -/
abbrev IsLocal {α : Type} (read : Matcher α) : Prop :=
  StopsAt ';' extendRest read

theorem skipBacktick_append_semicolon (left right : List Char) :
    skipBacktick (left ++ ';' :: right) = skipBacktick left ++ ';' :: right := by
  cases left with
  | nil => rfl
  | cons c rest =>
    simp only [List.cons_append, skipBacktick]
    split <;> rfl

theorem isLetter_semicolon {capital : Char} (other : capital ≠ ';') :
    isLetter capital ';' = false := by
  have upper : ';'.toUpper = ';' := rfl
  simp [isLetter, upper, other.symm]

/-- No letter of a keyword is a semicolon. -/
theorem leavesSemicolon_keyword {word : List Char} (apart : ';' ∉ word) :
    LeavesSemicolon (keyword word) := by
  intro left right
  induction word generalizing left with
  | nil => rfl
  | cons capital capitals ih =>
    obtain ⟨other, others⟩ := List.ne_and_not_mem_of_not_mem_cons apart
    have letter : isLetter capital ';' = false := isLetter_semicolon other.symm
    cases left with
    | nil => simp [keyword, letter]
    | cons c rest =>
      simp only [List.cons_append, keyword]
      split
      · exact ih others rest
      · rfl

theorem leavesSemicolon_blanks : LeavesSemicolon blanks := by
  intro left right
  cases left with
  | nil => rfl
  | cons c rest =>
    simp only [List.cons_append, blanks]
    split
    · exact congrArg some (trimLeft_append_cons rfl rest right)
    · rfl

theorem leavesSemicolon_spacedKeyword {word : String} (apart : ';' ∉ word.toList) :
    LeavesSemicolon (spacedKeyword word) :=
  leavesSemicolon_blanks.bind (leavesSemicolon_keyword apart)

theorem leavesSemicolon_ifNotExists : LeavesSemicolon ifNotExists := by
  have first : LeavesSemicolon fun text => (spacedKeyword "IF" text).bind (spacedKeyword "NOT") :=
    (leavesSemicolon_spacedKeyword (by decide)).bind (leavesSemicolon_spacedKeyword (by decide))
  exact first.bind (leavesSemicolon_spacedKeyword (by decide))

theorem isLocal_run {member : Char → Bool} (apart : member ';' = false) :
    IsLocal (run member) := by
  intro left right
  have taken : (left ++ ';' :: right).takeWhile member = left.takeWhile member := by
    rw [List.takeWhile_append]
    split
    · next whole => simp [apart, List.takeWhile_prefix member |>.eq_of_length whole]
    · rfl
  have dropped : (left ++ ';' :: right).dropWhile member =
      left.dropWhile member ++ ';' :: right := by
    rw [List.dropWhile_append]
    split
    · next whole => simp [apart, List.isEmpty_iff.1 whole]
    · rfl
  simp only [run, taken, dropped]
  split <;> rfl

theorem nameChar_semicolon : isNameChar ';' = false := rfl

theorem isLocal_quotedName : IsLocal quotedName := by
  intro left right
  have ran := isLocal_run nameChar_semicolon (skipBacktick left) right
  simp only [quotedName, skipBacktick_append_semicolon, ran, Option.map_map]
  refine congrFun (congrArg Option.map (funext fun found => ?_)) _
  exact congrArg (Prod.mk _) (skipBacktick_append_semicolon found.2 right)

theorem isLocal_spacedName : IsLocal spacedName :=
  leavesSemicolon_blanks.bind isLocal_quotedName

namespace TableStatement

theorem leavesSemicolon_opening : LeavesSemicolon opening :=
  (leavesSemicolon_keyword (by decide)).bind (leavesSemicolon_spacedKeyword (by decide))

theorem leavesSemicolon_engineClause : LeavesSemicolon engineClause := by
  intro left right
  rw [engineClause, trimLeft_append_cons rfl]
  exact leavesSemicolon_keyword (by decide) (trimLeft left) right

/-- No body has a semicolon. -/
theorem isLocal_readBody : IsLocal readBody := by
  intro left right
  induction left with
  | nil => simp [readBody]
  | cons c rest ih =>
    have clause := leavesSemicolon_engineClause rest right
    simp only [List.cons_append, readBody, ih, clause]
    by_cases stops : c = ';'
    · simp [stops]
    · by_cases closes : c = ')'
      · cases engineClause rest <;> cases readBody rest <;> simp [closes, extendRest]
      · cases readBody rest <;> simp [stops, closes, extendRest]

theorem isLocal_parenthesizedBody : IsLocal parenthesizedBody := by
  intro left right
  simp only [parenthesizedBody, trimLeft_append_cons (c := ';') rfl]
  cases trimLeft left with
  | nil => rfl
  | cons c rest =>
    by_cases opens : c = '('
    · subst opens
      exact isLocal_readBody rest right
    · simp [opens]

theorem isLocal_nameAndBody : IsLocal nameAndBody := by
  refine isLocal_spacedName.bind fun found right => ?_
  exact (isLocal_parenthesizedBody.map fun _ _ => rfl) found.2 right

theorem isLocal_read : IsLocal read :=
  leavesSemicolon_opening.bind
    ((leavesSemicolon_ifNotExists.bind isLocal_nameAndBody).or isLocal_nameAndBody)

theorem isLocal_readName : IsLocal readName :=
  leavesSemicolon_opening.bind
    (((leavesSemicolon_ifNotExists.bind isLocal_spacedName).or isLocal_spacedName).map
      fun _ _ => rfl)

/-- The statements of a text are those in front of a semicolon and those behind it. -/
theorem all_append_semicolon (left right : List Char) :
    all (left ++ ';' :: right) = all left ++ all right :=
  scan_append_stop isLocal_read rfl left right

theorem names_append_semicolon (left right : List Char) :
    names (left ++ ';' :: right) = (names left ++ names right).eraseDups := by
  simp only [names, scan_append_stop isLocal_readName rfl, firstOccurrences_eq_eraseDups,
    List.removeAll_nil, eraseDups_append_eraseDups]

end TableStatement

namespace DatabaseStatement

theorem leavesSemicolon_guardClause : LeavesSemicolon guardClause := by
  have first : LeavesSemicolon fun text => (keyword "IF".toList text).bind (spacedKeyword "NOT") :=
    (leavesSemicolon_keyword (by decide)).bind (leavesSemicolon_spacedKeyword (by decide))
  exact first.bind ((leavesSemicolon_spacedKeyword (by decide)).bind leavesSemicolon_blanks)

theorem isLocal_readCreate : IsLocal readCreate := by
  have first : LeavesSemicolon fun text =>
      (keyword "CREATE".toList text).bind (spacedKeyword "DATABASE") :=
    (leavesSemicolon_keyword (by decide)).bind (leavesSemicolon_spacedKeyword (by decide))
  exact first.bind (leavesSemicolon_blanks.bind
    (((leavesSemicolon_guardClause.bind isLocal_quotedName).or isLocal_quotedName).map
      fun _ _ => rfl))

theorem isLocal_readUse : IsLocal readUse :=
  ((leavesSemicolon_keyword (by decide)).bind isLocal_spacedName).map fun _ _ => rfl

/-- A semicolon is no part of a word, so that a word may begin behind it. -/
theorem firstUse_semicolon (before : Option Char) (rest : List Char) :
    firstUse before (';' :: rest) = firstUse none rest := by
  have unread : readUse (';' :: rest) = none := isLocal_readUse [] rest
  have behind : firstUse (some ';') rest = firstUse none rest := by
    cases rest with
    | nil => rfl
    | cons c others =>
      have apart : isWordChar ';' = false := by decide
      simp [firstUse, apart]
  rw [firstUse, unread, ite_self, behind]

theorem firstUse_append_semicolon (before : Option Char) (left right : List Char) :
    firstUse before (left ++ ';' :: right) =
      (firstUse before left).or (firstUse none right) := by
  induction left generalizing before with
  | nil => exact firstUse_semicolon before right
  | cons c rest ih =>
    have same := isLocal_readUse (c :: rest) right
    rw [List.cons_append] at same ⊢
    rw [firstUse, firstUse, same, ih]
    by_cases inside : before.any isWordChar = true
    · simp [inside]
    · cases readUse (c :: rest) <;> simp [inside, extendRest]

/-- A database that is created counts before one that is used, wherever they stand. -/
theorem name?_append_semicolon (left right : List Char) :
    name? (left ++ ';' :: right) =
      (((firstMatch readCreate left).or (firstMatch readCreate right)).or
        (firstUse none left)).or (firstUse none right) := by
  rw [name?, firstMatch_append_stop isLocal_readCreate rfl, firstUse_append_semicolon]
  simp only [Option.or_assoc]

end DatabaseStatement

/-- Of two texts with a semicolon between them the statements are those of the first text and
those of the second one. The second text adds the names and the tables that the first one does
not have, and the database is the first one that is created in either text or else the first
one that is used. -/
theorem parse_append_semicolon (left right : String) :
    TableStatement.all (left ++ ";" ++ right).toList =
        TableStatement.all left.toList ++ TableStatement.all right.toList ∧
      TableStatement.names (left ++ ";" ++ right).toList =
        (TableStatement.names left.toList ++ TableStatement.names right.toList).eraseDups ∧
      (parse (left ++ ";" ++ right)).tables =
        (parse left).tables ++ (parse right).tables.filter (fun table =>
          !(parse left).tableNames.contains table.name) ∧
      (parse (left ++ ";" ++ right)).database =
        (((firstMatch DatabaseStatement.readCreate left.toList).or
          (firstMatch DatabaseStatement.readCreate right.toList)).or
            (DatabaseStatement.firstUse none left.toList)).or
              (DatabaseStatement.firstUse none right.toList) := by
  have text : (left ++ ";" ++ right).toList = left.toList ++ ';' :: right.toList := by
    simp
  have statements := TableStatement.all_append_semicolon left.toList right.toList
  refine ⟨?_, ?_, ?_, ?_⟩
  · rw [text, statements]
  · rw [text, TableStatement.names_append_semicolon]
  · have names : (parse left).tableNames =
        (firstDeclarations [] (TableStatement.all left.toList)).1.map (·.name) := by
      simp [Schema.tableNames, parse, parseWithReport, TableStatement.table, Function.comp_def]
    rw [names]
    simp only [parse, parseWithReport, text, statements]
    exact tables_firstDeclarations_append _ _
  · simp only [parse, parseWithReport, text]
    exact DatabaseStatement.name?_append_semicolon left.toList right.toList

end Sql
end SchemaScaffold
