import SchemaScaffold.Proofs.Sql.Accounts
import SchemaScaffold.Proofs.Sql.Creation
import SchemaScaffold.Proofs.Sql.ParsedNames

/-!
# What reports leave out

A creation is found unless another one takes its first word as the end of a name. The names of a
text are those of the creations that are found, so a report tells apart tables and skipped names
only as far as creations are found, and it counts a name once however often it is created.
-/

namespace SchemaScaffold
namespace Sql

open Text

namespace TableStatement

/-- A statement that creates a name begins at a place of a text. -/
def IsCreatedAt (text : List Char) (name : String) (place : List Char) : Prop :=
  place <:+ text ∧ ∃ after, readName place = some (name, after)

/-- A creation that is found takes the first word of what begins at a place as the end of its
name. -/
def IsSwallowed (text place : List Char) : Prop :=
  ∃ name start after front word, (name, start) ∈ findings readName text ∧
    readName start = some (name, after) ∧ place <:+ start ∧ name.toList = front ++ word ∧
    asciiUpper word = "CREATE".toList ∧ place = word ++ after

theorem opening_ne_none {text place : List Char} {name : String}
    (created : IsCreatedAt text name place) : opening place ≠ none := by
  obtain ⟨-, after, given⟩ := created
  obtain ⟨rest, opens, -⟩ := Option.bind_eq_some_iff.1 given
  simp [opens]

theorem length_of_readName {text after : List Char} {name : String}
    (found : readName text = some (name, after)) :
    name.toList.length + after.length < text.length := by
  obtain ⟨first, rest, behind, rfl, ⟨front, rfl, -⟩, -, -, -, rfl⟩ :=
    exists_of_readName_eq_some found
  have shorter := length_skipBacktick_le behind
  simp only [List.length_cons, List.length_append]
  omega

/-- What is swallowed begins inside a creation that is found. -/
theorem exists_covers_of_isSwallowed {text place : List Char} (swallowed : IsSwallowed text place) :
    ∃ creation ∈ findings readName text, Covers readName creation.2 place ∧
      place.length < creation.2.length := by
  obtain ⟨name, start, after, front, word, member, given, within, ends, upper, rfl⟩ := swallowed
  have letters : word.length = 6 := by simpa [asciiUpper] using congrArg List.length upper
  have shorter := length_of_readName given
  refine ⟨(name, start), member, ⟨within, name, after, given, ?_⟩, ?_⟩
  · rw [List.length_append]
    omega
  · rw [ends, List.length_append] at shorter
    rw [List.length_append]
    dsimp only
    omega

/-- The creations that are found are those that are not swallowed. -/
theorem mem_findings_readName_iff {text place : List Char} {name : String} :
    (name, place) ∈ findings readName text ↔
      IsCreatedAt text name place ∧ ¬ IsSwallowed text place := by
  constructor
  · intro member
    refine ⟨mem_findings member, fun swallowed => ?_⟩
    obtain ⟨creation, other, covers, longer⟩ := exists_covers_of_isSwallowed swallowed
    have same := eq_of_covers consumes_readName other member covers
    rw [← same] at longer
    exact longer.ne rfl
  · rintro ⟨⟨within, after, given⟩, free⟩
    obtain ⟨⟨other, start⟩, member, covers⟩ :=
      exists_covers consumes_readName within (by simp [given])
    by_cases apart : place = start
    · subst apart
      obtain ⟨-, behind, own⟩ := mem_findings member
      obtain ⟨rfl, -⟩ : other = name ∧ behind = after := by simpa [own] using given
      exact member
    · have opened := opening_ne_none ⟨within, after, given⟩
      obtain ⟨_, front, word, rest, own, ends, upper, split⟩ := exists_of_covers covers apart opened
      obtain ⟨-, behind, read⟩ := mem_findings member
      obtain ⟨rfl, rfl⟩ := Prod.mk.inj (Option.some.inj (own.symm.trans read))
      exact absurd ⟨_, start, _, front, word, member, own, covers.1, ends, upper, split⟩ free

theorem mem_names_iff {text : List Char} {name : String} :
    name ∈ names text ↔ ∃ place, IsCreatedAt text name place ∧ ¬ IsSwallowed text place := by
  rw [names, firstOccurrences_eq_eraseDups, List.mem_eraseDups, List.removeAll_nil, ← map_findings,
    List.mem_map]
  constructor
  · rintro ⟨⟨_, place⟩, member, rfl⟩
    exact ⟨place, mem_findings_readName_iff.1 member⟩
  · rintro ⟨place, created⟩
    exact ⟨(name, place), mem_findings_readName_iff.2 created, rfl⟩

theorem nodup_names (text : List Char) : (names text).Nodup := by
  rw [names, firstOccurrences_eq_eraseDups]
  exact nodup_eraseDups _

/-- A statement that is found creates its name where it begins. -/
theorem isCreatedAt_of_mem_findings {text place : List Char} {statement : TableStatement}
    (member : (statement, place) ∈ findings read text) :
    IsCreatedAt text statement.name place := by
  obtain ⟨within, after, given⟩ := mem_findings member
  obtain ⟨behind, named, -⟩ := exists_readName_of_read given
  exact ⟨within, behind, named⟩

theorem mem_all_iff {text : List Char} {statement : TableStatement} :
    statement ∈ all text ↔ ∃ place, (statement, place) ∈ findings read text := by
  rw [all, ← map_findings]
  simp

end TableStatement

open TableStatement

theorem mem_tableNames_parse_iff {sql name : String} :
    name ∈ (parse sql).tableNames ↔ name ∈ (all sql.toList).map (·.name) := by
  have same : (parse sql).tableNames =
      (firstDeclarations [] (all sql.toList)).1.map (·.name) := by
    simp [Schema.tableNames, parse, parseWithReport, TableStatement.table]
  rw [same, mem_map_firstDeclarations]
  simp

theorem skippedStatements_eq (sql : String) :
    (parseWithReport sql).report.skippedStatements =
      (names sql.toList).filter fun name => !(parse sql).tableNames.contains name := by
  simp [Schema.tableNames, parse, parseWithReport, TableStatement.table, Function.comp_def]

/-- The skipped names are those that are created, without being swallowed, and are no tables.
Tables and skipped names are the names of a text exactly if each table is created somewhere
without being swallowed. -/
theorem tables_and_skipped_names (sql : String) :
    (parseWithReport sql).report.skippedStatements.Nodup ∧
      (∀ name, name ∈ (parseWithReport sql).report.skippedStatements ↔
        name ∉ (parse sql).tableNames ∧
          ∃ place, IsCreatedAt sql.toList name place ∧ ¬ IsSwallowed sql.toList place) ∧
      (∀ name ∈ (parse sql).tableNames, ∃ place, IsCreatedAt sql.toList name place) ∧
      ((∀ name, name ∈ names sql.toList ↔ name ∈ (parse sql).tableNames ∨
          name ∈ (parseWithReport sql).report.skippedStatements) ↔
        ∀ name ∈ (parse sql).tableNames,
          ∃ place, IsCreatedAt sql.toList name place ∧ ¬ IsSwallowed sql.toList place) := by
  have mem_skipped {name : String} :
      name ∈ (parseWithReport sql).report.skippedStatements ↔
        name ∈ names sql.toList ∧ name ∉ (parse sql).tableNames := by
    rw [skippedStatements_eq, List.mem_filter]
    simp
  refine ⟨?_, fun name => ?_, fun name isTable => ?_, ?_⟩
  · rw [skippedStatements_eq]
    exact (nodup_names _).filter _
  · rw [mem_skipped, mem_names_iff, and_comm]
  · obtain ⟨statement, member, rfl⟩ := List.mem_map.1 (mem_tableNames_parse_iff.1 isTable)
    obtain ⟨place, found⟩ := mem_all_iff.1 member
    exact ⟨place, isCreatedAt_of_mem_findings found⟩
  · constructor
    · intro split name isTable
      exact mem_names_iff.1 ((split name).2 (.inl isTable))
    · intro found name
      rw [mem_skipped]
      constructor
      · intro named
        by_cases isTable : name ∈ (parse sql).tableNames
        · exact .inl isTable
        · exact .inr ⟨named, isTable⟩
      · rintro (isTable | ⟨named, -⟩)
        · exact mem_names_iff.2 (found name isTable)
        · exact named

/-- A comment that ends in the opening of a statement: the first word behind the comment is taken
for a name. -/
def swallowingSql : String :=
  "-- CREATE TABLE\nCREATE TABLE users (id INT) ENGINE=InnoDB;"

/-- The table is created in the text, but nowhere without being swallowed. -/
theorem users_is_swallowed :
    "users" ∈ (parse swallowingSql).tableNames ∧
      (∃ place, IsCreatedAt swallowingSql.toList "users" place) ∧
      ¬ ∃ place, IsCreatedAt swallowingSql.toList "users" place ∧
        ¬ IsSwallowed swallowingSql.toList place := by
  have tables : (parse swallowingSql).tableNames = ["users"] := by decide +kernel
  have isTable : "users" ∈ (parse swallowingSql).tableNames := by simp [tables]
  have noName : "users" ∉ names swallowingSql.toList := by decide +kernel
  obtain ⟨-, -, created, split⟩ := tables_and_skipped_names swallowingSql
  refine ⟨isTable, created "users" isTable, fun found => noName ?_⟩
  have each : ∀ name ∈ (parse swallowingSql).tableNames, ∃ place,
      IsCreatedAt swallowingSql.toList name place ∧ ¬ IsSwallowed swallowingSql.toList place := by
    simpa [tables] using found
  exact (split.2 each "users").2 (.inl isTable)

/-- The names of a text need not contain all its tables. -/
theorem swallowed_table_has_no_name :
    (parse swallowingSql).tableNames = ["users"] ∧ names swallowingSql.toList = ["CREATE"] ∧
      (parseWithReport swallowingSql).report.skippedStatements = ["CREATE"] := by
  decide

/-- Every creation that is found begins a statement, of its own name. -/
def EachIsStatement (text : List Char) : Prop :=
  ∀ creation ∈ findings readName text, ∃ statement,
    (statement, creation.2) ∈ findings read text ∧ statement.name = creation.1

/-- Names are apart if no statement repeats one. -/
theorem repeatedStatements_eq_nil_iff {statements : List TableStatement} :
    repeatedStatements statements = [] ↔ (statements.map (·.name)).Nodup := by
  constructor
  · intro unrepeated
    have nodup := (firstDeclarations_kept [] statements).2.1
    rwa [firstDeclarations_nil, firstOfNames_of_repeatedStatements unrepeated] at nodup
  · intro nodup
    have kept : firstDeclarations [] statements = (statements, []) :=
      firstDeclarations_of_nodup nodup (by simp)
    rw [firstDeclarations_nil] at kept
    exact List.map_eq_nil_iff.1 (Prod.mk.inj kept).2

namespace TableStatement

theorem droppedLines_eq_nil_iff {statement : TableStatement} :
    statement.droppedLines = [] ↔ ∀ line ∈ statement.lines, line.use ≠ .dropped := by
  rw [droppedLines_eq, List.map_eq_nil_iff, List.filter_eq_nil_iff]
  simp

/-- A statement covers what its creation covers. -/
theorem covers_read {text place : List Char} {finding : TableStatement × List Char}
    (member : finding ∈ findings read text) (covers : Covers readName finding.2 place) :
    Covers read finding.2 place := by
  obtain ⟨within, name, behind, named, inside⟩ := covers
  obtain ⟨-, after, given⟩ := mem_findings member
  obtain ⟨bodyStart, own, shorter⟩ := exists_readName_of_read given
  obtain ⟨-, rfl⟩ := Prod.mk.inj (Option.some.inj (own.symm.trans named))
  exact ⟨within, finding.1, after, given, shorter.trans inside⟩

/-- In what is swallowed by a creation at most one statement begins. -/
theorem eq_of_covered {text : List Char} {creation : String × List Char}
    {finding further : TableStatement × List Char}
    (member : finding ∈ findings read text) (furtherMember : further ∈ findings read text)
    (covers : Covers readName creation.2 finding.2)
    (furtherCovers : Covers readName creation.2 further.2) : finding = further := by
  by_cases own : finding.2 = creation.2
  · exact (eq_of_covers consumes_read member furtherMember
      (covers_read member (own ▸ furtherCovers))).symm
  by_cases furtherOwn : further.2 = creation.2
  · exact eq_of_covers consumes_read furtherMember member
      (covers_read furtherMember (furtherOwn ▸ covers))
  -- Both begin with the last word of one name.
  obtain ⟨name, _, word, after, read, -, upper, place⟩ :=
    exists_of_covers covers own (opening_ne_none (isCreatedAt_of_mem_findings member))
  obtain ⟨other, _, otherWord, otherAfter, otherRead, -, otherUpper, otherPlace⟩ :=
    exists_of_covers furtherCovers furtherOwn
      (opening_ne_none (isCreatedAt_of_mem_findings furtherMember))
  obtain ⟨-, rfl⟩ := Prod.mk.inj (Option.some.inj (read.symm.trans otherRead))
  have letters := congrArg List.length (upper.trans otherUpper.symm)
  rw [length_asciiUpper, length_asciiUpper] at letters
  refine eq_of_place member furtherMember ?_
  rcases List.suffix_or_suffix_of_suffix covers.1 furtherCovers.1 with shorter | longer
  · exact shorter.eq_of_length (by simp [place, otherPlace, letters])
  · exact (longer.eq_of_length (by simp [place, otherPlace, letters])).symm

/-- A text has no more statements than creations. -/
theorem length_all_le (text : List Char) :
    (all text).length ≤ (scan readName text).length := by
  have bound : (findings read text).length ≤ (findings readName text).length := by
    refine length_findings_le consumes_read (fun finding member => ?_)
      fun creation _ finding member further furtherMember covers furtherCovers =>
        eq_of_covered member furtherMember covers furtherCovers
    obtain ⟨within, after, given⟩ := isCreatedAt_of_mem_findings member
    exact exists_covers consumes_readName within (by simp [given])
  rwa [all, ← map_findings read, ← map_findings readName, List.length_map, List.length_map]

/-- Statements with names of their own are told by their names. -/
theorem eq_of_name {text : List Char} (nodup : ((all text).map (·.name)).Nodup)
    {finding further : TableStatement × List Char}
    (member : finding ∈ findings read text) (furtherMember : further ∈ findings read text)
    (same : finding.1.name = further.1.name) : finding = further := by
  rw [all, ← map_findings, List.map_map] at nodup
  exact List.inj_on_of_nodup_map nodup member furtherMember same

/-- The creations of a text are its statements exactly if they create different names and none
of them swallows a statement. -/
theorem eachIsStatement_iff {text : List Char} (nodup : ((all text).map (·.name)).Nodup)
    (known : ∀ name ∈ scan readName text, name ∈ (all text).map (·.name)) :
    EachIsStatement text ↔ (scan readName text).Nodup ∧
      ∀ found ∈ findings read text, ¬ IsSwallowed text found.2 := by
  rw [← map_findings readName] at known ⊢
  constructor
  · intro each
    constructor
    · refine List.Nodup.map_on (fun creation member other otherMember same => ?_)
        (nodup_findings consumes_readName text)
      obtain ⟨statement, found, named⟩ := each creation member
      obtain ⟨further, otherFound, otherNamed⟩ := each other otherMember
      have equal := eq_of_name nodup found otherFound (named.trans (same.trans otherNamed.symm))
      exact eq_of_place member otherMember (Prod.mk.inj equal).2
    · intro found member swallowed
      obtain ⟨creation, isCreation, covers, longer⟩ := exists_covers_of_isSwallowed swallowed
      obtain ⟨statement, isStatement, -⟩ := each creation isCreation
      have equal := eq_of_covers consumes_read isStatement member (covers_read isStatement covers)
      rw [equal] at longer
      exact longer.ne rfl
  · rintro ⟨distinct, free⟩ creation member
    obtain ⟨statement, isStatement, named⟩ :=
      List.mem_map.1 (known creation.1 (List.mem_map_of_mem member))
    obtain ⟨place, found⟩ := mem_all_iff.1 isStatement
    have other : (statement.name, place) ∈ findings readName text :=
      mem_findings_readName_iff.2 ⟨isCreatedAt_of_mem_findings found, free _ found⟩
    have equal := List.inj_on_of_nodup_map distinct other member named
    exact ⟨statement, equal ▸ found, named⟩

end TableStatement

/-- A report is clean if all lines of all statements are used, the statements have names of their
own, and every name that is created is that of a statement. -/
theorem isClean_iff (sql : String) :
    (parseWithReport sql).report.isClean = true ↔
      (∀ statement ∈ all sql.toList, ∀ line ∈ statement.lines, line.use ≠ .dropped) ∧
        ((all sql.toList).map (·.name)).Nodup ∧
        ∀ name ∈ scan readName sql.toList, name ∈ (all sql.toList).map (·.name) := by
  have duplicates : (parseWithReport sql).report.duplicateTables =
      (repeatedStatements (all sql.toList)).map (·.name) := by
    simp only [parseWithReport, firstDeclarations_nil]
  have skipped : (parseWithReport sql).report.skippedStatements = [] ↔
      ∀ name ∈ scan readName sql.toList, name ∈ (all sql.toList).map (·.name) := by
    rw [skippedStatements_eq, List.filter_eq_nil_iff, names, firstOccurrences_eq_eraseDups]
    simp [List.mem_eraseDups, List.removeAll_nil, mem_tableNames_parse_iff]
  simp only [Report.isClean, Bool.and_eq_true, List.isEmpty_iff, and_assoc]
  rw [duplicates, List.map_eq_nil_iff, repeatedStatements_eq_nil_iff, skipped,
    droppedLines_eq_flatMap, List.flatMap_eq_nil_iff]
  simp only [droppedLines_eq_nil_iff]
  constructor
  · rintro ⟨used, nodup, known⟩
    rw [firstOfNames_of_repeatedStatements (repeatedStatements_eq_nil_iff.2 nodup)] at used
    exact ⟨used, nodup, known⟩
  · rintro ⟨used, nodup, known⟩
    rw [firstOfNames_of_repeatedStatements (repeatedStatements_eq_nil_iff.2 nodup)]
    exact ⟨used, nodup, known⟩

/-- A clean report loses no line and no statement that is found. Of creations it loses those that
share their names with others, and only those. -/
theorem clean_reports (sql : String) :
    ((parseWithReport sql).report.isClean = true ↔
      (∀ statement ∈ all sql.toList, ∀ line ∈ statement.lines, line.use ≠ .dropped) ∧
        ((all sql.toList).map (·.name)).Nodup ∧
        ∀ name ∈ scan readName sql.toList, name ∈ (all sql.toList).map (·.name)) ∧
      ((parseWithReport sql).report.isClean = true →
        (parse sql).tables = (all sql.toList).map (·.table) ∧
          ((scan readName sql.toList).Perm (parse sql).tableNames ↔
            (scan readName sql.toList).Nodup) ∧
          (EachIsStatement sql.toList ↔ (scan readName sql.toList).Nodup ∧
            ∀ found ∈ findings read sql.toList, ¬ IsSwallowed sql.toList found.2)) := by
  refine ⟨isClean_iff sql, fun clean => ?_⟩
  obtain ⟨-, nodup, known⟩ := (isClean_iff sql).1 clean
  have tables : (parse sql).tables = (all sql.toList).map (·.table) := by
    rw [parse, tables_eq_map,
      firstOfNames_of_repeatedStatements (repeatedStatements_eq_nil_iff.2 nodup)]
  have tableNames : (parse sql).tableNames = (all sql.toList).map (·.name) := by
    rw [Schema.tableNames, tables, List.map_map]
    rfl
  refine ⟨tables, ⟨fun same => ?_, fun distinct => ?_⟩, eachIsStatement_iff nodup known⟩
  · exact same.nodup_iff.2 (nodup_tableNames_parse sql)
  · rw [tableNames]
    refine (distinct.subperm known).perm_of_length_le ?_
    rw [List.length_map]
    exact length_all_le sql.toList

/-- Two statements with everything that is needed. -/
def pairSql : String :=
  "CREATE TABLE users (id INT) ENGINE=InnoDB;\nCREATE TABLE tasks (id INT) ENGINE=InnoDB;"

/-- Each creation has its own table. -/
theorem clean_report_of_pair :
    (parseWithReport pairSql).report.isClean = true ∧
      (scan readName pairSql.toList).Perm (parse pairSql).tableNames := by
  have clean : (parseWithReport pairSql).report.isClean = true := by decide +kernel
  obtain ⟨-, creations, -⟩ := (clean_reports pairSql).2 clean
  exact ⟨clean, creations.2 (by decide +kernel)⟩

/-- A statement without an engine clause in front of one of the same name. -/
def repeatingSql : String :=
  "CREATE TABLE users (id INT);\nCREATE TABLE users (id INT) ENGINE=InnoDB;"

/-- A report may be clean where two creations have one table. -/
theorem repeated_creation_is_lost :
    (parseWithReport repeatingSql).report.isClean = true ∧
      scan readName repeatingSql.toList = ["users", "users"] ∧
      (parse repeatingSql).tableNames = ["users"] ∧
      ¬ (scan readName repeatingSql.toList).Perm (parse repeatingSql).tableNames := by
  decide +kernel

end Sql
end SchemaScaffold
