import SchemaScaffold.Proofs.Schema.EntityNames
import SchemaScaffold.Proofs.Sql.Locality
import SchemaScaffold.Proofs.Text.Pieces
import SchemaScaffold.Proofs.Text.Searching

/-!
# Scripts

Texts in which tables are written down, one statement for each table and one line for each
column, with any text around them that creates nothing. Reading a script gives its tables back.
-/

namespace SchemaScaffold
namespace Sql

open Text

/-- Names of ASCII letters, digits and underscores. -/
def IsWord (name : String) : Prop :=
  name ≠ "" ∧ ∀ c ∈ name.toList, c.isAlphanum = true ∨ c = '_'

instance : DecidablePred IsWord := fun name =>
  decidable_of_iff
    (name ≠ "" ∧ name.toList.all (fun c => c.isAlphanum || decide (c = '_')) = true)
    (by simp [IsWord])

/-- A column on a line of its own. -/
structure WrittenColumn where
  name : String
  definition : String
  isWord : IsWord name
  isGiven : definition ≠ ""
  isTrimmed : trim definition.toList = definition.toList
  isOnOneLine : '\n' ∉ definition.toList
  isInStatement : ';' ∉ definition.toList
  isUncontinued : definition.toList.getLast? ≠ some ','

namespace WrittenColumn

/-- The column that is written. -/
def column (written : WrittenColumn) : Column :=
  Column.ofDefinition written.name written.definition

/-- The line of a column, without a comma. -/
def line (written : WrittenColumn) : String :=
  "  \x60" ++ written.name ++ "\x60 " ++ written.definition

end WrittenColumn

/-- The text between the parentheses: a gap, and lines with commas between them. -/
def writtenBody (gap : String) (columns : List WrittenColumn) : String :=
  gap ++ ",\n".intercalate (columns.map (·.line)) ++ "\n"

/-- Somewhere in a text a parenthesis is closed in front of an engine clause, in any case of its
letters. -/
def HasEngineClause (text : List Char) : Prop :=
  ∃ front blank engine back, text = front ++ ')' :: (blank ++ (engine ++ back)) ∧
    isAllBlank blank = true ∧ asciiUpper engine = "ENGINE".toList

/-- A table in a statement of its own. -/
structure WrittenTable where
  name : String
  /-- Whether `IF NOT EXISTS` stands in front of the name. -/
  isGuarded : Bool
  /-- What is between the opening parenthesis and the first line. -/
  gap : String
  columns : List WrittenColumn
  isWord : IsWord name
  isGap : isAllBlank gap.toList = true
  isOpen : ¬ HasEngineClause (writtenBody gap columns).toList

namespace WrittenTable

/-- The table that is written. -/
def table (written : WrittenTable) : Table :=
  ⟨written.name, written.columns.map (·.column)⟩

def body (written : WrittenTable) : String :=
  writtenBody written.gap written.columns

/-- The statement without the semicolon at its end. -/
def statement (written : WrittenTable) : String :=
  "CREATE TABLE" ++ (if written.isGuarded then " IF NOT EXISTS" else "") ++
    " \x60" ++ written.name ++ "\x60 (" ++ written.body ++ ") ENGINE=InnoDB"

end WrittenTable

/-- A text without the word `CREATE`, in any case of its letters. -/
def IsQuiet (text : String) : Prop :=
  ¬ "CREATE".toList <:+: asciiUpper text.toList

instance : DecidablePred IsQuiet := fun _ => decidable_of_iff _ (not_congr occursIn_iff)

/-- Statements with a text in front of them and a text behind each of them. -/
def script (lead : String) : List (WrittenTable × String) → String
  | [] => lead
  | (written, next) :: rest => lead ++ written.statement ++ ";" ++ script next rest

/-- A keyword is read in any case of its letters. -/
theorem keyword_append {word front : List Char} (upper : asciiUpper front = word)
    (rest : List Char) : keyword word (front ++ rest) = some rest := by
  subst upper
  induction front with
  | nil => rfl
  | cons c others ih => simpa [asciiUpper, keyword, isLetter] using ih

/-- A keyword without S and K is its ASCII letters in any case. -/
theorem exists_of_keyword_eq_some {word text rest : List Char} (plain : 'S' ∉ word ∧ 'K' ∉ word)
    (found : keyword word text = some rest) :
    ∃ front, text = front ++ rest ∧ asciiUpper front = word := by
  induction word generalizing text with
  | nil => exact ⟨[], by simpa [keyword] using found, rfl⟩
  | cons capital capitals ih =>
    cases text with
    | nil => simp [keyword] at found
    | cons c tail =>
      simp only [List.mem_cons, not_or] at plain
      simp only [keyword] at found
      split at found
      · next letter =>
        obtain ⟨front, rfl, upper⟩ := ih ⟨plain.1.2, plain.2.2⟩ found
        have same : c.toUpper = capital := by
          simpa [isLetter, Ne.symm plain.1.1, Ne.symm plain.2.1] using letter
        exact ⟨c :: front, rfl, by simp [asciiUpper, same, ← upper]⟩
      · simp at found

/-- A run is read up to the first character of another class. -/
theorem run_append {member : Char → Bool} {name : List Char} (nonempty : name ≠ [])
    (all : ∀ d ∈ name, member d = true) {c : Char} (apart : member c = false)
    (rest : List Char) : run member (name ++ c :: rest) = some (name, c :: rest) := by
  have taken : (name ++ c :: rest).takeWhile member = name := by
    rw [List.takeWhile_append_of_pos all]
    simp [apart]
  have dropped : (name ++ c :: rest).dropWhile member = c :: rest := by
    rw [List.dropWhile_append_of_pos all]
    simp [apart]
  obtain ⟨first, others, rfl⟩ := List.exists_cons_of_ne_nil nonempty
  simp only [run, taken, dropped]

theorem IsWord.toList_ne_nil {name : String} (isWord : IsWord name) : name.toList ≠ [] := by
  simpa using isWord.1

theorem IsWord.columnChar {name : String} (isWord : IsWord name) :
    ∀ c ∈ name.toList, ColumnLine.isNameChar c = true := by
  intro c member
  rcases isWord.2 c member with alphanumeric | rfl
  · simp [ColumnLine.isNameChar, alphanumeric]
  · rfl

theorem IsWord.nameChar {name : String} (isWord : IsWord name) :
    ∀ c ∈ name.toList, isNameChar c = true := by
  intro c member
  rcases isWord.2 c member with alphanumeric | rfl
  · simp [isNameChar, alphanumeric]
  · rfl

/-- A character that is neither a letter, a digit nor an underscore is in no word. -/
theorem IsWord.not_mem {name : String} (isWord : IsWord name) {c : Char}
    (other : ColumnLine.isNameChar c = false) : c ∉ name.toList := by
  intro member
  rw [isWord.columnChar c member] at other
  simp at other

namespace WrittenColumn

variable (written : WrittenColumn)

/-- What is written of a column behind the blanks of its line. -/
def content : List Char :=
  '\x60' :: (written.name.toList ++ '\x60' :: ' ' :: written.definition.toList)

theorem toList_line : written.line.toList = ' ' :: ' ' :: written.content := by
  simp [line, content]

theorem definition_ne_nil : written.definition.toList ≠ [] := by
  simpa using written.isGiven

theorem newline_not_mem_content : '\n' ∉ written.content := by
  simp [content, written.isWord.not_mem (c := '\n') rfl, written.isOnOneLine]

theorem semicolon_not_mem_content : ';' ∉ written.content := by
  simp [content, written.isWord.not_mem (c := ';') rfl, written.isInStatement]

/-- What is written of a column may end in a comma. -/
theorem trim_content {comma : List Char} (ends : comma = [] ∨ comma = [',']) :
    trim (written.content ++ comma) = written.content ++ comma := by
  have trimmed := (trim_eq_self_iff.1 written.isTrimmed).2
  refine trim_eq_self_iff.2 ⟨trimLeft_cons rfl _, ?_⟩
  rcases ends with rfl | rfl
  · rw [List.append_nil]
    have kept := trimRight_append written.definition_ne_nil trimmed
      ('\x60' :: (written.name.toList ++ ['\x60', ' ']))
    simpa [content] using kept
  · exact trimRight_concat rfl _

theorem dropComma_definition {comma : List Char} (ends : comma = [] ∨ comma = [',']) :
    ColumnLine.dropComma (written.definition.toList ++ comma) = written.definition.toList := by
  rcases ends with rfl | rfl
  · simp [ColumnLine.dropComma, written.isUncontinued]
  · have positive : 1 ≤ written.definition.toList.length :=
      List.length_pos_of_ne_nil written.definition_ne_nil
    rw [ColumnLine.dropComma, if_pos (by simpa using positive), List.dropLast_concat]

/-- The line of a column is read as the column, with a comma behind it or without one. -/
theorem parse_content {comma : List Char} (ends : comma = [] ∨ comma = [',']) :
    ColumnLine.parse (written.content ++ comma) = some written.column := by
  have trimmed := trim_eq_self_iff.1 written.isTrimmed
  obtain ⟨c, rest, shape⟩ := List.exists_cons_of_ne_nil written.definition_ne_nil
  have visible : isBlank c = false := by
    have first := trimmed.1
    rw [shape, trimLeft, List.dropWhile_cons] at first
    by_contra blank
    rw [Bool.not_eq_false] at blank
    rw [if_pos blank] at first
    have longer := (List.dropWhile_suffix isBlank (l := rest)).length_le
    rw [first, List.length_cons] at longer
    omega
  have ran : run ColumnLine.isNameChar (skipBacktick (written.content ++ comma)) =
      some (written.name.toList,
        '\x60' :: ' ' :: (written.definition.toList ++ comma)) := by
    have read := run_append written.isWord.toList_ne_nil written.isWord.columnChar
      (c := '\x60') rfl (' ' :: (written.definition.toList ++ comma))
    simpa [content, skipBacktick] using read
  have behind : blanks (skipBacktick ('\x60' :: ' ' :: (written.definition.toList ++ comma))) =
      some (written.definition.toList ++ comma) := by
    have kept : trimLeft (written.definition.toList ++ comma) =
        written.definition.toList ++ comma := by
      rw [shape]
      exact trimLeft_cons visible _
    exact congrArg some kept
  have oneLine : '\n' ∉ written.definition.toList ++ comma := by
    rcases ends with rfl | rfl <;> simp [written.isOnOneLine]
  simp only [ColumnLine.parse, written.trim_content ends, ran, Option.bind_some, behind,
    written.dropComma_definition ends, trimmed.2]
  simp [oneLine, written.isGiven, column]

/-- A column's line is no key and no constraint, since it starts with a backtick. -/
theorem kind_content {comma : List Char} (ends : comma = [] ∨ comma = [',']) :
    BodyLine.kind (written.content ++ comma) = .candidate := by
  rw [BodyLine.kind, written.trim_content ends]
  rfl

end WrittenColumn

/-- The lines of a text in front of a line feed and of the text behind it. -/
theorem texts_append_newline (left right : List Char) :
    BodyLine.texts (left ++ '\n' :: right) = BodyLine.texts left ++ BodyLine.texts right := by
  simp [BodyLine.texts, splitOn_append_separator]

/-- Blanks in front of a text make no lines and change none. -/
theorem texts_append_of_blank {blank : List Char} (isGap : isAllBlank blank = true)
    (text : List Char) : BodyLine.texts (blank ++ text) = BodyLine.texts text := by
  induction blank with
  | nil => rfl
  | cons c rest ih =>
    obtain ⟨first, others⟩ : isBlank c = true ∧ isAllBlank rest = true := by
      simpa [isAllBlank] using isGap
    rw [List.cons_append]
    refine Eq.trans ?_ (ih others)
    by_cases feed : c = '\n'
    · subst feed
      exact texts_append_newline [] (rest ++ text)
    · obtain ⟨piece, pieces, shape⟩ :=
        List.exists_cons_of_ne_nil (splitOn_ne_nil '\n' (rest ++ text))
      have same : trim (c :: piece) = trim piece := by
        rw [trim, trim, ← List.singleton_append, trimLeft_append_of_blank (by simpa [isAllBlank])]
      simp only [BodyLine.texts, splitOn, feed, if_false, shape, List.map_cons, same]

/-- A text on one line that is its own trim is a line. -/
theorem texts_of_trimmed {text : List Char} (nonempty : text ≠ []) (trimmed : trim text = text)
    (oneLine : '\n' ∉ text) : BodyLine.texts text = [text] := by
  simp [BodyLine.texts, splitOn_of_not_mem oneLine, trimmed, nonempty]

/-- A text is what is written of a column, with a comma behind it or without one. -/
def Writes (text : List Char) (written : WrittenColumn) : Prop :=
  ∃ comma, (comma = [] ∨ comma = [',']) ∧ text = written.content ++ comma

theorem texts_line (written : WrittenColumn) {comma : List Char}
    (ends : comma = [] ∨ comma = [',']) :
    BodyLine.texts (written.line.toList ++ comma) = [written.content ++ comma] := by
  have oneLine : '\n' ∉ written.content ++ comma := by
    rcases ends with rfl | rfl <;> simp [written.newline_not_mem_content]
  have gap : BodyLine.texts ([' ', ' '] ++ (written.content ++ comma)) =
      BodyLine.texts (written.content ++ comma) := texts_append_of_blank rfl _
  rw [written.toList_line]
  exact gap.trans
    (texts_of_trimmed (List.cons_ne_nil _ _) (written.trim_content ends) oneLine)

theorem toList_writtenBody (gap : String) (columns : List WrittenColumn) :
    (writtenBody gap columns).toList =
      gap.toList ++ ([',', '\n'].intercalate (columns.map (·.line.toList)) ++ ['\n']) := by
  simp [writtenBody, Function.comp_def]

/-- Each line of a body is that of a column, in order. -/
theorem forall₂_texts_writtenBody {gap : String} (isGap : isAllBlank gap.toList = true)
    (columns : List WrittenColumn) :
    List.Forall₂ Writes (BodyLine.texts (writtenBody gap columns).toList) columns := by
  rw [toList_writtenBody, texts_append_of_blank isGap]
  induction columns with
  | nil => exact .nil
  | cons first rest ih =>
    cases rest with
    | nil =>
      have line : BodyLine.texts (first.line.toList ++ []) = [first.content ++ []] :=
        texts_line first (.inl rfl)
      rw [List.append_nil] at line
      simp only [List.map_cons, List.map_nil, List.intercalate_singleton, texts_append_newline,
        line]
      exact .cons ⟨[], .inl rfl, rfl⟩ .nil
    | cons second others =>
      have line := texts_line first (.inr rfl)
      have shape : [',', '\n'].intercalate ((first :: second :: others).map (·.line.toList)) ++
          ['\n'] = (first.line.toList ++ [',']) ++ '\n' ::
            ([',', '\n'].intercalate ((second :: others).map (·.line.toList)) ++ ['\n']) := by
        simp [List.intercalate_cons_cons]
      rw [shape, texts_append_newline, line]
      exact .cons ⟨[','], .inr rfl, rfl⟩ ih

/-- Lines of columns are sorted into these columns, and no line is left out. -/
theorem ofLines_of_writes {texts : List (List Char)} {columns : List WrittenColumn}
    (writes : List.Forall₂ Writes texts columns) (start : Nat) :
    BodyContent.ofLines ((texts.zipIdx start).map fun (line, index) =>
      ⟨index, String.ofList line⟩) = ⟨columns.map (·.column), [], []⟩ := by
  induction writes generalizing start with
  | nil => rfl
  | @cons text written texts columns here later ih =>
    obtain ⟨comma, ends, rfl⟩ := here
    have insert (content : BodyContent) :
        BodyContent.insert ⟨start, String.ofList (written.content ++ comma)⟩ content =
          { content with columns := written.column :: content.columns } := by
      simp only [BodyContent.insert, String.toList_ofList, written.kind_content ends,
        written.parse_content ends]
    rw [List.zipIdx_cons, List.map_cons, BodyContent.ofLines_cons, ih (start + 1)]
    exact insert _

theorem ofBody_writtenBody {gap : String} (isGap : isAllBlank gap.toList = true)
    (columns : List WrittenColumn) :
    BodyContent.ofBody (writtenBody gap columns).toList = ⟨columns.map (·.column), [], []⟩ :=
  ofLines_of_writes (forall₂_texts_writtenBody isGap columns) 0

/-! ## Reading statements -/

/-- A word in capitals behind a space is read. -/
theorem spacedKeyword_append {word : String} {c : Char} {others : List Char}
    (shape : word.toList = c :: others) (visible : isBlank c = false)
    (capitals : asciiUpper word.toList = word.toList) (rest : List Char) :
    spacedKeyword word (' ' :: (word.toList ++ rest)) = some rest := by
  have kept : trimLeft (word.toList ++ rest) = word.toList ++ rest := by
    rw [shape]
    exact trimLeft_cons visible _
  have read : blanks (' ' :: (word.toList ++ rest)) = some (word.toList ++ rest) :=
    congrArg some kept
  rw [spacedKeyword, read, Option.bind_some, keyword_append capitals]

theorem opening_append (rest : List Char) :
    TableStatement.opening ("CREATE TABLE".toList ++ rest) = some rest := by
  have shape : "CREATE TABLE".toList ++ rest =
      "CREATE".toList ++ ' ' :: ("TABLE".toList ++ rest) := rfl
  rw [TableStatement.opening, shape, keyword_append (by decide), Option.bind_some,
    spacedKeyword_append rfl rfl (by decide)]

theorem ifNotExists_append (rest : List Char) :
    ifNotExists (" IF NOT EXISTS".toList ++ rest) = some rest := by
  have shape : " IF NOT EXISTS".toList ++ rest =
      ' ' :: ("IF".toList ++ ' ' :: ("NOT".toList ++ ' ' :: ("EXISTS".toList ++ rest))) := rfl
  rw [ifNotExists, shape, spacedKeyword_append rfl rfl (by decide), Option.bind_some,
    spacedKeyword_append rfl rfl (by decide), Option.bind_some,
    spacedKeyword_append rfl rfl (by decide)]

theorem ifNotExists_backtick (rest : List Char) :
    ifNotExists (" \x60".toList ++ rest) = none := rfl

/-- A letter is no blank. -/
theorem isBlank_eq_false_of_toUpper {c capital : Char} (letter : c.toUpper = capital)
    (isCapital : capital.isUpper = true) : isBlank c = false :=
  isBlank_eq_false_of_nameChar (isNameChar_of_toUpper letter isCapital)

/-- An engine clause is read behind the blanks in front of it. -/
theorem isSome_engineClause {text : List Char} :
    (TableStatement.engineClause text).isSome = true ↔ ∃ blank engine back,
      text = blank ++ (engine ++ back) ∧ isAllBlank blank = true ∧
        asciiUpper engine = "ENGINE".toList := by
  rw [TableStatement.engineClause, Option.isSome_iff_exists]
  constructor
  · rintro ⟨after, found⟩
    obtain ⟨engine, shape, upper⟩ := exists_of_keyword_eq_some (by decide) found
    obtain ⟨blank, isGap, whole⟩ := exists_blank_append_trimLeft text
    exact ⟨blank, engine, after, by rw [← shape, ← whole], isGap, upper⟩
  · rintro ⟨blank, engine, back, rfl, isGap, upper⟩
    obtain ⟨c, others, rfl⟩ : ∃ c others, engine = c :: others :=
      List.exists_cons_of_ne_nil fun empty => by simp [empty, asciiUpper] at upper
    have first : c.toUpper = 'E' := (List.cons_eq_cons.1 upper).1
    rw [trimLeft_append_of_blank isGap, List.cons_append,
      trimLeft_cons (isBlank_eq_false_of_toUpper first rfl)]
    exact ⟨back, keyword_append upper back⟩

theorem HasEngineClause.cons {text : List Char} (clause : HasEngineClause text) (c : Char) :
    HasEngineClause (c :: text) := by
  obtain ⟨front, blank, engine, back, rfl, isBlank, upper⟩ := clause
  exact ⟨c :: front, blank, engine, back, rfl, isBlank, upper⟩

/-- Whether a text has an engine clause behind a closing parenthesis. -/
def closesEngine : List Char → Bool
  | [] => false
  | c :: rest => (c == ')' && (TableStatement.engineClause rest).isSome) || closesEngine rest

theorem closesEngine_iff {text : List Char} :
    closesEngine text = true ↔ HasEngineClause text := by
  induction text with
  | nil => simp [closesEngine, HasEngineClause]
  | cons c rest ih =>
    rw [closesEngine, Bool.or_eq_true, Bool.and_eq_true, beq_iff_eq, isSome_engineClause, ih]
    constructor
    · rintro (⟨rfl, blank, engine, back, rfl, found⟩ | clause)
      · exact ⟨[], blank, engine, back, rfl, found⟩
      · exact clause.cons c
    · rintro ⟨front, blank, engine, back, shape, found⟩
      cases front with
      | nil =>
        obtain ⟨rfl, rfl⟩ := List.cons_eq_cons.1 shape
        exact .inl ⟨rfl, blank, engine, back, rfl, found⟩
      | cons d others =>
        obtain ⟨-, rfl⟩ := List.cons_eq_cons.1 shape
        exact .inr ⟨others, blank, engine, back, rfl, found⟩

instance : DecidablePred HasEngineClause := fun _ => decidable_of_iff _ closesEngine_iff

/-- An engine clause does not go over a closing parenthesis. -/
theorem engineClause_eq_none {rest : List Char} (isOpen : ¬ HasEngineClause (')' :: rest))
    (tail : List Char) : TableStatement.engineClause (rest ++ ')' :: tail) = none := by
  rw [Option.eq_none_iff_forall_ne_some]
  intro after found
  rw [TableStatement.engineClause, trimLeft_append_cons rfl] at found
  obtain ⟨engine, shape, upper⟩ := exists_of_keyword_eq_some (by decide) found
  obtain ⟨blank, isGap, whole⟩ := exists_blank_append_trimLeft rest
  rcases List.append_eq_append_iff.1 shape with ⟨more, front, behind⟩ | ⟨more, front, -⟩
  · cases more with
    | nil =>
      rw [List.append_nil] at front
      have clause : ')' :: rest = ')' :: (blank ++ (engine ++ [])) := by
        rw [List.append_nil, front, ← whole]
      exact isOpen ⟨[], blank, engine, [], clause, isGap, upper⟩
    | cons c others =>
      obtain ⟨rfl, -⟩ : ')' = c ∧ tail = others ++ after := by simpa using behind
      have member : ')' ∈ asciiUpper engine :=
        List.mem_map.2 ⟨')', by simp [front], rfl⟩
      rw [upper] at member
      exact absurd member (by decide)
  · exact isOpen ⟨[], blank, engine, more, by rw [← front, ← whole]; rfl, isGap, upper⟩

/-- A body is read up to the parenthesis in front of the first engine clause. -/
theorem readBody_append {body : List Char} (free : ';' ∉ body) (isOpen : ¬ HasEngineClause body)
    (after : List Char) :
    TableStatement.readBody (body ++ (") ENGINE".toList ++ after)) = some (body, after) := by
  induction body with
  | nil => rfl
  | cons c rest ih =>
    obtain ⟨here, later⟩ : ';' ≠ c ∧ ';' ∉ rest := by simpa using free
    have tail := ih later fun clause => isOpen (clause.cons c)
    have unclosed : (if c = ')' then
        TableStatement.engineClause (rest ++ (") ENGINE".toList ++ after)) else none) = none := by
      split
      · next closes =>
        rw [closes] at isOpen
        exact engineClause_eq_none isOpen _
      · rfl
    simp only [List.cons_append, TableStatement.readBody, Ne.symm here, if_false, unclosed, tail,
      Option.map_some]

namespace WrittenTable

variable (written : WrittenTable)

/-- The statement that is read. -/
def read : TableStatement :=
  ⟨written.name, written.body⟩

theorem toList_statement : written.statement.toList =
    "CREATE TABLE".toList ++ ((if written.isGuarded then " IF NOT EXISTS" else "").toList ++
      (" \x60".toList ++ (written.name.toList ++ ("\x60 (".toList ++ (written.body.toList ++
        ") ENGINE=InnoDB".toList))))) := by
  unfold statement
  simp only [String.toList_append, List.append_assoc]

/-- What is behind the engine clause of a statement. -/
theorem engine_suffix : "=InnoDB".toList <:+ written.statement.toList := by
  have engine : "=InnoDB".toList <:+ ") ENGINE=InnoDB".toList := by decide
  have clause : ") ENGINE=InnoDB".toList <:+ written.statement.toList := by
    rw [toList_statement]
    simp only [← List.append_assoc]
    exact List.suffix_append _ _
  exact engine.trans clause

theorem semicolon_not_mem_body : ';' ∉ written.body.toList := by
  have lines (columns : List WrittenColumn) :
      ';' ∉ [',', '\n'].intercalate (columns.map (·.line.toList)) := by
    induction columns with
    | nil => simp
    | cons first rest ih =>
      have own : ';' ∉ first.line.toList := by
        simp [first.toList_line, first.semicolon_not_mem_content]
      cases rest with
      | nil => simpa using own
      | cons second others =>
        simp only [List.map_cons, List.intercalate_cons_cons, List.mem_append, not_or] at ih ⊢
        exact ⟨⟨own, by decide⟩, ih⟩
  have gap : ';' ∉ written.gap.toList := fun member => by
    have blank := List.all_eq_true.1 written.isGap ';' member
    exact absurd blank (by decide)
  simp [body, toList_writtenBody, lines, gap]

theorem nameAndBody_written :
    TableStatement.nameAndBody (" \x60".toList ++ (written.name.toList ++ ("\x60 (".toList ++
      (written.body.toList ++ ") ENGINE=InnoDB".toList)))) =
        some (written.read, "=InnoDB".toList) := by
  have named : spacedName (" \x60".toList ++ (written.name.toList ++ ("\x60 (".toList ++
      (written.body.toList ++ ") ENGINE=InnoDB".toList)))) =
        some (written.name.toList,
          " (".toList ++ (written.body.toList ++ ") ENGINE=InnoDB".toList)) := by
    have ran := run_append written.isWord.toList_ne_nil written.isWord.nameChar
      (c := '\x60') rfl (" (".toList ++ (written.body.toList ++ ") ENGINE=InnoDB".toList))
    exact congrArg (Option.map _) ran
  have inside : TableStatement.parenthesizedBody
      (" (".toList ++ (written.body.toList ++ ") ENGINE=InnoDB".toList)) =
        some (written.body.toList, "=InnoDB".toList) :=
    readBody_append written.semicolon_not_mem_body written.isOpen "=InnoDB".toList
  simp only [TableStatement.nameAndBody, named, Option.bind_some, inside, Option.map_some,
    String.ofList_toList, read]

/-- A statement is read as it was written, with `IF NOT EXISTS` or without. -/
theorem read_statement :
    TableStatement.read written.statement.toList = some (written.read, "=InnoDB".toList) := by
  have named := written.nameAndBody_written
  simp only [TableStatement.read, toList_statement, opening_append, Option.bind_some]
  cases written.isGuarded with
  | true => simp only [if_true, ifNotExists_append, Option.bind_some, named, Option.some_or]
  | false =>
    simp only [Bool.false_eq_true, if_false, String.toList_empty, List.nil_append,
      ifNotExists_backtick, Option.bind_none, named, Option.none_or]

/-- A statement holds its table, and nothing of it is left out. -/
theorem table_read : written.read.table = written.table ∧
    written.read.droppedLines = [] ∧ written.read.constraintCount = 0 := by
  have content := ofBody_writtenBody written.isGap written.columns
  simp [read, TableStatement.table, TableStatement.droppedLines, TableStatement.constraintCount,
    body, content, table]

end WrittenTable

/-- Nothing is read in a quiet text, also in front of a statement. -/
theorem read_quiet_eq_none {text : String} (quiet : IsQuiet text) {right : List Char}
    (starts : right = [] ∨ ∃ rest, right = 'C' :: rest) {front : List Char} {c : Char}
    {back : List Char} (shape : text.toList = front ++ c :: back) :
    TableStatement.read (c :: (back ++ right)) = none := by
  rw [Option.eq_none_iff_forall_ne_some]
  rintro ⟨statement, after⟩ found
  obtain ⟨behind, opened, -⟩ := Option.bind_eq_some_iff.1 found
  obtain ⟨rest, created, -⟩ := Option.bind_eq_some_iff.1 opened
  obtain ⟨word, whole, upper⟩ := exists_of_keyword_eq_some (by decide) created
  rw [← List.cons_append] at whole
  rcases List.append_eq_append_iff.1 whole with ⟨more, spanning, tail⟩ | ⟨more, inside, -⟩
  · -- The word goes on in the text behind, which starts with its first letter.
    have within : more = [] := by
      rcases starts with rfl | ⟨others, rfl⟩
      · exact (List.append_eq_nil_iff.1 tail.symm).1
      · cases more with
        | nil => rfl
        | cons d further =>
          obtain ⟨rfl, -⟩ : 'C' = d ∧ others = further ++ rest := by simpa using tail
          have second : 'C' ∈ (asciiUpper word).tail := by
            rw [spanning, asciiUpper_append]
            exact List.mem_append_right (asciiUpper back) (List.mem_cons_self ..)
          rw [upper] at second
          exact absurd second (by decide)
    rw [within, List.append_nil] at spanning
    refine quiet ?_
    rw [← upper, shape, ← spanning, asciiUpper_append]
    exact List.infix_append_right
  · refine quiet ?_
    rw [← upper, shape, inside, asciiUpper_append, asciiUpper_append]
    exact List.infix_append_of_infix_right List.infix_append_left

theorem all_statement (written : WrittenTable) {lead : String} (quiet : IsQuiet lead) :
    TableStatement.all (lead.toList ++ written.statement.toList) = [written.read] := by
  obtain ⟨rest, starts⟩ : ∃ rest, written.statement.toList = 'C' :: rest := by
    rw [written.toList_statement]
    exact ⟨_, rfl⟩
  have suffix := written.engine_suffix
  have read := written.read_statement
  have tail : scan TableStatement.read "=InnoDB".toList = [] := by decide
  rw [starts] at read suffix
  have ends : "=InnoDB".toList <:+ rest :=
    (List.suffix_cons_iff.1 suffix).resolve_left (by simp)
  rw [TableStatement.all, starts, scan_append_of_none fun front c back shape =>
    read_quiet_eq_none quiet (.inr ⟨rest, rfl⟩) shape, scan_of_some read,
    ← List.suffix_iff_eq_drop.1 ends, tail]

/-- The statements of a script are those that were written. -/
theorem all_script (lead : String) (parts : List (WrittenTable × String))
    (leadQuiet : IsQuiet lead) (quiet : ∀ part ∈ parts, IsQuiet part.2) :
    TableStatement.all (script lead parts).toList = parts.map (·.1.read) := by
  induction parts generalizing lead with
  | nil =>
    have passed : TableStatement.all (lead.toList ++ []) = [] :=
      scan_append_of_none fun front c back shape => read_quiet_eq_none leadQuiet (.inl rfl) shape
    rwa [List.append_nil] at passed
  | cons part rest ih =>
    obtain ⟨written, next⟩ := part
    obtain ⟨nextQuiet, restQuiet⟩ := List.forall_mem_cons.1 quiet
    have text : (script lead ((written, next) :: rest)).toList =
        (lead.toList ++ written.statement.toList) ++ ';' :: (script next rest).toList := by
      simp [script]
    rw [text, TableStatement.all_append_semicolon, all_statement written leadQuiet,
      ih next nextQuiet restQuiet]
    rfl

/-- Reading a script gives exactly its tables, in order and with their columns. No declaration
is repeated and no line is left out. -/
theorem parse_script (lead : String) (parts : List (WrittenTable × String))
    (distinct : (parts.map (·.1.name)).Nodup) (leadQuiet : IsQuiet lead)
    (quiet : ∀ part ∈ parts, IsQuiet part.2) :
    (parse (script lead parts)).tables = parts.map (·.1.table) ∧
      (parseWithReport (script lead parts)).report.duplicateTables = [] ∧
      (parseWithReport (script lead parts)).report.droppedLines = [] ∧
      (parseWithReport (script lead parts)).report.constraintLines = 0 := by
  have statements := all_script lead parts leadQuiet quiet
  have kept : firstDeclarations [] (parts.map (·.1.read)) = (parts.map (·.1.read), []) :=
    firstDeclarations_of_nodup (by simpa [WrittenTable.read, Function.comp_def] using distinct)
      (by simp)
  simp only [parse, parseWithReport, statements, kept]
  refine ⟨?_, trivial, ?_, ?_⟩
  · simp [WrittenTable.table_read]
  · refine List.flatMap_eq_nil_iff.2 fun statement member => ?_
    obtain ⟨part, -, rfl⟩ := List.mem_map.1 member
    exact part.1.table_read.2.1
  · clear statements kept distinct quiet
    induction parts with
    | nil => rfl
    | cons part rest ih => simp [WrittenTable.table_read, ih]

/-- A table with a comma, parentheses and a key word in its definitions. -/
def writtenUsers : WrittenTable where
  name := "users"
  isGuarded := false
  gap := "\n"
  columns := [
    { name := "id", definition := "INT(11) PRIMARY KEY", isWord := by decide
      isGiven := by decide, isTrimmed := by decide, isOnOneLine := by decide
      isInStatement := by decide, isUncontinued := by decide },
    { name := "kind", definition := "ENUM('a,b', 'KEY (')", isWord := by decide
      isGiven := by decide, isTrimmed := by decide, isOnOneLine := by decide
      isInStatement := by decide, isUncontinued := by decide }]
  isWord := by decide
  isGap := by decide
  isOpen := by decide

/-- A table without columns. -/
def writtenLog : WrittenTable where
  name := "log_2"
  isGuarded := true
  gap := ""
  columns := []
  isWord := by decide
  isGap := by decide
  isOpen := by decide

/-- Both tables, each with another statement or a line feed behind it. -/
def shopParts : List (WrittenTable × String) :=
  [(writtenUsers, "\nDROP TABLE old;"), (writtenLog, "\n")]

/-- Both tables are read, and nothing else is. -/
theorem parse_script_shop : (parse (script "USE shop;\n" shopParts)).tables =
      [writtenUsers.table, writtenLog.table] ∧
    (parseWithReport (script "USE shop;\n" shopParts)).report.duplicateTables = [] ∧
    (parseWithReport (script "USE shop;\n" shopParts)).report.droppedLines = [] ∧
    (parseWithReport (script "USE shop;\n" shopParts)).report.constraintLines = 0 :=
  parse_script "USE shop;\n" shopParts (by decide) (by decide) (by decide)

end Sql
end SchemaScaffold
