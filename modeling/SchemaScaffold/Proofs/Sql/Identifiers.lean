import SchemaScaffold.Proofs.Sql.ParsedNames
import SchemaScaffold.Proofs.Sql.Reports
import SchemaScaffold.Proofs.Text.Scanning

/-!
# The alphabet of names

The names of columns are words of ASCII letters, digits and underscores. The names of tables and
databases are read in any case of their letters, and two characters outside ASCII come to an ASCII
letter in another case: the long s and the Kelvin sign. They belong to the alphabet of these names.
-/

namespace SchemaScaffold
namespace Sql

open Text

/-- Names of the characters that come to ASCII letters in some case, of digits and of
underscores. -/
def IsFoldedWord (name : String) : Prop :=
  name ≠ "" ∧ IsNameText name.toList

instance (name : String) : Decidable (IsFoldedWord name) :=
  inferInstanceAs (Decidable (_ ∧ _))

/-- A character that is in the alphabet only because case does not count. -/
def IsFoldedLetter (c : Char) : Prop :=
  c = '\u017F' ∨ c = '\u212A'

instance (c : Char) : Decidable (IsFoldedLetter c) :=
  inferInstanceAs (Decidable (_ ∨ _))

/-- Folded letters are no characters of words, and the other characters of names are. -/
theorem isFoldedLetter_iff {c : Char} (named : isNameChar c = true) :
    IsFoldedLetter c ↔ ¬ (c.isAlphanum = true ∨ c = '_') := by
  constructor
  · rintro (rfl | rfl) <;> decide
  · intro outside
    simp only [isNameChar, Bool.or_eq_true, beq_iff_eq] at named
    unfold IsFoldedLetter
    tauto

/-- A name is a word unless a folded letter is in it. -/
theorem IsFoldedWord.isWord_iff {name : String} (folded : IsFoldedWord name) :
    IsWord name ↔ ∀ c ∈ name.toList, ¬ IsFoldedLetter c := by
  obtain ⟨nonempty, named⟩ := folded
  rw [IsWord, and_iff_right nonempty]
  exact forall₂_congr fun c member => by rw [isFoldedLetter_iff (named c member), not_not]

theorem Skips.isSuffix {text rest : List Char} (skips : Skips text rest) : rest <:+ text := by
  obtain ⟨front, rfl, -⟩ := skips
  exact List.suffix_append front rest

theorem isSuffix_of_keyword {word text rest : List Char} (found : keyword word text = some rest) :
    rest <:+ text := by
  induction word generalizing text with
  | nil =>
    obtain rfl : text = rest := by simpa [keyword] using found
    exact List.suffix_rfl
  | cons capital capitals ih =>
    cases text with
    | nil => simp [keyword] at found
    | cons c tail =>
      simp only [keyword] at found
      split at found
      · exact (ih found).trans (List.suffix_cons c tail)
      · simp at found

theorem isSuffix_of_spacedKeyword {word : String} {text rest : List Char}
    (found : spacedKeyword word text = some rest) : rest <:+ text := by
  obtain ⟨middle, gap, read⟩ := Option.bind_eq_some_iff.1 found
  exact (isSuffix_of_keyword read).trans (skips_blanks gap).isSuffix

/-- A name stands in the text from which it is read. -/
theorem of_quotedName {text name after : List Char}
    (found : quotedName text = some (name, after)) :
    name ≠ [] ∧ IsNameText name ∧ name <:+: text := by
  obtain ⟨⟨word, rest⟩, ran, shape⟩ := Option.map_eq_some_iff.1 found
  obtain ⟨rfl, -⟩ : word = name ∧ skipBacktick rest = after := by simpa using shape
  obtain ⟨nonempty, whole, named⟩ := run_eq_some ran
  have start : word <:+: skipBacktick text := ⟨[], rest, by simpa using whole.symm⟩
  exact ⟨nonempty, named, start.trans (skips_skipBacktick text).isSuffix.isInfix⟩

/-- Whatever a reader gives has a name that stands in the text. -/
def ReadsNames {α : Type} (read : Matcher α) (name : α → String) : Prop :=
  ∀ text value after, read text = some (value, after) →
    IsFoldedWord (name value) ∧ (name value).toList <:+: text

theorem ReadsNames.of_mem_scan {α : Type} {read : Matcher α} {name : α → String}
    (reads : ReadsNames read name) {text : List Char} {value : α}
    (member : value ∈ scan read text) :
    IsFoldedWord (name value) ∧ (name value).toList <:+: text := by
  rw [← map_findings] at member
  obtain ⟨⟨_, place⟩, found, rfl⟩ := List.mem_map.1 member
  obtain ⟨within, after, given⟩ := mem_findings found
  obtain ⟨folded, inside⟩ := reads place _ after given
  exact ⟨folded, inside.trans within.isInfix⟩

theorem readsNames_readName : ReadsNames TableStatement.readName id := by
  intro text name after found
  obtain ⟨first, rest, behind, rfl, skips, nonempty, named, -, -⟩ :=
    TableStatement.exists_of_readName_eq_some found
  have inside : name.toList <:+: name.toList ++ behind := ⟨[], behind, rfl⟩
  exact ⟨⟨by simpa using nonempty, named⟩,
    inside.trans (skips.isSuffix.trans (List.suffix_cons first rest)).isInfix⟩

theorem readsNames_read : ReadsNames TableStatement.read (·.name) := by
  intro text statement after found
  obtain ⟨behind, named, -⟩ := TableStatement.exists_readName_of_read found
  exact readsNames_readName text statement.name behind named

namespace DatabaseStatement

theorem isSuffix_of_guardClause {text rest : List Char} (found : guardClause text = some rest) :
    rest <:+ text := by
  obtain ⟨second, early, late⟩ := Option.bind_eq_some_iff.1 found
  obtain ⟨first, readIf, readNot⟩ := Option.bind_eq_some_iff.1 early
  obtain ⟨third, readExists, gap⟩ := Option.bind_eq_some_iff.1 late
  exact (skips_blanks gap).isSuffix.trans ((isSuffix_of_spacedKeyword readExists).trans
    ((isSuffix_of_spacedKeyword readNot).trans (isSuffix_of_keyword readIf)))

theorem readsNames_readCreate : ReadsNames readCreate id := by
  intro text name after found
  obtain ⟨middle, opened, rest⟩ := Option.bind_eq_some_iff.1 found
  obtain ⟨word, create, database⟩ := Option.bind_eq_some_iff.1 opened
  obtain ⟨start, gap, named⟩ := Option.bind_eq_some_iff.1 rest
  obtain ⟨⟨own, last⟩, chosen, shape⟩ := Option.map_eq_some_iff.1 named
  obtain ⟨rfl, -⟩ : String.ofList own = name ∧ last = after := by simpa using shape
  have within : start <:+ text := (skips_blanks gap).isSuffix.trans
    ((isSuffix_of_spacedKeyword database).trans (isSuffix_of_keyword create))
  have quoted : ∃ place, place <:+ start ∧ quotedName place = some (own, last) := by
    rcases Option.or_eq_some_iff.1 chosen with guarded | ⟨-, plain⟩
    · obtain ⟨place, read, quoted⟩ := Option.bind_eq_some_iff.1 guarded
      exact ⟨place, isSuffix_of_guardClause read, quoted⟩
    · exact ⟨start, List.suffix_rfl, plain⟩
  obtain ⟨place, behind, read⟩ := quoted
  obtain ⟨nonempty, isName, inside⟩ := of_quotedName read
  exact ⟨⟨by simpa using nonempty, by simpa using isName⟩,
    by simpa using inside.trans (behind.trans within).isInfix⟩

theorem readsNames_readUse : ReadsNames readUse id := by
  intro text name after found
  obtain ⟨⟨own, last⟩, spaced, shape⟩ := Option.map_eq_some_iff.1 found
  obtain ⟨rfl, -⟩ : String.ofList own = name ∧ last = after := by simpa using shape
  obtain ⟨middle, use, named⟩ := Option.bind_eq_some_iff.1 spaced
  obtain ⟨start, gap, quoted⟩ := Option.bind_eq_some_iff.1 named
  obtain ⟨nonempty, isName, inside⟩ := of_quotedName quoted
  have within : start <:+ text := (skips_blanks gap).isSuffix.trans (isSuffix_of_keyword use)
  exact ⟨⟨by simpa using nonempty, by simpa using isName⟩,
    by simpa using inside.trans within.isInfix⟩

/-- In front of what follows a text is its last character, or what is in front of the text. -/
theorem getLast?_cons_or (c : Char) (lead : List Char) (before : Option Char) :
    (c :: lead).getLast?.or before = lead.getLast?.or (some c) := by
  rw [List.getLast?_cons]
  cases lead.getLast? <;> rfl

/-- What is found is read at a place that stands alone. -/
theorem exists_of_firstUse {before : Option Char} {text : List Char} {name : String}
    (found : firstUse before text = some name) :
    ∃ lead place after, lead ++ place = text ∧
      (lead.getLast?.or before).any isWordChar = false ∧ readUse place = some (name, after) := by
  induction text generalizing before with
  | nil => simp [firstUse] at found
  | cons c rest ih =>
    simp only [firstUse] at found
    split at found
    · next own after chosen =>
      obtain rfl := Option.some.inj found
      split at chosen
      · simp at chosen
      · next alone => exact ⟨[], c :: rest, after, rfl, by simpa using alone, chosen⟩
    · obtain ⟨lead, place, after, rfl, alone, read⟩ := ih found
      exact ⟨c :: lead, place, after, rfl, by rwa [getLast?_cons_or], read⟩

theorem of_name? {text : List Char} {name : String} (found : name? text = some name) :
    IsFoldedWord name ∧ name.toList <:+: text := by
  rcases Option.or_eq_some_iff.1 found with created | ⟨-, used⟩
  · rw [firstMatch_eq_head?] at created
    exact readsNames_readCreate.of_mem_scan (List.mem_of_mem_head? created)
  · obtain ⟨lead, place, after, rfl, -, given⟩ := exists_of_firstUse used
    obtain ⟨folded, inside⟩ := readsNames_readUse place name after given
    exact ⟨folded, inside.trans (List.suffix_append lead place).isInfix⟩

end DatabaseStatement

/-- The names that are read off a text: those of its statements, those that it creates, and that of
its database. -/
def namesIn (text : List Char) : List String :=
  (TableStatement.all text).map (·.name) ++ TableStatement.names text ++
    (DatabaseStatement.name? text).toList

/-- Every name of a text is a piece of it. -/
theorem of_mem_namesIn {text : List Char} {name : String} (member : name ∈ namesIn text) :
    IsFoldedWord name ∧ name.toList <:+: text := by
  simp only [namesIn, List.mem_append, Option.mem_toList] at member
  rcases member with (ofStatement | created) | ofDatabase
  · obtain ⟨statement, found, rfl⟩ := List.mem_map.1 ofStatement
    exact readsNames_read.of_mem_scan found
  · rw [TableStatement.names, firstOccurrences_eq_eraseDups, List.mem_eraseDups,
      List.removeAll_nil] at created
    exact readsNames_readName.of_mem_scan created
  · exact DatabaseStatement.of_name? ofDatabase

section Written

/-- What is read at the start of a text is what a scan finds first. -/
theorem head?_scan_of_read {α : Type} {read : Matcher α} {text after : List Char} {value : α}
    (silent : read [] = none) (found : read text = some (value, after)) :
    (scan read text).head? = some value := by
  cases text with
  | nil => simp [silent] at found
  | cons c rest => rw [scan_of_some found, List.head?_cons]

variable {name : String}

/-- A name between backticks is read behind a blank. -/
theorem spacedName_quoted (folded : IsFoldedWord name) (rest : List Char) :
    spacedName (' ' :: '\x60' :: (name.toList ++ '\x60' :: rest)) = some (name.toList, rest) := by
  have ran := run_append (by simpa using folded.1) folded.2 (c := '\x60') rfl rest
  exact congrArg (Option.map _) ran

/-- What stands behind the name of a table without columns. -/
def emptyBody : List Char := [' ', '(', ')', 'E', 'N', 'G', 'I', 'N', 'E']

/-- A statement for a table without columns. -/
def emptyStatement (name : String) : List Char :=
  "CREATE TABLE".toList ++ ' ' :: '\x60' :: (name.toList ++ '\x60' :: emptyBody)

theorem read_emptyStatement (folded : IsFoldedWord name) :
    TableStatement.read (emptyStatement name) = some (⟨name, ""⟩, []) := by
  have opened : TableStatement.opening (emptyStatement name) =
      some (' ' :: '\x60' :: (name.toList ++ '\x60' :: emptyBody)) := opening_append _
  have unguarded (rest : List Char) : ifNotExists (' ' :: '\x60' :: rest) = none := rfl
  have body : TableStatement.parenthesizedBody emptyBody = some ([], []) := by decide
  rw [TableStatement.read, opened, Option.bind_some, unguarded, Option.bind_none, Option.none_or]
  simp only [TableStatement.nameAndBody, spacedName_quoted folded, Option.bind_some, body,
    Option.map_some, String.ofList_toList, String.ofList_nil]

/-- A statement that creates a database. -/
def databaseStatement (name : String) : List Char :=
  "CREATE".toList ++ ' ' :: ("DATABASE".toList ++ ' ' :: '\x60' :: (name.toList ++ ['\x60']))

theorem readCreate_databaseStatement (folded : IsFoldedWord name) :
    DatabaseStatement.readCreate (databaseStatement name) = some (name, []) := by
  have gap (rest : List Char) : blanks (' ' :: '\x60' :: rest) = some ('\x60' :: rest) := rfl
  have unguarded (rest : List Char) : DatabaseStatement.guardClause ('\x60' :: rest) = none := rfl
  have quoted : quotedName ('\x60' :: (name.toList ++ ['\x60'])) = some (name.toList, []) :=
    spacedName_quoted folded []
  have created : keyword "CREATE".toList (databaseStatement name) =
      some (' ' :: ("DATABASE".toList ++ ' ' :: '\x60' :: (name.toList ++ ['\x60']))) :=
    keyword_append (by decide) _
  have opened (rest : List Char) :
      spacedKeyword "DATABASE" (' ' :: ("DATABASE".toList ++ rest)) = some rest :=
    spacedKeyword_append rfl rfl (by decide) rest
  rw [DatabaseStatement.readCreate, created, Option.bind_some, opened]
  simp only [Option.bind_some, gap, unguarded, Option.bind_none, Option.none_or, quoted,
    Option.map_some, String.ofList_toList]

end Written

/-- The names that are read off a text are pieces of the text, not empty, over the letters, digits
and underscores of ASCII and the two characters that fold to letters; such a name is a word exactly
if neither of the two is in it. All these names occur, as names of tables and of databases alike.
The names of columns are words. -/
theorem names_are_folded_words (text body : List Char) :
    (∀ name ∈ namesIn text, IsFoldedWord name ∧ name.toList <:+: text ∧
      (IsWord name ↔ ∀ c ∈ name.toList, ¬ IsFoldedLetter c)) ∧
    (∀ name, IsFoldedWord name →
      (∃ script, name ∈ (TableStatement.all script).map (·.name) ∧
        name ∈ TableStatement.names script) ∧
        ∃ script, DatabaseStatement.name? script = some name) ∧
    ∀ column ∈ (BodyContent.ofBody body).columns, IsWord column.name := by
  refine ⟨fun name member => ?_, fun name folded => ⟨⟨emptyStatement name, ?_, ?_⟩,
    databaseStatement name, ?_⟩, fun column member => ?_⟩
  · obtain ⟨folded, inside⟩ := of_mem_namesIn member
    exact ⟨folded, inside, folded.isWord_iff⟩
  · have found := read_emptyStatement folded
    rw [TableStatement.all, List.mem_map]
    exact ⟨_, List.mem_of_head? (head?_scan_of_read rfl found), rfl⟩
  · obtain ⟨behind, created, -⟩ :=
      TableStatement.exists_readName_of_read (read_emptyStatement folded)
    rw [TableStatement.names, firstOccurrences_eq_eraseDups, List.mem_eraseDups,
      List.removeAll_nil]
    exact List.mem_of_head? (head?_scan_of_read rfl created)
  · rw [DatabaseStatement.name?, firstMatch_eq_head?,
      head?_scan_of_read rfl (readCreate_databaseStatement folded),
      Option.some_or]
  · obtain ⟨line, -, read⟩ := exists_line_of_mem_columns member
    obtain ⟨nonempty, named⟩ := ColumnLine.name_of_parse read
    exact ⟨nonempty, fun c inside => by simpa [ColumnLine.isNameChar] using named c inside⟩

/-- The Kelvin sign begins the name of a table. -/
theorem kelvin_name_is_no_word :
    "\u212Aey" ∈ namesIn "CREATE TABLE \u212Aey (id INT) ENGINE=InnoDB;".toList ∧
      ¬ IsWord "\u212Aey" := by
  decide

end Sql
end SchemaScaffold
