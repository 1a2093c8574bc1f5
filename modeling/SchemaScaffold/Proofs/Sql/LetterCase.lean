import SchemaScaffold.Proofs.Sql.Respelling
import SchemaScaffold.Schema.FieldType
import SchemaScaffold.Sql.Parse

/-!
# Case of letters

Texts that differ only in the case of their ASCII letters are read the same way: statement by
statement and line by line the same is found, up to the case of its letters.
-/

namespace SchemaScaffold
namespace Text

/-- The letters with a capital of their own. -/
def smallLetters : List Char := "abcdefghijklmnopqrstuvwxyz".toList

theorem toUpper_cases (c : Char) : c ∈ smallLetters ∨ c.toUpper = c := by
  by_cases small : 'a'.val ≤ c.val ∧ c.val ≤ 'z'.val
  · have letters : ∀ code < 123, 97 ≤ code → Char.ofNat code ∈ smallLetters := by decide
    have bounds : 97 ≤ c.toNat ∧ c.toNat ≤ 122 := by
      simpa [UInt32.le_iff_toNat_le] using small
    rw [← Char.ofNat_toNat c]
    exact .inl (letters c.toNat (by omega) bounds.1)
  · exact .inr (dif_neg small)

/-- What tells no letter from its capital tells no character from its capital. -/
theorem apply_toUpper {α : Type} [DecidableEq α] {f : Char → α}
    (letters : smallLetters.all (fun c => f c.toUpper = f c) = true) (c : Char) :
    f c.toUpper = f c := by
  rcases toUpper_cases c with small | same
  · simpa using List.all_eq_true.1 letters c small
  · rw [same]

@[simp] theorem toUpper_toUpper (c : Char) : c.toUpper.toUpper = c.toUpper :=
  apply_toUpper (by decide) c

/-- A character that is no letter is no capital and has none. -/
theorem toUpper_eq_iff {mark : Char}
    (letters : smallLetters.all (fun c => (c.toUpper == mark) = (c == mark)) = true) (c : Char) :
    c.toUpper = mark ↔ c = mark := by
  simpa using apply_toUpper (f := (· == mark)) letters c

@[simp] theorem asciiUpper_asciiUpper (text : List Char) :
    asciiUpper (asciiUpper text) = asciiUpper text := by
  simp [asciiUpper]

theorem isBlank_toUpper (c : Char) : isBlank c.toUpper = isBlank c :=
  apply_toUpper (by decide) c

/-- The spelling in capitals. -/
def capitals : Respelling where
  first := Char.toUpper
  more _ := []
  isBlank_first := isBlank_toUpper
  isAllBlank_more _ := rfl
  more_of_visible _ _ := rfl

theorem apply_capitals (text : List Char) : capitals.apply text = asciiUpper text := by
  induction text with
  | nil => rfl
  | cons c rest ih =>
    rw [Respelling.apply_cons, ih]
    rfl

theorem splitOn_asciiUpper (text : List Char) :
    splitOn '\n' (asciiUpper text) = (splitOn '\n' text).map asciiUpper := by
  induction text with
  | nil => rfl
  | cons c rest ih =>
    have same : c.toUpper = '\n' ↔ c = '\n' := toUpper_eq_iff (by decide) c
    have image : asciiUpper (c :: rest) = c.toUpper :: asciiUpper rest := rfl
    rw [image, splitOn, splitOn, ih]
    by_cases feed : c = '\n'
    · rw [if_pos (same.2 feed), if_pos feed]
      rfl
    · rw [if_neg (mt same.1 feed), if_neg feed]
      cases splitOn '\n' rest <;> rfl

theorem trimRight_asciiUpper (text : List Char) :
    trimRight (asciiUpper text) = asciiUpper (trimRight text) := by
  have dropped := capitals.trimLeft_apply text.reverse
  rw [apply_capitals, apply_capitals, trimLeft, trimLeft] at dropped
  rw [trimRight, trimRight, asciiUpper, ← List.map_reverse, ← asciiUpper, dropped, asciiUpper,
    asciiUpper, List.map_reverse]

theorem trim_asciiUpper (text : List Char) : trim (asciiUpper text) = asciiUpper (trim text) := by
  have left := capitals.trimLeft_apply text
  rw [apply_capitals, apply_capitals] at left
  rw [trim, trim, left, trimRight_asciiUpper]

end Text

namespace Sql

open Text

theorem isNeutral_capitals : IsNeutral capitals where
  letter capital c _ := by
    have longS := apply_toUpper (f := (· == '\u017F')) (by decide) c
    have kelvin := apply_toUpper (f := (· == '\u212A')) (by decide) c
    simp only [isLetter, capitals, toUpper_toUpper, longS, kelvin]
  nameChar := apply_toUpper (by decide)
  wordChar := apply_toUpper (by decide)
  mark := by
    simp only [List.forall_mem_cons]
    exact ⟨toUpper_eq_iff (by decide), toUpper_eq_iff (by decide), toUpper_eq_iff (by decide),
      toUpper_eq_iff (by decide), by simp⟩

/-- Two texts are equal up to the case of their ASCII letters. -/
def SameLetters (first second : String) : Prop :=
  asciiUpper first.toList = asciiUpper second.toList

instance (first second : String) : Decidable (SameLetters first second) :=
  inferInstanceAs (Decidable (asciiUpper first.toList = asciiUpper second.toList))

/-- Two columns say the same, but for the case of the letters. -/
structure Column.SameLetters (first second : Column) : Prop where
  name : Sql.SameLetters first.name second.name
  definition : Sql.SameLetters first.definition second.definition
  isAutoIncrement : first.isAutoIncrement = second.isAutoIncrement
  isNullable : first.isNullable = second.isNullable
  hasDefault : first.hasDefault = second.hasDefault
  hasTimestampDefault : first.hasTimestampDefault = second.hasTimestampDefault
  type : FieldType.ofDefinition first.definition = FieldType.ofDefinition second.definition

/-- Two lines are equal up to case, stand at the same place and are used the same way. -/
structure BodyLine.SameLetters (first second : BodyLine) : Prop where
  index : first.index = second.index
  text : Sql.SameLetters first.text second.text
  kind : kind first.text.toList = BodyLine.kind second.text.toList
  column : Option.Rel Column.SameLetters (ColumnLine.parse first.text.toList)
    (ColumnLine.parse second.text.toList)

/-- Two bodies have lines of each sort in equal number, and these are equal up to case. -/
structure BodyContent.SameLetters (first second : BodyContent) : Prop where
  columns : List.Forall₂ Column.SameLetters first.columns second.columns
  constraintLines : List.Forall₂ BodyLine.SameLetters first.constraintLines second.constraintLines
  unmatchedLines : List.Forall₂ BodyLine.SameLetters first.unmatchedLines second.unmatchedLines

/-- Two statements are equal up to case, and their lines are used the same way. -/
structure TableStatement.SameLetters (first second : TableStatement) : Prop where
  name : Sql.SameLetters first.name second.name
  body : Sql.SameLetters first.body second.body
  lines : List.Forall₂ BodyLine.SameLetters (BodyLine.ofBody first.body.toList)
    (BodyLine.ofBody second.body.toList)
  content : BodyContent.SameLetters (.ofBody first.body.toList) (.ofBody second.body.toList)

/-- What is the same up to a change is related wherever the change makes things the same. -/
theorem forall₂_of_map_eq {α β : Type} {change : α → β} {first second : List α}
    (same : first.map change = second.map change) :
    List.Forall₂ (fun a b => change a = change b) first second := by
  rw [← List.forall₂_map_left_iff (R := fun b a => b = change a),
    ← List.forall₂_map_right_iff (R := Eq), same]
  exact List.forall₂_refl _

theorem mentions_of_sameLetters {first second : String} (same : SameLetters first second)
    (marker : String) : Column.mentions marker first = Column.mentions marker second := by
  rw [Column.mentions, Column.mentions, same]

/-- Columns of the same letters say the same if their flags are those of their definitions. -/
theorem sameLetters_ofDefinition {name other definition further : String}
    (names : SameLetters name other) (definitions : SameLetters definition further) :
    Column.SameLetters (.ofDefinition name definition) (.ofDefinition other further) := by
  have mentions := mentions_of_sameLetters definitions
  refine ⟨names, definitions, mentions _, congrArg (!·) (mentions _), mentions _, ?_, ?_⟩
  · simp only [Column.hasTimestampDefault, Column.ofDefinition, mentions]
  · simp only [FieldType.ofDefinition, TypeRule.ofDefinition, Column.ofDefinition_definition,
      show asciiUpper definition.toList = asciiUpper further.toList from definitions]

namespace ColumnLine

theorem dropComma_asciiUpper (text : List Char) :
    dropComma (asciiUpper text) = asciiUpper (dropComma text) := by
  have last : (asciiUpper text).getLast? = some ',' ↔ text.getLast? = some ',' := by
    rw [asciiUpper, List.getLast?_map, Option.map_eq_some_iff]
    constructor
    · rintro ⟨c, isLast, upper⟩
      rw [isLast, (toUpper_eq_iff (by decide) c).1 upper]
    · exact fun isLast => ⟨',', isLast, rfl⟩
  simp only [dropComma, length_asciiUpper, last]
  split
  · rw [asciiUpper, asciiUpper, List.map_dropLast]
  · rfl

theorem contains_asciiUpper (text : List Char) :
    (asciiUpper text).contains '\n' = text.contains '\n' := by
  rw [Bool.eq_iff_iff, List.contains_iff_mem, List.contains_iff_mem, asciiUpper, List.mem_map]
  constructor
  · rintro ⟨c, member, upper⟩
    rwa [← (toUpper_eq_iff (by decide) c).1 upper]
  · exact fun member => ⟨'\n', member, rfl⟩

/-- The column with its name and its definition in capitals. -/
def capitalized (column : Column) : Column :=
  .ofDefinition (String.ofList (asciiUpper column.name.toList))
    (String.ofList (asciiUpper column.definition.toList))

/-- The column of a line in capitals is the column of the line, in capitals. -/
theorem parse_asciiUpper (line : List Char) :
    parse (asciiUpper line) = (parse line).map capitalized := by
  have start : skipBacktick (trim (asciiUpper line)) = capitals.apply (skipBacktick (trim line)) := by
    rw [trim_asciiUpper, ← apply_capitals, skipBacktick_apply isNeutral_capitals]
  have visible (c : Char) (named : isNameChar c = true) : isBlank c = false := by
    refine isBlank_eq_false_of_nameChar ?_
    simp only [isNameChar, Bool.or_eq_true] at named
    simp only [Sql.isNameChar, Bool.or_eq_true]
    exact .inl (.inl named)
  have ran : capitals.Follows (capitals.found capitals.apply) (run isNameChar) :=
    follows_run (apply_toUpper (by decide)) visible
  have gap : capitals.Follows capitals.apply blanks := follows_blanks
  rw [parse, parse, start]
  refine (ran.bind fun found => ?_) (skipBacktick (trim line))
  obtain ⟨name, rest⟩ := found
  simp only [Respelling.found, skipBacktick_apply isNeutral_capitals, gap (skipBacktick rest),
    Option.bind_map, Option.map_bind]
  refine congrArg _ (funext fun text => ?_)
  simp only [Function.comp_apply, apply_capitals, contains_asciiUpper, dropComma_asciiUpper,
    trimRight_asciiUpper]
  have empty : (asciiUpper (trimRight (dropComma text))).isEmpty =
      (trimRight (dropComma text)).isEmpty := by
    simp [asciiUpper]
  rw [empty]
  split
  · rfl
  · simp [capitalized]

theorem eq_ofDefinition_of_parse {line : List Char} {column : Column}
    (read : parse line = some column) : column = .ofDefinition column.name column.definition := by
  obtain ⟨⟨name, rest⟩, -, behind⟩ := Option.bind_eq_some_iff.1 read
  obtain ⟨text, -, own⟩ := Option.bind_eq_some_iff.1 behind
  dsimp only at own
  split at own
  · simp at own
  · obtain rfl := Option.some.inj own
    rfl

/-- Lines of the same letters declare columns that say the same, or both declare none. -/
theorem parse_of_sameLetters {first second : List Char}
    (same : asciiUpper first = asciiUpper second) :
    Option.Rel Column.SameLetters (parse first) (parse second) := by
  have images := parse_asciiUpper first
  rw [same, parse_asciiUpper second] at images
  cases one : parse first with
  | none =>
    rw [one, Option.map_none, Option.map_eq_none_iff] at images
    rw [images]
    exact .none
  | some column =>
    rw [one, Option.map_some] at images
    obtain ⟨other, two, upper⟩ := Option.map_eq_some_iff.1 images
    rw [two, eq_ofDefinition_of_parse one, eq_ofDefinition_of_parse two]
    refine .some (sameLetters_ofDefinition ?_ ?_)
    · exact (String.ofList_injective (congrArg Column.name upper)).symm
    · exact (String.ofList_injective (congrArg Column.definition upper)).symm

end ColumnLine

namespace BodyLine

theorem kind_of_sameLetters {first second : List Char}
    (same : asciiUpper first = asciiUpper second) : kind first = kind second := by
  have trimmed : asciiUpper (trim first) = asciiUpper (trim second) := by
    rw [← trim_asciiUpper, ← trim_asciiUpper, same]
  rw [kind, kind, trimmed]

theorem texts_asciiUpper (body : List Char) :
    texts (asciiUpper body) = (texts body).map asciiUpper := by
  have lines : (splitOn '\n' (asciiUpper body)).map trim =
      ((splitOn '\n' body).map trim).map asciiUpper := by
    rw [splitOn_asciiUpper, List.map_map, List.map_map]
    exact List.map_congr_left fun line _ => trim_asciiUpper line
  have empty (line : List Char) : (!(asciiUpper line).isEmpty) = !line.isEmpty := by
    simp [asciiUpper]
  rw [texts, texts, lines, List.filter_map]
  exact congrArg _ (List.filter_congr fun line _ => empty line)

/-- The line with its text in capitals. -/
def capitalized (line : BodyLine) : BodyLine :=
  ⟨line.index, String.ofList (asciiUpper line.text.toList)⟩

theorem ofBody_asciiUpper (body : List Char) :
    ofBody (asciiUpper body) = (ofBody body).map capitalized := by
  rw [ofBody, ofBody, texts_asciiUpper, List.zipIdx_map, List.map_map, List.map_map]
  exact List.map_congr_left fun found _ => by simp [capitalized]

/-- Bodies of the same letters have the same lines, up to case. -/
theorem ofBody_of_sameLetters {first second : List Char}
    (same : asciiUpper first = asciiUpper second) :
    List.Forall₂ BodyLine.SameLetters (ofBody first) (ofBody second) := by
  have images : (ofBody first).map capitalized = (ofBody second).map capitalized := by
    rw [← ofBody_asciiUpper, ← ofBody_asciiUpper, same]
  refine (forall₂_of_map_eq images).imp fun line other equal => ?_
  have letters : asciiUpper line.text.toList = asciiUpper other.text.toList :=
    String.ofList_injective (congrArg BodyLine.text equal)
  have index : line.capitalized.index = other.capitalized.index := congrArg BodyLine.index equal
  exact ⟨index, letters, kind_of_sameLetters letters,
    ColumnLine.parse_of_sameLetters letters⟩

end BodyLine

/-- Lines of the same letters are sorted the same way. -/
theorem BodyContent.ofLines_of_sameLetters {first second : List BodyLine}
    (lines : List.Forall₂ BodyLine.SameLetters first second) :
    BodyContent.SameLetters (ofLines first) (ofLines second) := by
  induction lines with
  | nil => exact ⟨.nil, .nil, .nil⟩
  | @cons line other rest others own later ih =>
    rw [ofLines_cons, ofLines_cons, insert, insert, own.kind]
    cases BodyLine.kind other.text.toList with
    | constraint word => exact ⟨ih.columns, .cons own ih.constraintLines, ih.unmatchedLines⟩
    | candidate =>
      have column := own.column
      revert column
      generalize ColumnLine.parse line.text.toList = declared
      generalize ColumnLine.parse other.text.toList = further
      rintro (⟨same⟩ | _)
      · exact ⟨.cons same ih.columns, ih.constraintLines, ih.unmatchedLines⟩
      · exact ⟨ih.columns, ih.constraintLines, .cons own ih.unmatchedLines⟩

theorem TableStatement.sameLetters_of_respell {first second : TableStatement}
    (same : first.respell capitals = second.respell capitals) :
    TableStatement.SameLetters first second := by
  have name := String.ofList_injective (congrArg TableStatement.name same)
  have body := String.ofList_injective (congrArg TableStatement.body same)
  rw [apply_capitals, apply_capitals] at name body
  have lines := BodyLine.ofBody_of_sameLetters body
  exact ⟨name, body, lines, BodyContent.ofLines_of_sameLetters lines⟩

/-- In texts that are equal up to the case of ASCII letters the same statements are found, one by
one and up to case: their lines are of the same kinds, and their columns have the same flags and
the same types. They name the same database, up to case, or none. -/
theorem statements_of_sameLetters {first second : String} (same : SameLetters first second) :
    List.Forall₂ TableStatement.SameLetters (TableStatement.all first.toList)
        (TableStatement.all second.toList) ∧
      Option.Rel SameLetters (DatabaseStatement.name? first.toList)
        (DatabaseStatement.name? second.toList) := by
  have text : capitals.apply first.toList = capitals.apply second.toList := by
    rw [apply_capitals, apply_capitals]
    exact same
  constructor
  · have images := TableStatement.all_apply isNeutral_capitals first.toList
    rw [text, TableStatement.all_apply isNeutral_capitals] at images
    exact (forall₂_of_map_eq images.symm).imp fun _ _ => TableStatement.sameLetters_of_respell
  · have images := DatabaseStatement.name?_apply isNeutral_capitals first.toList
    rw [text, DatabaseStatement.name?_apply isNeutral_capitals] at images
    cases one : DatabaseStatement.name? first.toList with
    | none =>
      rw [one, Option.map_none, Option.map_eq_none_iff] at images
      rw [images]
      exact .none
    | some name =>
      rw [one, Option.map_some] at images
      obtain ⟨other, two, upper⟩ := Option.map_eq_some_iff.1 images
      rw [two]
      have letters := String.ofList_injective upper
      rw [apply_capitals, apply_capitals] at letters
      exact .some letters.symm

def mixedScript : String :=
  "create Table Users (\n id Int not Null,\n key (id)\n) engine; Use Shop"

def capitalScript : String :=
  "CREATE TABLE USERS (\n ID INT NOT NULL,\n KEY (ID)\n) ENGINE; USE SHOP"

theorem statements_of_sameLetters_script :
    SameLetters mixedScript capitalScript ∧
      List.Forall₂ TableStatement.SameLetters (TableStatement.all mixedScript.toList)
        (TableStatement.all capitalScript.toList) := by
  have same : SameLetters mixedScript capitalScript := by decide +kernel
  exact ⟨same, (statements_of_sameLetters same).1⟩

end Sql
end SchemaScaffold
