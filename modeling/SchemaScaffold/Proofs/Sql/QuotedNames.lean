import SchemaScaffold.Proofs.Sql.ColumnShape
import SchemaScaffold.Proofs.Sql.DeclaredColumns
import SchemaScaffold.Proofs.Sql.LetterCase

/-!
# Names with and without backticks

Keys and constraints are told by the start of their lines, before a line is read as a column. A
name between backticks starts none of them. Without backticks it may: three openings end in a
blank or go on behind one, so that they start only with words of their own, but `CONSTRAINT` starts
every longer name as well.
-/

namespace SchemaScaffold
namespace Sql

open Text

/-- The words with which keys and constraints start. -/
def openingWords : List String := ["PRIMARY", "UNIQUE", "KEY", "CONSTRAINT"]

/-- A column that is declared on a line of its own: blanks, a name that is no word for keys and
constraints, more blanks and a definition. -/
structure Declaration where
  indent : List Char
  name : String
  space : List Char
  definition : List Char
  isIndent : isAllBlank indent = true
  isWord : IsWord name
  isSpace : space ∈ spaceForm
  isGiven : isAllBlank definition = false
  isOnOneLine : '\n' ∉ indent ++ (space ++ definition)
  isFree : ∀ word ∈ openingWords, asciiUpper name.toList ≠ word.toList

namespace Declaration

variable (declaration : Declaration)

/-- The line of a declaration, with a backtick or nothing on both sides of the name. -/
def line (tick : List Char) : List Char :=
  declaration.indent ++ (tick ++ (declaration.name.toList ++ (tick ++
    (declaration.space ++ declaration.definition))))

/-- The name starts with the word for constraints, in any case of its letters. -/
def StartsConstraint : Prop :=
  "CONSTRAINT".toList <+: asciiUpper declaration.name.toList

instance : DecidablePred StartsConstraint := fun declaration =>
  inferInstanceAs (Decidable ("CONSTRAINT".toList <+: asciiUpper declaration.name.toList))

/-- The column that is declared. -/
def column : Column :=
  Column.ofDefinition declaration.name
    (String.ofList (trimRight (ColumnLine.dropComma (trim declaration.definition))))

variable {declaration} {tick : List Char}

/-- What is left of the line of a declaration once it is trimmed. -/
theorem trim_line (isTick : tick ∈ tickForm) : trim (declaration.line tick) =
    tick ++ (declaration.name.toList ++ (tick ++
      (declaration.space ++ trimRight declaration.definition))) := by
  obtain ⟨first, letters, shape⟩ := List.exists_cons_of_ne_nil declaration.isWord.toList_ne_nil
  have visible (rest : List Char) : StartsVisibly (tick ++ (declaration.name.toList ++ rest)) := by
    rcases isTick with rfl | rfl
    · rw [List.nil_append, shape, List.cons_append, startsVisibly_cons]
      exact isBlank_eq_false_of_nameChar (declaration.isWord.nameChar first (by simp [shape]))
    · exact startsVisibly_cons.2 rfl
  have started : trimLeft (declaration.line tick) = tick ++ (declaration.name.toList ++ (tick ++
      (declaration.space ++ declaration.definition))) :=
    Option.some.inj (takes_trimLeft.complete declaration.isIndent (visible _))
  have ended := trimRight_append_of_visible declaration.isGiven
    (tick ++ (declaration.name.toList ++ (tick ++ declaration.space)))
  rw [trim, started]
  simpa only [List.append_assoc] using ended

/-- Behind a name there is a backtick or a blank. -/
theorem ends_name (isTick : tick ∈ tickForm) (rest : List Char) (c : Char)
    (start : (tick ++ (declaration.space ++ rest)).head? = some c) : isNameChar c = false := by
  rcases isTick with rfl | rfl
  · obtain ⟨d, others, shape⟩ := List.exists_cons_of_ne_nil declaration.isSpace.1
    have blank : isBlank d = true := List.all_eq_true.1 declaration.isSpace.2 d (by simp [shape])
    obtain rfl : d = c := by simpa [shape] using start
    exact isNameChar_eq_false_of_isBlank blank
  · obtain rfl : '\x60' = c := by simpa using start
    rfl

/-- The line of a declaration has the shape of a column, with backticks or without. -/
theorem hasShape_line (isTick : tick ∈ tickForm) : ColumnLine.HasShape
    (trim (declaration.line tick)) declaration.name.toList (trim declaration.definition) := by
  obtain ⟨blank, first, more, isGap, behind, trimmed, visible, within⟩ :=
    exists_trim_cons declaration.isGiven
  have isSpace : declaration.space ++ blank ∈ spaceForm := by
    refine ⟨by simp [declaration.isSpace.1], ?_⟩
    rw [isAllBlank, List.all_append, Bool.and_eq_true]
    exact ⟨declaration.isSpace.2, isGap⟩
  refine ⟨declaration.isWord.toList_ne_nil, declaration.isWord.columnChar,
    ⟨tick, isTick, tick, isTick, declaration.space ++ blank, isSpace, ?_, ?_⟩, ?_, ?_, ?_⟩
  · rw [trim_line isTick, behind, List.append_assoc]
  · intro c start
    rw [List.append_assoc] at start
    have outside := ends_name isTick _ c start
    simp only [isNameChar, Bool.or_eq_false_iff] at outside
    simp [ColumnLine.isNameChar, outside.1.1]
  · rw [trimmed]
    exact startsVisibly_cons.2 visible
  · rw [trimmed]
    exact List.cons_ne_nil first more
  · intro feed
    have inDefinition := within (trimmed ▸ feed)
    exact declaration.isOnOneLine (by simp [inDefinition])

theorem parse_line (isTick : tick ∈ tickForm) :
    ColumnLine.parse (declaration.line tick) = some declaration.column := by
  have shape : ColumnLine.HasShape (trim (declaration.line tick)) declaration.name.toList
    (trim declaration.definition) := hasShape_line isTick
  have read := ColumnLine.parse_of_shape shape (ColumnLine.losesComma_iff.2 rfl)
  rwa [String.ofList_toList] at read

/-- A name between backticks starts no key and no constraint. -/
theorem kind_line_quoted : BodyLine.kind (declaration.line ['\x60']) = .candidate := by
  rw [BodyLine.kind, trim_line (.inr rfl)]
  rfl

end Declaration

/-- A word starts a text that goes on behind a name only if it starts the name. -/
theorem prefix_append_iff {word name behind : List Char} (isWord : IsNameText word)
    (ends : ∀ c, behind.head? = some c → isNameChar c = false) :
    word <+: name ++ behind ↔ word <+: name := by
  refine ⟨?_, fun within => within.trans (List.prefix_append name behind)⟩
  rintro ⟨rest, whole⟩
  rcases List.append_eq_append_iff.1 whole with ⟨more, shape, -⟩ | ⟨more, shape, start⟩
  · exact ⟨more, shape.symm⟩
  · cases more with
    | nil => simp [shape]
    | cons c others =>
      have inWord := isWord c (by simp [shape])
      rw [ends c (by simp [start])] at inWord
      simp at inWord

/-- A word and a blank start a text that goes on behind a name only if the word is the name. -/
theorem eq_of_prefix_with_blank {word name behind tail : List Char} (isWord : IsNameText word)
    (isName : IsNameText name) (ends : ∀ c, behind.head? = some c → isNameChar c = false)
    (within : word ++ ' ' :: tail <+: name ++ behind) : name = word := by
  obtain ⟨rest, whole⟩ := within
  have apart : ∀ c, (' ' :: (tail ++ rest)).head? = some c → isNameChar c = false := by
    rintro c ⟨⟩
    rfl
  exact (name_unique isWord isName apart ends (by simpa using whole)).1.symm

namespace Declaration

variable {declaration : Declaration}

theorem isNameChar_toUpper (c : Char) : isNameChar c.toUpper = isNameChar c :=
  isNeutral_capitals.nameChar c

/-- Behind a name in capitals there is no character of names either. -/
theorem ends_upper_name (rest : List Char) (c : Char)
    (start : (asciiUpper (declaration.space ++ rest)).head? = some c) : isNameChar c = false := by
  rw [asciiUpper, List.head?_map, Option.map_eq_some_iff] at start
  obtain ⟨d, first, rfl⟩ := start
  rw [isNameChar_toUpper]
  exact ends_name (.inl rfl) rest d first

/-- A name without backticks starts a constraint exactly if it starts with the word for them. -/
theorem kind_line_plain : BodyLine.kind (declaration.line []) =
    if declaration.StartsConstraint then .constraint .constraint else .candidate := by
  have isName : IsNameText (asciiUpper declaration.name.toList) := by
    intro c member
    obtain ⟨d, inName, rfl⟩ := List.mem_map.1 member
    rw [isNameChar_toUpper]
    exact declaration.isWord.nameChar d inName
  have upper : asciiUpper (trim (declaration.line [])) = asciiUpper declaration.name.toList ++
      asciiUpper (declaration.space ++ trimRight declaration.definition) := by
    rw [trim_line (.inl rfl), List.nil_append, List.nil_append, asciiUpper_append]
  have spaced (word tail : List Char) (isWord : IsNameText word)
      (free : asciiUpper declaration.name.toList ≠ word) :
      (word ++ ' ' :: tail).isPrefixOf (asciiUpper (trim (declaration.line []))) = false := by
    rw [upper, Bool.eq_false_iff, Ne, List.isPrefixOf_iff_prefix]
    exact fun within => free (eq_of_prefix_with_blank isWord isName (ends_upper_name _) within)
  have free := declaration.isFree
  have primary : "PRIMARY KEY".toList.isPrefixOf (asciiUpper (trim (declaration.line []))) =
      false := spaced "PRIMARY".toList "KEY".toList (by decide)
        (free _ (by decide))
  have unique : "UNIQUE KEY".toList.isPrefixOf (asciiUpper (trim (declaration.line []))) =
      false := spaced "UNIQUE".toList "KEY".toList (by decide)
        (free _ (by decide))
  have key : "KEY ".toList.isPrefixOf (asciiUpper (trim (declaration.line []))) = false :=
    spaced "KEY".toList [] (by decide) (free _ (by decide))
  have long : "CONSTRAINT".toList.isPrefixOf (asciiUpper (trim (declaration.line []))) =
      decide declaration.StartsConstraint := by
    rw [Bool.eq_iff_iff, List.isPrefixOf_iff_prefix, decide_eq_true_eq, upper]
    exact prefix_append_iff (by decide) (ends_upper_name _)
  simp only [BodyLine.kind, ConstraintWord.all, List.find?_cons, List.find?_nil,
    ConstraintWord.text, primary, unique, key, long]
  by_cases starts : declaration.StartsConstraint <;> simp [starts]

theorem newline_not_mem_line (isTick : tick ∈ tickForm) : '\n' ∉ declaration.line tick := by
  have inName : '\n' ∉ declaration.name.toList := declaration.isWord.not_mem rfl
  have inTick : '\n' ∉ tick := by rcases isTick with rfl | rfl <;> decide
  have others := declaration.isOnOneLine
  simp only [List.mem_append, not_or] at others
  simp [line, inName, inTick, others]

end Declaration

/-- A line of a body: a declaration, or any other text on one line. -/
inductive BodyPart where
  | declaration (declared : Declaration)
  | other (line : List Char) (isOnOneLine : '\n' ∉ line)

namespace BodyPart

/-- The line, with a backtick or nothing on both sides of the name that is declared. -/
def text (tick : List Char) : BodyPart → List Char
  | declaration declared => declared.line tick
  | other line _ => line

/-- The line declares no name that starts with the word for constraints. -/
def isKept : BodyPart → Bool
  | declaration declared => !decide declared.StartsConstraint
  | other _ _ => true

theorem newline_not_mem_text {tick : List Char} (isTick : tick ∈ tickForm) (part : BodyPart) :
    '\n' ∉ part.text tick := by
  cases part with
  | declaration declared => exact declared.newline_not_mem_line isTick
  | other line isOnOneLine => exact isOnOneLine

/-- Without its backticks a line declares what it declared, or nothing. -/
theorem declared?_text_plain (part : BodyPart) : ColumnLine.declared? (part.text []) =
    if part.isKept = true then ColumnLine.declared? (part.text ['\x60']) else none := by
  cases part with
  | other line isOnOneLine => rfl
  | declaration declared =>
    have plain : ColumnLine.parse (declared.line []) = some declared.column :=
      Declaration.parse_line (.inl rfl)
    have quoted : ColumnLine.parse (declared.line ['\x60']) = some declared.column :=
      Declaration.parse_line (.inr rfl)
    simp only [text, isKept, ColumnLine.declared?, Declaration.kind_line_plain,
      Declaration.kind_line_quoted, plain, quoted]
    by_cases starts : declared.StartsConstraint <;> simp [starts]

/-- A line that is not kept declares a column between backticks. -/
theorem isSome_declared?_of_not_isKept {part : BodyPart} (lost : part.isKept = false) :
    (ColumnLine.declared? (part.text ['\x60'])).isSome = true := by
  cases part with
  | other line isOnOneLine => simp [isKept] at lost
  | declaration declared =>
    have quoted : ColumnLine.parse (declared.line ['\x60']) = some declared.column :=
      Declaration.parse_line (.inr rfl)
    simp [text, ColumnLine.declared?, Declaration.kind_line_quoted, quoted]

end BodyPart

/-- The body of some lines, with a backtick or nothing on both sides of the names that they
declare. -/
def bodyOf (tick : List Char) (parts : List BodyPart) : List Char :=
  joinWith ['\n'] (parts.map (·.text tick))

theorem columns_bodyOf {tick : List Char} (isTick : tick ∈ tickForm) (parts : List BodyPart) :
    (BodyContent.ofBody (bodyOf tick parts)).columns =
      parts.filterMap fun part => ColumnLine.declared? (part.text tick) := by
  rw [columns_ofBody_eq_splitOn, bodyOf]
  cases parts with
  | nil => rfl
  | cons part rest =>
    have free : ∀ piece ∈ (part :: rest).map (·.text tick), '\n' ∉ piece := by
      intro piece member
      obtain ⟨own, -, rfl⟩ := List.mem_map.1 member
      exact own.newline_not_mem_text isTick
    rw [splitOn_joinWith (by simp) free, List.filterMap_map]
    rfl

/-- Nothing is lost by a choice exactly if everything that counts is chosen. -/
theorem filterMap_filter_eq_iff {α β : Type} {f : α → Option β} {chosen : α → Bool} {list : List α}
    (counts : ∀ a, chosen a = false → (f a).isSome = true) :
    (list.filter chosen).filterMap f = list.filterMap f ↔ ∀ a ∈ list, chosen a = true := by
  constructor
  · intro same
    induction list with
    | nil => simp
    | cons a rest ih =>
      by_cases here : chosen a = true
      · rw [List.filter_cons_of_pos here, List.filterMap_cons, List.filterMap_cons] at same
        have later : (rest.filter chosen).filterMap f = rest.filterMap f := by
          cases given : f a with
          | none => simpa [given] using same
          | some b => simpa [given] using same
        exact List.forall_mem_cons.2 ⟨here, ih later⟩
      · obtain ⟨b, given⟩ := Option.isSome_iff_exists.1 (counts a (by simpa using here))
        rw [List.filter_cons_of_neg here, List.filterMap_cons_some given] at same
        have within : (rest.filter chosen).Sublist rest := List.filter_sublist
        have shorter := (within.filterMap f).length_le
        rw [same, List.length_cons] at shorter
        omega
  · intro all
    rw [List.filter_eq_self.2 all]

/-- A declaration between backticks is a candidate for a column, and it is read as the same column
without them. Without them it is a candidate as well, unless its name starts with the word for
constraints: then the line is taken for a constraint. A body loses these columns and no others when
its backticks are removed. -/
theorem constraint_names_need_backticks (declaration : Declaration) (parts : List BodyPart) :
    (BodyLine.kind (declaration.line ['\x60']) = .candidate ∧
      ColumnLine.parse (declaration.line ['\x60']) = some declaration.column ∧
      ColumnLine.parse (declaration.line []) = some declaration.column ∧
      BodyLine.kind (declaration.line []) =
        if declaration.StartsConstraint then .constraint .constraint else .candidate) ∧
    (BodyContent.ofBody (bodyOf [] parts)).columns =
      (BodyContent.ofBody (bodyOf ['\x60'] (parts.filter (·.isKept)))).columns ∧
    ((BodyContent.ofBody (bodyOf [] parts)).columns =
        (BodyContent.ofBody (bodyOf ['\x60'] parts)).columns ↔
      ∀ part ∈ parts, part.isKept = true) := by
  have kept : (BodyContent.ofBody (bodyOf [] parts)).columns =
      (BodyContent.ofBody (bodyOf ['\x60'] (parts.filter (·.isKept)))).columns := by
    rw [columns_bodyOf (.inl rfl), columns_bodyOf (.inr rfl), List.filterMap_filter]
    exact List.filterMap_congr fun part _ => part.declared?_text_plain
  refine ⟨⟨Declaration.kind_line_quoted, Declaration.parse_line (.inr rfl),
    Declaration.parse_line (.inl rfl), Declaration.kind_line_plain⟩, kept, ?_⟩
  rw [kept, columns_bodyOf (.inr rfl), columns_bodyOf (.inr rfl)]
  exact filterMap_filter_eq_iff fun _ => BodyPart.isSome_declared?_of_not_isKept

/-- A column that is named for a kind of constraint. -/
def constraintType : Declaration where
  indent := []
  name := "constraint_type"
  space := [' ']
  definition := "VARCHAR(10)".toList
  isIndent := rfl
  isWord := by decide
  isSpace := ⟨by simp, rfl⟩
  isGiven := rfl
  isOnOneLine := by decide
  isFree := by decide

/-- Backticks decide whether the line of this column declares it. -/
theorem constraint_type_is_lost :
    ¬ (∀ declaration : Declaration, BodyLine.kind (declaration.line []) = .candidate) ∧
      constraintType.line [] = "constraint_type VARCHAR(10)".toList ∧
      (BodyContent.ofBody (constraintType.line [])).columns = [] ∧
      (BodyContent.ofBody (constraintType.line ['\x60'])).columns =
        [Column.ofDefinition "constraint_type" "VARCHAR(10)"] := by
  refine ⟨fun all => absurd (all constraintType) (by decide), rfl, by decide, by decide⟩

end Sql
end SchemaScaffold
