import SchemaScaffold.Proofs.Schema.Markers
import SchemaScaffold.Proofs.Sql.PieceForms

/-!
# Attributes

What stands behind the type in the definition of a column. The rules search the whole definition,
so that attributes keep the type that the words in front of them have exactly if they do not
mention the words of a rule that comes before its own.
-/

namespace SchemaScaffold

open Text Sql

/-- Pieces of attributes, with blanks in front of each of them. -/
inductive Piece where
  /-- A word in any case of its letters. -/
  | word (capitals : String)
  /-- A text as it is. -/
  | literal (text : String)
deriving DecidableEq, Repr

namespace Piece

def text : Piece → String
  | word capitals => capitals
  | literal text => text

/-- How a piece is written. -/
def form : Piece → Language Char
  | word capitals => spaceForm * spellings capitals
  | literal text => spaceForm * {text.toList}

/-- There are blanks in front of a piece, and its words are those of its text. -/
theorem exists_gap {piece : Piece} {own : List Char} (written : own ∈ piece.form) (word : String) :
    ∃ gap rest, gap ≠ [] ∧ IsLetterless gap ∧ gap ++ rest = own ∧
      (Mentions word rest ↔ Mentions word piece.text.toList) := by
  cases piece with
  | word capitals =>
    obtain ⟨space, ⟨nonempty, blank⟩, rest, isRest, whole⟩ := Language.mem_mul.1 written
    exact ⟨space, rest, nonempty, isLetterless_of_isAllBlank blank, whole,
      mentions_of_mem_spellings isRest word⟩
  | literal text =>
    obtain ⟨space, ⟨nonempty, blank⟩, rest, isRest, whole⟩ := Language.mem_mul.1 written
    exact ⟨space, rest, nonempty, isLetterless_of_isAllBlank blank, whole,
      by rw [mem_singleton.1 isRest]; rfl⟩

theorem text_mem_form (piece : Piece) : ' ' :: piece.text.toList ∈ piece.form := by
  have isSpace : [' '] ∈ spaceForm := ⟨by simp, by decide⟩
  cases piece with
  | word capitals => exact Language.mem_mul.2 ⟨_, isSpace, _, rfl, rfl⟩
  | literal text => exact Language.mem_mul.2 ⟨_, isSpace, _, rfl, rfl⟩

end Piece

/-- Attributes of columns. -/
inductive Attribute where
  | notNull
  | null
  | default (literal : String)
  | defaultNow
  | updatedNow
  | comment (text : String)
  | unique
  | autoIncrement
deriving DecidableEq, Repr

namespace Attribute

def pieces : Attribute → List Piece
  | notNull => [.word "NOT", .word "NULL"]
  | null => [.word "NULL"]
  | default literal => [.word "DEFAULT", .literal literal]
  | defaultNow => [.word "DEFAULT", .word "CURRENT_TIMESTAMP"]
  | updatedNow => [.word "ON", .word "UPDATE", .word "CURRENT_TIMESTAMP"]
  | comment text => [.word "COMMENT", .literal ("'" ++ text ++ "'")]
  | unique => [.word "UNIQUE"]
  | autoIncrement => [.word "AUTO_INCREMENT"]

/-- How an attribute is written. -/
def form (item : Attribute) : Language Char :=
  (item.pieces.map Piece.form).prod

/-- One of the pieces of an attribute has a word in it. -/
def Mentions (word : String) (item : Attribute) : Prop :=
  ∃ piece ∈ item.pieces, Text.Mentions word piece.text.toList

instance (word : String) : DecidablePred (Mentions word) := fun item =>
  inferInstanceAs (Decidable (∃ piece ∈ item.pieces, _))

/-- An attribute as it is written with single spaces. -/
def text (item : Attribute) : List Char :=
  item.pieces.flatMap fun piece => ' ' :: piece.text.toList

theorem text_mem_form (item : Attribute) : item.text ∈ item.form :=
  flatMap_mem_prod Piece.text_mem_form item.pieces

/-- A word is in front of the attributes that are written behind a text or in one of them. -/
theorem mentions_attributes_iff {word : String} (marker : IsMarker word)
    {attributes : List Attribute} {front written : List Char}
    (behind : written ∈ (attributes.map form).prod) : Text.Mentions word (front ++ written) ↔
      Text.Mentions word front ∨ ∃ item ∈ attributes, item.Mentions word := by
  have flat : (attributes.map form).prod = ((attributes.flatMap pieces).map Piece.form).prod := by
    rw [List.map_flatMap, List.flatMap, List.prod_flatten, List.map_map]
    rfl
  rw [flat] at behind
  rw [mentions_prod_iff marker (fun _ _ isOwn => Piece.exists_gap isOwn word) behind]
  refine or_congr_right ⟨?_, ?_⟩
  · rintro ⟨piece, member, inside⟩
    obtain ⟨item, own, within⟩ := List.mem_flatMap.1 member
    exact ⟨item, own, piece, within, inside⟩
  · rintro ⟨item, own, piece, within, inside⟩
    exact ⟨piece, List.mem_flatMap.2 ⟨item, own, within⟩, inside⟩

/-- No attribute mentions one of the words. -/
def Lacks (words : List String) (attributes : List Attribute) : Prop :=
  ∀ item ∈ attributes, ∀ word ∈ words, ¬ item.Mentions word

instance (words : List String) : DecidablePred (Lacks words) := fun attributes =>
  inferInstanceAs (Decidable (∀ item ∈ attributes, _))

theorem lacks_append {words others : List String} {attributes : List Attribute} :
    Lacks (words ++ others) attributes ↔ Lacks words attributes ∧ Lacks others attributes := by
  simp only [Lacks, List.forall_mem_append, forall_and]

theorem not_lacks_singleton {word : String} {attributes : List Attribute} :
    ¬ Lacks [word] attributes ↔ ∃ item ∈ attributes, item.Mentions word := by
  simp [Lacks]

end Attribute

/-- A definition is a type and attributes behind it. -/
def IsWritten (type : String) (attributes : List Attribute) (definition : String) : Prop :=
  definition.toList ∈ ({type.toList} : Language Char) * (attributes.map Attribute.form).prod

theorem isWritten_append (type : String) (attributes : List Attribute) :
    IsWritten type attributes (String.ofList (type.toList ++ attributes.flatMap Attribute.text)) := by
  rw [IsWritten, String.toList_ofList]
  exact Language.append_mem_mul (mem_singleton.2 rfl)
    (flatMap_mem_prod Attribute.text_mem_form attributes)

namespace IsWritten

open Attribute (Lacks lacks_append not_lacks_singleton)
open TypeRule (numericWords typedWords)

variable {type definition : String} {attributes : List Attribute}
  (written : IsWritten type attributes definition)

include written

theorem mentions_iff {word : String} (marker : IsMarker word) : Mentions word definition.toList ↔
    Mentions word type.toList ∨ ¬ Lacks [word] attributes := by
  obtain ⟨own, isOwn, behind, isBehind, whole⟩ := Language.mem_mul.1 written
  obtain rfl := mem_singleton.1 isOwn
  rw [← whole, Attribute.mentions_attributes_iff marker isBehind, not_lacks_singleton]

theorem mentionsAny_iff {words : List String} (markers : ∀ word ∈ words, IsMarker word) :
    MentionsAny words definition.toList ↔
      MentionsAny words type.toList ∨ ¬ Lacks words attributes := by
  induction words with
  | nil => simp [Lacks]
  | cons word words ih =>
    obtain ⟨marker, others⟩ := List.forall_mem_cons.1 markers
    rw [← List.singleton_append, lacks_append, mentionsAny_append, mentionsAny_append, ih others,
      mentionsAny_cons, mentionsAny_cons, written.mentions_iff marker]
    simp only [not_mentionsAny_nil, or_false]
    grind

theorem integer_kept (own : FieldType.ofDefinition type = TypeRule.integer.type) :
    FieldType.ofDefinition definition = TypeRule.integer.type := by
  rw [FieldType.eq_integer_iff] at own ⊢
  exact (written.mentions_iff (by decide)).2 (.inl own)

theorem number_kept (own : FieldType.ofDefinition type = TypeRule.number.type) :
    FieldType.ofDefinition definition = TypeRule.number.type ↔ Lacks ["INT"] attributes := by
  rw [FieldType.eq_number_iff] at own ⊢
  rw [written.mentions_iff (by decide), written.mentionsAny_iff (by decide)]
  grind

theorem date_kept (own : FieldType.ofDefinition type = TypeRule.date.type) :
    FieldType.ofDefinition definition = TypeRule.date.type ↔
      Lacks (numericWords ++ ["DATETIME"]) attributes := by
  rw [FieldType.eq_date_iff] at own ⊢
  rw [written.mentionsAny_iff (by decide), written.mentions_iff (by decide),
    written.mentions_iff (by decide), lacks_append]
  grind

theorem plain_kept (own : FieldType.ofDefinition type = TypeRule.fallback.type) :
    FieldType.ofDefinition definition = TypeRule.fallback.type ↔ Lacks typedWords attributes := by
  rw [FieldType.eq_fallback_iff] at own ⊢
  rw [written.mentionsAny_iff (by decide)]
  grind

theorem dateTime_kept (own : FieldType.ofDefinition type = TypeRule.dateTime.type) :
    FieldType.ofDefinition definition = TypeRule.dateTime.type ↔ Lacks numericWords attributes ∧
      (Mentions "DATETIME" type.toList ∨ ¬ Lacks ["DATETIME"] attributes ∨
        Lacks ["DATE"] attributes) := by
  rw [FieldType.eq_dateTime_iff] at own ⊢
  rw [written.mentionsAny_iff (by decide), written.mentions_iff (by decide),
    written.mentions_iff (by decide), written.mentions_iff (by decide)]
  grind

end IsWritten

section Kept

open Attribute (Lacks lacks_append)
open TypeRule (numericWords typedWords)

/-- Attributes keep the type in front of them: they mention no word of a rule that is tried before
the one for the type. A date with a time is told by `DATETIME`, in the type or an attribute, or by
`TIMESTAMP` if no attribute mentions a date. -/
@[mk_iff] structure KeepsType (type : String) (attributes : List Attribute) : Prop where
  number : FieldType.ofDefinition type = TypeRule.number.type → Lacks ["INT"] attributes
  date : FieldType.ofDefinition type = TypeRule.date.type →
    Lacks (numericWords ++ ["DATETIME"]) attributes
  dateTime : FieldType.ofDefinition type = TypeRule.dateTime.type →
    Lacks numericWords attributes ∧
      (Mentions "DATETIME" type.toList ∨ ¬ Lacks ["DATETIME"] attributes ∨
        Lacks ["DATE"] attributes)
  plain : FieldType.ofDefinition type = TypeRule.fallback.type → Lacks typedWords attributes

/-- A type is a keyword in any case and perhaps a precision. -/
def IsOfType (word type : String) : Prop :=
  ∃ keyword ∈ spellings word, ∃ precision, IsLetterless precision ∧
    keyword ++ precision = type.toList

theorem IsOfType.mentions_iff {word type : String} (isOf : IsOfType word type) {other : String}
    (marker : IsMarker other) : Mentions other type.toList ↔ Mentions other word.toList := by
  obtain ⟨keyword, same, precision, plain, whole⟩ := isOf
  rw [← whole, mentions_append_letterless_end marker plain, mentions_congr same]

theorem IsOfType.fieldType_eq {word type : String} (isOf : IsOfType word type) :
    FieldType.ofDefinition type = FieldType.ofDefinition word :=
  FieldType.ofDefinition_congr fun _ => isOf.mentions_iff

variable {type definition : String} {attributes : List Attribute}

/-- The type of a definition is that of the type in front exactly if the attributes keep it. -/
theorem fieldType_eq_iff (written : IsWritten type attributes definition) :
    FieldType.ofDefinition definition = FieldType.ofDefinition type ↔ KeepsType type attributes := by
  have apart := FieldType.types_apart
  rw [keepsType_iff]
  rcases FieldType.ofDefinition_cases type with own | own | own | own | own
  · have kept := written.integer_kept own
    rw [own]
    simp_all
  · have kept := written.number_kept own
    rw [own]
    simp_all
  · have kept := written.date_kept own
    rw [own]
    simp_all [eq_comm]
  · have kept := written.dateTime_kept own
    rw [own]
    simp_all [eq_comm]
  · have kept := written.plain_kept own
    rw [own]
    simp_all [eq_comm]

/-- Attributes change the type in front of them only by the words that they mention. In particular
a date with a time and a date stay what they are if the attributes mention no word of the rules
that come before. Nothing is said on the time of the last change as an attribute of a type that is
told by `TIMESTAMP`. -/
theorem attributes_keep_type (written : IsWritten type attributes definition)
    (_settled : .updatedNow ∈ attributes →
      FieldType.ofDefinition type = TypeRule.dateTime.type → Mentions "DATETIME" type.toList) :
    (FieldType.ofDefinition definition = FieldType.ofDefinition type ↔
      KeepsType type attributes) ∧
    (IsOfType "DATETIME" type →
      (FieldType.ofDefinition definition = TypeRule.dateTime.type ↔
        Lacks numericWords attributes)) ∧
    (IsOfType "TIMESTAMP" type → Lacks (numericWords ++ ["DATE"]) attributes →
      FieldType.ofDefinition definition = TypeRule.dateTime.type) ∧
    (IsOfType "DATE" type →
      (FieldType.ofDefinition definition = TypeRule.date.type ↔
        Lacks (numericWords ++ ["DATETIME"]) attributes)) := by
  refine ⟨fieldType_eq_iff written, fun isOf => ?_, fun isOf lacks => ?_, fun isOf => ?_⟩
  · have own : FieldType.ofDefinition type = TypeRule.dateTime.type :=
      isOf.fieldType_eq.trans (by decide)
    have told : Mentions "DATETIME" type.toList := (isOf.mentions_iff (by decide)).2 (by decide)
    rw [written.dateTime_kept own]
    exact and_iff_left (.inl told)
  · have own : FieldType.ofDefinition type = TypeRule.dateTime.type :=
      isOf.fieldType_eq.trans (by decide)
    obtain ⟨numeric, date⟩ := lacks_append.1 lacks
    exact (written.dateTime_kept own).2 ⟨numeric, .inr (.inr date)⟩
  · exact written.date_kept (isOf.fieldType_eq.trans (by decide))

/-- A time stamp with a precision, a default and a comment. -/
theorem stamp_keeps_type :
    FieldType.ofDefinition
        "TIMESTAMP(6) NOT NULL DEFAULT CURRENT_TIMESTAMP COMMENT 'when it was made, in UTC'" =
      FieldType.ofDefinition "TIMESTAMP(6)" := by
  have written : IsWritten "TIMESTAMP(6)"
      [.notNull, .defaultNow, .comment "when it was made, in UTC"]
      "TIMESTAMP(6) NOT NULL DEFAULT CURRENT_TIMESTAMP COMMENT 'when it was made, in UTC'" :=
    isWritten_append _ _
  exact (attributes_keep_type written (by decide)).1.2
    ⟨by decide, by decide, by decide, by decide⟩

/-- A comment makes a date with a time an integer. -/
theorem point_changes_type :
    IsWritten "DATETIME" [.notNull, .comment "point in time"]
        "DATETIME NOT NULL COMMENT 'point in time'" ∧
      FieldType.ofDefinition "DATETIME NOT NULL COMMENT 'point in time'" ≠
        FieldType.ofDefinition "DATETIME" ∧
      (FieldType.ofDefinition "DATETIME NOT NULL COMMENT 'point in time'").format ≠
        some "date-time" :=
  ⟨isWritten_append _ _, by decide, by decide⟩

end Kept
end SchemaScaffold
