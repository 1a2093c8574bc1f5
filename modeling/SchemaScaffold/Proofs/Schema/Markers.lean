import Mathlib.Computability.Language
import SchemaScaffold.Proofs.Schema.EntityNames
import SchemaScaffold.Proofs.Text.Occurrences
import SchemaScaffold.Proofs.Text.Searching
import SchemaScaffold.Schema.FieldType

/-!
# Markers

The words by which the type of a definition is told. Which rule accepts a definition depends on
nothing but the words that occur in it. A word of capitals is on one side of every character that
is no letter, so that the words of a text are those of its parts.
-/

namespace SchemaScaffold
namespace Text

/-- A word in capitals occurs in a text, in any case of its letters. -/
def Mentions (word : String) (text : List Char) : Prop :=
  word.toList <:+: asciiUpper text

instance (word : String) : DecidablePred (Mentions word) := fun _ => decidable_of_iff _ occursIn_iff

/-- One of several words occurs in a text. -/
def MentionsAny (words : List String) (text : List Char) : Prop :=
  ∃ word ∈ words, Mentions word text

instance (words : List String) : DecidablePred (MentionsAny words) := fun _ =>
  inferInstanceAs (Decidable (∃ word ∈ words, _))

@[simp] theorem not_mentionsAny_nil (text : List Char) : ¬ MentionsAny [] text := by
  simp [MentionsAny]

@[simp] theorem mentionsAny_cons {word : String} {words : List String} {text : List Char} :
    MentionsAny (word :: words) text ↔ Mentions word text ∨ MentionsAny words text := by
  simp [MentionsAny]

theorem mentionsAny_append {words others : List String} {text : List Char} :
    MentionsAny (words ++ others) text ↔ MentionsAny words text ∨ MentionsAny others text := by
  simp [MentionsAny, or_and_right, exists_or]

/-- A word of one capital or more. -/
def IsMarker (word : String) : Prop :=
  word.toList ≠ [] ∧ word.toList.all Char.isUpper = true

instance : DecidablePred IsMarker := fun _ => inferInstanceAs (Decidable (_ ∧ _))

/-- A text mentions what is a part of a word that it mentions. -/
theorem Mentions.of_part {word part : String} {text : List Char} (mentions : Mentions word text)
    (within : part.toList <:+: word.toList) : Mentions part text :=
  within.trans mentions

theorem mentions_congr {text other : List Char} (same : asciiUpper text = asciiUpper other)
    (word : String) : Mentions word text ↔ Mentions word other := by
  rw [Mentions, Mentions, same]

/-- A text without letters. -/
def IsLetterless (text : List Char) : Prop :=
  ∀ c ∈ text, c.isAlpha = false

theorem asciiUpper_of_isLetterless {text : List Char} (plain : IsLetterless text) :
    asciiUpper text = text :=
  (List.map_congr_left fun c member => toUpper_eq_self (plain c member)).trans (List.map_id text)

theorem isLetterless_of_isAllBlank {text : List Char} (blank : isAllBlank text = true) :
    IsLetterless text := by
  intro c member
  have own : isBlank c = true := List.all_eq_true.1 blank c member
  by_contra letter
  rw [Bool.not_eq_false] at letter
  simp [isBlank_eq_false_of_nameChar (isNameChar_of_isAlpha letter)] at own

section Apart

variable {word : String} (marker : IsMarker word)

include marker

theorem toUpper_not_mem_marker {c : Char} (plain : c.isAlpha = false) :
    c.toUpper ∉ word.toList := by
  intro member
  have capital : c.toUpper.isUpper = true := List.all_eq_true.1 marker.2 _ member
  simp [isAlpha_of_toUpper rfl capital] at plain

theorem not_mentions_nil : ¬ Mentions word [] := by
  intro inside
  exact marker.1 (List.infix_nil.1 inside)

/-- A word is on one side of a character that is no letter. -/
theorem mentions_append_cons {c : Char} (plain : c.isAlpha = false) (left right : List Char) :
    Mentions word (left ++ c :: right) ↔ Mentions word left ∨ Mentions word right := by
  have foreign := toUpper_not_mem_marker marker plain
  have apart := occurrences_append_foreign marker.1 foreign (asciiUpper left) (asciiUpper right)
  have whole :
      asciiUpper (left ++ c :: right) = asciiUpper left ++ c.toUpper :: asciiUpper right := by
    simp [asciiUpper]
  rw [Mentions, Mentions, Mentions, whole, ← occurrences_pos_iff, apart, Nat.add_pos_iff_pos_or_pos,
    occurrences_pos_iff, occurrences_pos_iff]

theorem mentions_cons {c : Char} (plain : c.isAlpha = false) (text : List Char) :
    Mentions word (c :: text) ↔ Mentions word text := by
  have apart := mentions_append_cons marker plain [] text
  rwa [List.nil_append, or_iff_right (not_mentions_nil marker)] at apart

theorem mentions_letterless_append {left : List Char} (plain : IsLetterless left)
    (right : List Char) : Mentions word (left ++ right) ↔ Mentions word right := by
  induction left with
  | nil => rfl
  | cons c rest ih =>
    obtain ⟨here, later⟩ := List.forall_mem_cons.1 plain
    rw [List.cons_append, mentions_cons marker here, ih later]

/-- A word is on one side of a text without letters. -/
theorem mentions_append_letterless {gap : List Char} (nonempty : gap ≠ [])
    (plain : IsLetterless gap) (left right : List Char) :
    Mentions word (left ++ (gap ++ right)) ↔ Mentions word left ∨ Mentions word right := by
  obtain ⟨c, more, rfl⟩ := List.exists_cons_of_ne_nil nonempty
  obtain ⟨here, later⟩ := List.forall_mem_cons.1 plain
  rw [List.cons_append, mentions_append_cons marker here, mentions_letterless_append marker later]

/-- A word is in front of a text without letters at the end. -/
theorem mentions_append_letterless_end {gap : List Char} (plain : IsLetterless gap)
    (left : List Char) : Mentions word (left ++ gap) ↔ Mentions word left := by
  cases gap with
  | nil => rw [List.append_nil]
  | cons c more =>
    have apart := mentions_append_letterless marker (List.cons_ne_nil c more) plain left []
    rwa [List.append_nil, or_iff_left (not_mentions_nil marker)] at apart

/-- A word is in front of texts that are written one behind the other, with gaps without letters in
front of them, or in one of the texts. -/
theorem mentions_prod_iff {α : Type} {form : α → Language Char} {own : α → List Char}
    (gaps : ∀ a, ∀ text ∈ form a, ∃ gap rest, gap ≠ [] ∧ IsLetterless gap ∧ gap ++ rest = text ∧
      (Mentions word rest ↔ Mentions word (own a)))
    {members : List α} {front written : List Char} (behind : written ∈ (members.map form).prod) :
    Mentions word (front ++ written) ↔
      Mentions word front ∨ ∃ a ∈ members, Mentions word (own a) := by
  induction members generalizing front written with
  | nil =>
    obtain rfl : written = [] := behind
    simp
  | cons a members ih =>
    rw [List.map_cons, List.prod_cons] at behind
    obtain ⟨text, isText, others, areOthers, rfl⟩ := Language.mem_mul.1 behind
    obtain ⟨gap, rest, nonempty, plain, rfl, same⟩ := gaps a text isText
    rw [List.append_assoc, mentions_append_letterless marker nonempty plain, ih areOthers, same]
    simp

end Apart

/-- Texts of several forms, one behind the other. -/
theorem flatMap_mem_prod {α : Type} {form : α → Language Char} {text : α → List Char}
    (own : ∀ a, text a ∈ form a) (members : List α) :
    members.flatMap text ∈ (members.map form).prod := by
  induction members with
  | nil => rfl
  | cons a rest ih =>
    rw [List.flatMap_cons, List.map_cons, List.prod_cons]
    exact Language.append_mem_mul (own a) ih

/-- A word in any case of its letters. -/
def spellings (word : String) : Language Char :=
  {own | asciiUpper own = asciiUpper word.toList}

theorem mentions_of_mem_spellings {own : List Char} {keyword : String}
    (isOwn : own ∈ spellings keyword) (word : String) :
    Mentions word own ↔ Mentions word keyword.toList :=
  mentions_congr isOwn word

end Text

open Text

theorem Column.mentions_iff {word definition : String} :
    mentions word definition = true ↔ Mentions word definition.toList :=
  occursIn_iff

namespace TypeRule

/-- The words of the rule for numbers. -/
def numberWords : List String := ["DECIMAL", "NUMERIC", "FLOAT", "DOUBLE"]

/-- The words of the rules for integers and for numbers, which are tried before all others. -/
def numericWords : List String := "INT" :: numberWords

/-- The words that a definition may not mention if its type is a plain string. What mentions a
date with a time mentions a date. -/
def typedWords : List String := numericWords ++ ["DATE", "TIMESTAMP"]

theorem mentionsAny_typedWords {text : List Char} : MentionsAny typedWords text ↔
    MentionsAny numericWords text ∨ Mentions "DATE" text ∨ Mentions "TIMESTAMP" text := by
  simp [typedWords, mentionsAny_append]

theorem mentions_date {text : List Char} (mentions : Mentions "DATETIME" text) :
    Mentions "DATE" text :=
  mentions.of_part (occursIn_iff.1 (by decide))

theorem mentionsAny_iff {words : List String} {definition : String} :
    mentionsAny words (String.ofList (asciiUpper definition.toList)) = true ↔
      MentionsAny words definition.toList := by
  simp [mentionsAny, MentionsAny, Mentions, occursIn_iff]

theorem accepts_iff {rule : TypeRule} {words : List String} {definition : String}
    (own : rule.accepts = mentionsAny words) :
    rule.accepts (String.ofList (asciiUpper definition.toList)) = true ↔
      MentionsAny words definition.toList := by
  rw [own, mentionsAny_iff]

theorem date_accepts_iff {definition : String} :
    date.accepts (String.ofList (asciiUpper definition.toList)) = true ↔
      Mentions "DATE" definition.toList ∧ ¬ Mentions "DATETIME" definition.toList := by
  simp only [date, Bool.and_eq_true, Bool.not_eq_true', ← Bool.not_eq_true, mentionsAny_iff,
    mentionsAny_cons, not_mentionsAny_nil, or_false]

/-- The first of several rules that accepts a definition is the first one or one of the others. -/
theorem find?_cons_getD (rule : TypeRule) (rules : List TypeRule) (upper : String) :
    ((rule :: rules).find? (·.accepts upper)).getD fallback =
      if rule.accepts upper = true then rule
      else (rules.find? (·.accepts upper)).getD fallback := by
  rw [List.find?_cons]
  cases rule.accepts upper <;> rfl

/-- Which rule accepts a definition is told by the words that it mentions. -/
theorem ofDefinition_eq (definition : String) : ofDefinition definition =
    if MentionsAny ["INT"] definition.toList then integer
    else if MentionsAny numberWords definition.toList then number
    else if Mentions "DATE" definition.toList ∧ ¬ Mentions "DATETIME" definition.toList then date
    else if MentionsAny ["DATETIME", "TIMESTAMP"] definition.toList then dateTime
    else if MentionsAny ["ENUM"] definition.toList then enumeration
    else if MentionsAny ["TEXT"] definition.toList then text
    else if MentionsAny ["CHAR"] definition.toList then char
    else fallback := by
  rw [ofDefinition, firstAccepting, all]
  simp only [find?_cons_getD]
  refine if_congr (accepts_iff rfl) rfl ?_
  refine if_congr (accepts_iff rfl) rfl ?_
  refine if_congr date_accepts_iff rfl ?_
  refine if_congr (accepts_iff rfl) rfl ?_
  refine if_congr (accepts_iff rfl) rfl ?_
  refine if_congr (accepts_iff rfl) rfl ?_
  exact if_congr (accepts_iff rfl) rfl (ite_self fallback)

theorem ne_of_name_ne {rule other : TypeRule} (apart : rule.name ≠ other.name) : rule ≠ other :=
  fun same => apart (congrArg name same)

/-- Enumerations mention none of the words of the rules before. -/
theorem eq_enumeration_iff {definition : String} : ofDefinition definition = enumeration ↔
    Mentions "ENUM" definition.toList ∧ ¬ MentionsAny typedWords definition.toList := by
  have longer : Mentions "DATETIME" definition.toList → Mentions "DATE" definition.toList :=
    mentions_date
  have apart : integer ≠ enumeration ∧ number ≠ enumeration ∧ date ≠ enumeration ∧
      dateTime ≠ enumeration ∧ text ≠ enumeration ∧ char ≠ enumeration ∧ fallback ≠ enumeration := by
    refine ⟨?_, ?_, ?_, ?_, ?_, ?_, ?_⟩ <;> exact ne_of_name_ne (by decide)
  rw [mentionsAny_typedWords, ofDefinition_eq, numericWords]
  split_ifs <;> simp_all
  grind

end TypeRule

namespace FieldType

open TypeRule (numberWords numericWords typedWords mentions_date mentionsAny_typedWords)

variable {definition : String}

theorem ofDefinition_eq (definition : String) : ofDefinition definition =
    if MentionsAny ["INT"] definition.toList then TypeRule.integer.type
    else if MentionsAny numberWords definition.toList then TypeRule.number.type
    else if Mentions "DATE" definition.toList ∧ ¬ Mentions "DATETIME" definition.toList then
      TypeRule.date.type
    else if MentionsAny ["DATETIME", "TIMESTAMP"] definition.toList then TypeRule.dateTime.type
    else TypeRule.fallback.type := by
  rw [ofDefinition, TypeRule.ofDefinition_eq]
  split_ifs <;> rfl

/-- The type of a text is told by its words. -/
theorem ofDefinition_congr {other : String}
    (same : ∀ word, IsMarker word → (Mentions word definition.toList ↔ Mentions word other.toList)) :
    ofDefinition definition = ofDefinition other := by
  have several (words : List String) (markers : ∀ word ∈ words, IsMarker word) :
      MentionsAny words definition.toList ↔ MentionsAny words other.toList :=
    exists_congr fun word => and_congr_right fun member => same word (markers word member)
  rw [ofDefinition_eq, ofDefinition_eq]
  simp only [several ["INT"] (by decide), several numberWords (by decide),
    same "DATE" (by decide), same "DATETIME" (by decide),
    several ["DATETIME", "TIMESTAMP"] (by decide)]

theorem ofDefinition_cases (definition : String) :
    ofDefinition definition = TypeRule.integer.type ∨
      ofDefinition definition = TypeRule.number.type ∨
      ofDefinition definition = TypeRule.date.type ∨
      ofDefinition definition = TypeRule.dateTime.type ∨
      ofDefinition definition = TypeRule.fallback.type := by
  rw [ofDefinition_eq]
  split_ifs <;> simp

theorem types_apart : [TypeRule.integer.type, TypeRule.number.type, TypeRule.date.type,
    TypeRule.dateTime.type, TypeRule.fallback.type].Nodup := by decide

theorem eq_integer_iff :
    ofDefinition definition = TypeRule.integer.type ↔ Mentions "INT" definition.toList := by
  have apart := types_apart
  rw [ofDefinition_eq]
  split_ifs <;> simp_all [eq_comm]

theorem eq_number_iff : ofDefinition definition = TypeRule.number.type ↔
    ¬ Mentions "INT" definition.toList ∧ MentionsAny numberWords definition.toList := by
  have apart := types_apart
  rw [ofDefinition_eq]
  split_ifs <;> simp_all [eq_comm]

theorem eq_date_iff : ofDefinition definition = TypeRule.date.type ↔
    ¬ MentionsAny numericWords definition.toList ∧
      Mentions "DATE" definition.toList ∧ ¬ Mentions "DATETIME" definition.toList := by
  have apart := types_apart
  rw [ofDefinition_eq, numericWords]
  split_ifs <;> simp_all [eq_comm]

theorem eq_dateTime_iff : ofDefinition definition = TypeRule.dateTime.type ↔
    ¬ MentionsAny numericWords definition.toList ∧
      (Mentions "DATETIME" definition.toList ∨
        Mentions "TIMESTAMP" definition.toList ∧ ¬ Mentions "DATE" definition.toList) := by
  have apart := types_apart
  rw [ofDefinition_eq, numericWords]
  split_ifs <;> simp_all [eq_comm]
  grind

theorem eq_fallback_iff : ofDefinition definition = TypeRule.fallback.type ↔
    ¬ MentionsAny typedWords definition.toList := by
  have longer : Mentions "DATETIME" definition.toList → Mentions "DATE" definition.toList :=
    mentions_date
  have apart := types_apart
  rw [mentionsAny_typedWords, ofDefinition_eq, numericWords]
  split_ifs <;> simp_all [eq_comm]
  grind

end FieldType
end SchemaScaffold
