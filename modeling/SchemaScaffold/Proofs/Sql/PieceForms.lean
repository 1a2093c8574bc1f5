import Mathlib.Computability.Language
import Mathlib.Data.List.TakeWhile
import SchemaScaffold.Proofs.Sql.Creation

/-!
# Forms of pieces

The pieces of statements and of column lines as languages, which are put together like the texts
they describe: words in any case, blanks, backticks. A reader takes a text of its form off the
front and leaves what is behind it.
-/

namespace SchemaScaffold
namespace Sql

open Text

/-- A word in any case of its letters, given in capitals. -/
def wordForm (word : String) : Language Char :=
  {text | List.Forall₂ (fun capital c => isLetter capital c = true) word.toList text}

/-- Blanks or nothing. -/
def gapForm : Language Char :=
  {text | isAllBlank text = true}

/-- At least one blank. -/
def spaceForm : Language Char :=
  {text | text ≠ [] ∧ isAllBlank text = true}

/-- A backtick or nothing. -/
def tickForm : Language Char :=
  {text | text = [] ∨ text = ['\x60']}

theorem mem_gapForm {text : List Char} : text ∈ gapForm ↔ isAllBlank text = true := Iff.rfl

theorem mem_singleton {own text : List Char} : own ∈ ({text} : Language Char) ↔ own = text := Iff.rfl

/-- The first character of a text, if there is one, is no blank. -/
def StartsVisibly (text : List Char) : Prop :=
  ∀ c, text.head? = some c → isBlank c = false

theorem startsVisibly_cons {c : Char} {rest : List Char} :
    StartsVisibly (c :: rest) ↔ isBlank c = false := by
  simp [StartsVisibly]

theorem startsVisibly_trimLeft (text : List Char) : StartsVisibly (trimLeft text) := by
  intro c first
  have other := List.head?_dropWhile_not isBlank text
  rw [trimLeft] at first
  rw [first] at other
  simpa using other

theorem StartsVisibly.trimLeft_eq {text : List Char} (visible : StartsVisibly text) :
    trimLeft text = text := by
  cases text with
  | nil => rfl
  | cons c rest => exact trimLeft_cons (startsVisibly_cons.1 visible) rest

theorem isNameChar_of_isLetter {capital c : Char} (letter : isLetter capital c = true)
    (isCapital : capital.isUpper = true) : isNameChar c = true := by
  simp only [isLetter, Bool.or_eq_true, Bool.and_eq_true, beq_iff_eq] at letter
  rcases letter with (same | ⟨-, rfl⟩) | ⟨-, rfl⟩
  · exact isNameChar_of_toUpper same isCapital
  · rfl
  · rfl

/-- A word starts with a letter. -/
theorem startsVisibly_of_mem_wordForm {word : String}
    (capitals : (word.toList.head?.any Char.isUpper) = true) {own : List Char}
    (isOwn : own ∈ wordForm word) (rest : List Char) : StartsVisibly (own ++ rest) := by
  have letters : List.Forall₂ (fun capital c => isLetter capital c = true) word.toList own := isOwn
  cases shape : word.toList with
  | nil => simp [shape] at capitals
  | cons capital others =>
    rw [shape] at letters capitals
    obtain ⟨c, more, letter, -, rfl⟩ := List.forall₂_cons_left_iff.1 letters
    rw [List.cons_append, startsVisibly_cons]
    exact isBlank_eq_false_of_nameChar (isNameChar_of_isLetter letter (by simpa using capitals))

/-- Whatever a reader takes off the front is of the form, and a text of the form is taken off if
what is behind it allows that. -/
structure Takes (form : Language Char) (allows : List Char → Prop)
    (read : List Char → Option (List Char)) : Prop where
  sound {text rest : List Char} (found : read text = some rest) : ∃ own ∈ form, own ++ rest = text
  complete {own rest : List Char} (isOwn : own ∈ form) (fits : allows rest) :
    read (own ++ rest) = some rest

/-- What is taken off the front of a text is of the form. -/
theorem Takes.mem {form : Language Char} {allows : List Char → Prop}
    {read : List Char → Option (List Char)} (takes : Takes form allows read) {own rest : List Char}
    (found : read (own ++ rest) = some rest) : own ∈ form := by
  obtain ⟨front, isFront, whole⟩ := takes.sound found
  obtain rfl := List.append_cancel_right whole
  exact isFront

/-- Two readers one after the other take a text of both forms. -/
theorem Takes.bind {form other : Language Char} {allows further : List Char → Prop}
    {read next : List Char → Option (List Char)} (first : Takes form allows read)
    (second : Takes other further next)
    (meets : ∀ own ∈ other, ∀ rest, further rest → allows (own ++ rest)) :
    Takes (form * other) further fun text => (read text).bind next where
  sound found := by
    obtain ⟨middle, early, late⟩ := Option.bind_eq_some_iff.1 found
    obtain ⟨own, isOwn, rfl⟩ := first.sound early
    obtain ⟨more, isMore, rfl⟩ := second.sound late
    exact ⟨own ++ more, Language.append_mem_mul isOwn isMore, List.append_assoc own more _⟩
  complete isOwn fits := by
    obtain ⟨front, isFront, more, isMore, rfl⟩ := Language.mem_mul.1 isOwn
    rw [List.append_assoc, first.complete isFront (meets more isMore _ fits), Option.bind_some]
    exact second.complete isMore fits

theorem keyword_eq_some_iff {word text rest : List Char} : keyword word text = some rest ↔
    ∃ own, List.Forall₂ (fun capital c => isLetter capital c = true) word own ∧
      own ++ rest = text := by
  induction word generalizing text with
  | nil => simp [keyword, @eq_comm _ rest]
  | cons capital capitals ih =>
    cases text with
    | nil => simp [keyword, List.forall₂_cons_left_iff]
    | cons c tail =>
      by_cases letter : isLetter capital c = true
      · rw [keyword, if_pos letter, ih]
        constructor
        · rintro ⟨own, letters, rfl⟩
          exact ⟨c :: own, .cons letter letters, rfl⟩
        · rintro ⟨own, letters, whole⟩
          obtain ⟨d, more, -, others, rfl⟩ := List.forall₂_cons_left_iff.1 letters
          exact ⟨more, others, (List.cons_eq_cons.1 whole).2⟩
      · rw [keyword, if_neg letter]
        refine ⟨fun none => by simp at none, ?_⟩
        rintro ⟨own, letters, whole⟩
        obtain ⟨d, more, first, -, rfl⟩ := List.forall₂_cons_left_iff.1 letters
        obtain rfl := (List.cons_eq_cons.1 whole).1
        exact absurd first letter

theorem takes_keyword (word : String) :
    Takes (wordForm word) (fun _ => True) (keyword word.toList) where
  sound found := keyword_eq_some_iff.1 found
  complete isOwn _ := keyword_eq_some_iff.2 ⟨_, isOwn, rfl⟩

theorem takes_trimLeft : Takes gapForm StartsVisibly (fun text => some (trimLeft text)) where
  sound {text rest} found := by
    obtain rfl := Option.some.inj found
    obtain ⟨blank, isGap, whole⟩ := exists_blank_append_trimLeft text
    exact ⟨blank, isGap, whole.symm⟩
  complete isOwn visible := by
    rw [trimLeft_append_of_blank isOwn, visible.trimLeft_eq]

theorem takes_blanks : Takes spaceForm StartsVisibly blanks where
  sound {text rest} found := by
    obtain ⟨c, more, rfl, blank, rfl⟩ := exists_of_blanks_eq_some found
    refine ⟨(c :: more).takeWhile isBlank, ⟨?_, List.all_takeWhile⟩,
      List.takeWhile_append_dropWhile⟩
    simp [blank]
  complete {own rest} isOwn visible := by
    obtain ⟨nonempty, isGap⟩ := isOwn
    obtain ⟨c, more, rfl⟩ := List.exists_cons_of_ne_nil nonempty
    obtain ⟨blank, others⟩ : isBlank c = true ∧ isAllBlank more = true := by
      simpa [isAllBlank] using isGap
    rw [List.cons_append, blanks, if_pos blank, trimLeft_append_of_blank others,
      visible.trimLeft_eq]

theorem takes_skipBacktick :
    Takes tickForm (fun rest => rest.head? ≠ some '\x60') (fun text => some (skipBacktick text)) where
  sound {text rest} found := by
    obtain rfl := Option.some.inj found
    cases text with
    | nil => exact ⟨[], .inl rfl, rfl⟩
    | cons c rest =>
      by_cases tick : c = '\x60'
      · exact ⟨['\x60'], .inr rfl, by simp [skipBacktick, tick]⟩
      · exact ⟨[], .inl rfl, by simp [skipBacktick, tick]⟩
  complete {own rest} isOwn other := by
    rcases isOwn with rfl | rfl
    · cases rest with
      | nil => rfl
      | cons c more => simp_all [skipBacktick]
    · simp [skipBacktick]

theorem exists_tick_append (text : List Char) :
    ∃ tick ∈ tickForm, tick ++ skipBacktick text = text :=
  takes_skipBacktick.sound rfl

/-- A word behind blanks. -/
def spacedForm (word : String) : Language Char :=
  spaceForm * wordForm word

theorem takes_spacedKeyword {word : String}
    (capitals : (word.toList.head?.any Char.isUpper) = true) :
    Takes (spacedForm word) (fun _ => True) (spacedKeyword word) :=
  takes_blanks.bind (takes_keyword word) fun _ isOwn rest _ =>
    startsVisibly_of_mem_wordForm capitals isOwn rest

/-- A run is read up to a character of another class or to the end. -/
theorem run_of_ends {member : Char → Bool} {name behind : List Char} (nonempty : name ≠ [])
    (all : ∀ d ∈ name, member d = true) (ends : ∀ c, behind.head? = some c → member c = false) :
    run member (name ++ behind) = some (name, behind) := by
  cases behind with
  | cons c rest => exact run_append nonempty all (ends c rfl) rest
  | nil =>
    have taken : name.takeWhile member = name := List.takeWhile_eq_self_iff.2 all
    have dropped : name.dropWhile member = [] := List.dropWhile_eq_nil_iff.2 all
    obtain ⟨first, others, rfl⟩ := List.exists_cons_of_ne_nil nonempty
    simp only [run, List.append_nil, taken, dropped]

end Sql
end SchemaScaffold
