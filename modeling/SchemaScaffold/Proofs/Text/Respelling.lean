import SchemaScaffold.Proofs.Text.Scanning
import SchemaScaffold.Proofs.Text.Trimming

/-!
# Other spellings of a text

A text is spelled another way if each of its characters is exchanged and more blanks are put behind
some of its blanks. What a reader finds in the other spelling is the other spelling of what it
finds, and so is what a scan finds.
-/

namespace SchemaScaffold
namespace Text

variable {α β γ : Type}

/-- A matcher reads nothing at blanks. -/
def SkipsBlanks (read : Matcher α) : Prop :=
  ∀ c rest, isBlank c = true → read (c :: rest) = none

/-- What is left once a matcher has read something is the end of what was behind the first
character. -/
def LeavesEnd (read : Matcher α) : Prop :=
  ∀ c rest a after, read (c :: rest) = some (a, after) → after <:+ rest

theorem scan_append_of_blank {read : Matcher α} (skips : SkipsBlanks read) {blank : List Char}
    (isGap : isAllBlank blank = true) (text : List Char) :
    scan read (blank ++ text) = scan read text := by
  refine scan_append_of_none fun front c back shape => skips c _ ?_
  exact List.all_eq_true.1 isGap c (by simp [shape])

theorem scan_of_leavesEnd {read : Matcher α} (leaves : LeavesEnd read) {c : Char}
    {rest after : List Char} {a : α} (reads : read (c :: rest) = some (a, after)) :
    scan read (c :: rest) = a :: scan read after := by
  obtain ⟨front, rfl⟩ := leaves c rest a after reads
  rw [scan_of_some reads]
  simp

theorem firstMatch_append_of_blank {read : Matcher α} (skips : SkipsBlanks read)
    {blank : List Char} (isGap : isAllBlank blank = true) (text : List Char) :
    firstMatch read (blank ++ text) = firstMatch read text := by
  rw [firstMatch_eq_head?, firstMatch_eq_head?, scan_append_of_blank skips isGap]

/-- A character in place of each character, with more blanks behind it only if it is a blank. -/
structure Respelling where
  first : Char → Char
  more : Char → List Char
  isBlank_first : ∀ c, isBlank (first c) = isBlank c
  isAllBlank_more : ∀ c, isAllBlank (more c) = true
  more_of_visible : ∀ c, isBlank c = false → more c = []

namespace Respelling

variable {spelling : Respelling}

/-- The text in its other spelling. -/
def apply (spelling : Respelling) (text : List Char) : List Char :=
  text.flatMap fun c => spelling.first c :: spelling.more c

@[simp] theorem apply_nil : spelling.apply [] = [] := rfl

theorem apply_cons (c : Char) (rest : List Char) :
    spelling.apply (c :: rest) = spelling.first c :: (spelling.more c ++ spelling.apply rest) :=
  rfl

theorem apply_cons_of_visible {c : Char} (visible : isBlank c = false) (rest : List Char) :
    spelling.apply (c :: rest) = spelling.first c :: spelling.apply rest := by
  rw [apply_cons, spelling.more_of_visible c visible, List.nil_append]

@[simp] theorem apply_append (left right : List Char) :
    spelling.apply (left ++ right) = spelling.apply left ++ spelling.apply right :=
  List.flatMap_append

/-- A text without blanks has as many characters in every spelling. -/
theorem apply_of_visible {text : List Char} (visible : ∀ c ∈ text, isBlank c = false) :
    spelling.apply text = text.map spelling.first := by
  induction text with
  | nil => rfl
  | cons c rest ih =>
    obtain ⟨own, others⟩ := List.forall_mem_cons.1 visible
    rw [apply_cons_of_visible own, ih others, List.map_cons]

/-- What is read in the other spelling of a text is what is read in the text, changed. -/
def Follows (spelling : Respelling) (change : β → β) (read : List Char → Option β) : Prop :=
  ∀ text, read (spelling.apply text) = (read text).map change

/-- Change a value, and spell what is left of a text the other way. -/
def found (spelling : Respelling) (change : α → α) (reading : α × List Char) : α × List Char :=
  (change reading.1, spelling.apply reading.2)

namespace Follows

variable {change : β → β} {further : γ → γ}

/-- A sequence of readers follows if its parts do. -/
theorem bind {read : List Char → Option β} {next : β → Option γ}
    (first : Follows spelling change read)
    (second : ∀ b, next (change b) = (next b).map further) :
    Follows spelling further fun text => (read text).bind next := by
  intro text
  dsimp only
  rw [first, Option.bind_map, Option.map_bind]
  exact congrArg _ (funext second)

theorem map {read : List Char → Option β} {convert : β → γ}
    (first : Follows spelling change read)
    (keeps : ∀ b, convert (change b) = further (convert b)) :
    Follows spelling further fun text => (read text).map convert := by
  intro text
  dsimp only
  rw [first, Option.map_map, Option.map_map]
  exact congrArg (Option.map · _) (funext keeps)

theorem or {read other : List Char → Option β} (first : Follows spelling change read)
    (second : Follows spelling change other) :
    Follows spelling change fun text => (read text).or (other text) := by
  intro text
  dsimp only
  rw [first, second]
  cases read text <;> rfl

end Follows

theorem trimLeft_apply (text : List Char) :
    trimLeft (spelling.apply text) = spelling.apply (trimLeft text) := by
  induction text with
  | nil => rfl
  | cons c rest ih =>
    have image := spelling.isBlank_first c
    cases visible : isBlank c with
    | false =>
      rw [visible] at image
      rw [apply_cons_of_visible visible, trimLeft_cons image, trimLeft_cons visible,
        apply_cons_of_visible visible]
    | true =>
      have gap : isAllBlank (spelling.first c :: spelling.more c) = true := by
        have more := spelling.isAllBlank_more c
        simp only [isAllBlank] at more ⊢
        rw [List.all_cons, image, visible, more]
        rfl
      have blank : isAllBlank [c] = true := by simp [isAllBlank, visible]
      have dropped : trimLeft (c :: rest) = trimLeft rest := trimLeft_append_of_blank blank rest
      rw [apply_cons, ← List.cons_append, trimLeft_append_of_blank gap, ih, dropped]

section Classes

variable {member : Char → Bool} (same : ∀ c, member (spelling.first c) = member c)
  (visible : ∀ c, member c = true → isBlank c = false)

include same visible

theorem takeWhile_apply (text : List Char) :
    (spelling.apply text).takeWhile member = spelling.apply (text.takeWhile member) := by
  induction text with
  | nil => rfl
  | cons c rest ih =>
    have own := same c
    cases inside : member c with
    | false =>
      rw [inside] at own
      simp [apply_cons, own, inside]
    | true =>
      rw [inside] at own
      rw [apply_cons_of_visible (visible c inside), List.takeWhile_cons_of_pos own, ih,
        List.takeWhile_cons_of_pos inside, apply_cons_of_visible (visible c inside)]

theorem dropWhile_apply (text : List Char) :
    (spelling.apply text).dropWhile member = spelling.apply (text.dropWhile member) := by
  induction text with
  | nil => rfl
  | cons c rest ih =>
    have own := same c
    cases inside : member c with
    | false =>
      rw [inside] at own
      simp [apply_cons, own, inside]
    | true =>
      rw [inside] at own
      rw [apply_cons_of_visible (visible c inside), List.dropWhile_cons_of_pos own, ih,
        List.dropWhile_cons_of_pos inside]

end Classes

theorem scan_apply {read : Matcher α} {change : α → α}
    (follows : Follows spelling (spelling.found change) read) (skips : SkipsBlanks read)
    (leaves : LeavesEnd read) (text : List Char) :
    scan read (spelling.apply text) = (scan read text).map change := by
  -- What is left behind a match is shorter by several characters.
  induction length : text.length using Nat.strongRecOn generalizing text with
  | ind size ih =>
    cases text with
    | nil => rfl
    | cons c rest =>
      have same := follows (c :: rest)
      rw [apply_cons] at same ⊢
      rw [List.length_cons] at length
      cases reads : read (c :: rest) with
      | none =>
        rw [reads] at same
        rw [scan_of_none same, scan_of_none reads,
          scan_append_of_blank skips (spelling.isAllBlank_more c), ih rest.length (by omega) rest rfl]
      | some reading =>
        obtain ⟨a, after⟩ := reading
        have shorter := (leaves c rest a after reads).length_le
        rw [reads] at same
        rw [scan_of_leavesEnd leaves same, scan_of_leavesEnd leaves reads, List.map_cons,
          ih after.length (by omega) after rfl]

theorem firstMatch_apply {read : Matcher α} {change : α → α}
    (follows : Follows spelling (spelling.found change) read) (skips : SkipsBlanks read)
    (text : List Char) :
    firstMatch read (spelling.apply text) = (firstMatch read text).map change := by
  induction text with
  | nil => rfl
  | cons c rest ih =>
    have same := follows (c :: rest)
    rw [apply_cons] at same ⊢
    rw [firstMatch, firstMatch, same,
      firstMatch_append_of_blank skips (spelling.isAllBlank_more c), ih]
    cases read (c :: rest) <;> rfl

end Respelling
end Text
end SchemaScaffold
