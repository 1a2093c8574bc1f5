import SchemaScaffold.Proofs.Text.Decimal
import SchemaScaffold.Proofs.Yaml.Printable
import SchemaScaffold.Yaml.Scalar.Bare

/-!
# Bare scalars read back

A text that can be written without quotes is read back, up to the end of its line or up to the
colon behind a key.
-/

namespace SchemaScaffold
namespace Yaml

open Style (hasIndicator hasInnerIndicator)

/-- A text that can be written without quotes: it is not taken for anything else than a scalar. -/
structure IsBare (text : List Char) : Prop where
  nonempty : text ≠ []
  noIndicator : hasIndicator text = false
  shown : ∀ c ∈ text, isPrintable c = true ∧ isBreak c = false
  first : text.head? ≠ some ' '
  last : text.getLast? ≠ some ' '

theorem IsBare.of_allowsPlain {text : List Char} (nonempty : text ≠ [])
    (allowed : Style.allowsPlain text = true) : IsBare text := by
  have whole : hasIndicator text = false ∧ (∀ c ∈ text, isPrintable c = true ∧ isBreak c = false) ∧
      text.head? ≠ some ' ' ∧ text.getLast? ≠ some ' ' := by
    simpa [Style.allowsPlain, nonempty, and_assoc] using allowed
  exact ⟨nonempty, whole.1, whole.2.1, whole.2.2.1, whole.2.2.2⟩

namespace Bare

variable {setting : Setting} {c : Char}

theorem startsBlank_append {rest : List Char} (inside : endsWord rest = false)
    (tail : List Char) : startsBlank (rest ++ tail) = false := by
  cases rest with
  | nil => simp [endsWord] at inside
  | cons d rest =>
    simp only [endsWord, Bool.or_eq_false_iff] at inside
    simp [startsBlank, isBlank, inside.1.1.1, inside.1.1.2, inside.2]

/-- The words of a text are read one after another, with the blanks before them. -/
theorem body_words (noFlow : setting.flow = false) {text : List Char} {gap : Gap} {column : Nat}
    (shown : ∀ c ∈ text, isPrintable c = true ∧ isBreak c = false) (noLines : gap.hasLines = false)
    (calm : hasInnerIndicator (gap != .none) text = false)
    (done : text = [] → gap = .none ∧ column = 0) (last : text.getLast? ≠ some ' ')
    (fuel : Nat) (tail : List Char) :
    body setting (text.length + fuel) gap column (text ++ tail) =
      (body setting fuel .none 0 tail).map fun (result, after) =>
        (⟨gap.fold ++ text ++ result.text, result.endsLine⟩, after) := by
  induction text generalizing gap column with
  | nil =>
    obtain ⟨rfl, rfl⟩ := done rfl
    simp only [List.length_nil, Nat.zero_add, List.nil_append, Gap.fold, List.append_nil]
    cases body setting fuel .none 0 tail <;> rfl
  | cons c rest ih =>
    obtain ⟨⟨cShown, noBreak⟩, restShown⟩ := List.forall_mem_cons.1 shown
    have restLast : rest.getLast? ≠ some ' ' := by
      cases rest with
      | nil => simp
      | cons d rest => simpa [List.getLast?_cons_cons] using last
    simp only [hasInnerIndicator, Bool.or_eq_false_iff] at calm
    obtain ⟨⟨noColon, noComment⟩, restCalm⟩ := calm
    rw [List.length_cons, Nat.add_right_comm, List.cons_append, body,
      lineBreak_cons_of_noBreak noBreak]
    by_cases space : c = ' '
    · subst space
      have blanks : (gap.addBlank ' ').hasLines = false ∧
          (gap.addBlank ' ').fold = gap.fold ++ [' '] ∧ (gap.addBlank ' ' != .none) = true := by
        cases gap <;> simp_all [Gap.addBlank, Gap.hasLines, Gap.fold]
      have more : rest ≠ [] := by
        rintro rfl
        simp at last
      have later := @ih (gap.addBlank ' ') (column + 1) restShown blanks.1
        (by rw [blanks.2.2]; exact restCalm) (fun empty => absurd empty more) restLast
      simp only [isBlank, beq_self_eq_true, Bool.true_or, ↓reduceIte, noLines, Bool.false_and,
        Bool.false_eq_true, later, blanks.2.1, List.append_assoc, List.singleton_append]
    · have noBlank := isBlank_eq_false cShown space
      have inWord : endsWord [c] = false := by
        have noNull : c ≠ '\x00' := by
          rintro rfl
          exact absurd cShown (by decide)
        simp only [isBlank, Bool.or_eq_false_iff] at noBlank
        simp [endsWord, noBlank, noNull, noBreak]
      rw [inWord] at restCalm
      have noStop : (gap != .none && decide (c = '#')) = false := by
        cases spaced : gap != .none <;> simp_all
      have noEnd : (c == ':' && startsBlank (rest ++ tail)) = false := by
        cases colon : c == ':' with
        | false => rfl
        | true => exact startsBlank_append (by simpa [colon] using noColon) tail
      have later := @ih .none 0 restShown rfl restCalm (fun _ => ⟨rfl, rfl⟩) restLast
      have noOdd : hasOddColon setting (c :: (rest ++ tail)) = false := by
        unfold hasOddColon
        split <;> simp_all
      simp only [noBlank, noLines, noStop, noOdd, endsAt, noEnd, noFlow, later, Bool.false_and,
        Bool.or_false, Bool.false_eq_true, ↓reduceIte]
      cases body setting fuel .none 0 tail <;> simp [Except.map, Gap.fold]

/-- A colon that ends a word ends the scalar. -/
theorem body_colon (noFlow : setting.flow = false) {rest : List Char}
    (blank : startsBlank rest = true) (fuel : Nat) :
    body setting (fuel + 1) .none 0 (':' :: rest) = .ok (⟨[], false⟩, ':' :: rest) := by
  have noOdd : hasOddColon setting (':' :: rest) = false := by
    unfold hasOddColon
    split <;> simp_all
  rw [body, lineBreak_cons_of_noBreak (by decide)]
  simp [isBlank, Gap.hasLines, noOdd, endsAt, blank]

theorem body_spaces (first others rest : List Char) (count column fuel : Nat) :
    body setting (count + fuel) (.lines first others) column (spaces count ++ rest) =
      body setting fuel (.lines first others) (column + count) rest := by
  induction count generalizing column with
  | zero => simp
  | succ count ih =>
    rw [spaces_succ, List.cons_append, Nat.add_right_comm, body,
      lineBreak_cons_of_noBreak not_isBreak_space, Nat.add_comm count 1, ← Nat.add_assoc, ← ih]
    simp [isBlank, Gap.addBlank]

/-- The scalar ends with its line if the next one is not indented enough. -/
theorem body_line (noFlow : setting.flow = false) {next : List Char} {column : Nat}
    (begins : BeginsToken next) (outside : next = [] ∨ column < setting.column) {fuel : Nat}
    (enough : column + 2 ≤ fuel) :
    body setting fuel .none 0 ('\n' :: (spaces column ++ next)) = .ok (⟨[], true⟩, next) := by
  obtain ⟨more, rfl⟩ := Nat.exists_eq_add_of_le' enough
  have feed : lineBreak ('\n' :: (spaces column ++ next)) = some ('\n', spaces column ++ next) :=
    lineBreak_cons_of_isBreak (by decide) (by decide) _
  rw [show more + (column + 2) = (column + (more + 1)) + 1 by omega, body, feed]
  simp only [Gap.addBreak]
  rw [body_spaces]
  cases next with
  | nil => simp [body, Gap.hasLines]
  | cons c rest =>
    have outside : column < setting.column := outside.resolve_left (by simp)
    rw [body, lineBreak_cons_of_noBreak begins.2.1]
    simp [begins.1, Gap.hasLines, noFlow, outside]

theorem body_isBare (noFlow : setting.flow = false) {text : List Char} (bare : IsBare text)
    (fuel : Nat) (tail : List Char) :
    body setting (text.length + fuel) .none 0 (text ++ tail) =
      (body setting fuel .none 0 tail).map fun (result, after) =>
        (⟨text ++ result.text, result.endsLine⟩, after) := by
  have calm : hasInnerIndicator false text = false := by
    have noIndicator := bare.noIndicator
    cases text with
    | nil => rfl
    | cons c rest =>
      simp only [hasIndicator, Bool.or_eq_false_iff] at noIndicator
      obtain ⟨-, ⟨-, noMark⟩, noInner⟩ := noIndicator
      have noColon : (c == ':' && endsWord rest) = false := by
        cases colon : c == ':' <;> simp_all
      simp [hasInnerIndicator, noColon, noInner]
  exact @body_words setting noFlow text .none 0 bare.shown rfl calm
    (fun empty => absurd empty bare.nonempty) bare.last fuel tail

/-- A key is read up to its colon. -/
theorem read_key (noFlow : setting.flow = false) {text rest : List Char} (bare : IsBare text)
    (blank : startsBlank rest = true) :
    read setting (text ++ ':' :: rest) = .ok (⟨text, false⟩, ':' :: rest) := by
  rw [read, List.length_append, Nat.add_assoc, body_isBare noFlow bare, body_colon noFlow blank]
  simp [Except.map]

/-- A value is read up to the token in the next line. -/
theorem read_line (noFlow : setting.flow = false) {text next : List Char} {column : Nat}
    (bare : IsBare text) (begins : BeginsToken next)
    (outside : next = [] ∨ column < setting.column) :
    read setting (text ++ '\n' :: (spaces column ++ next)) = .ok (⟨text, true⟩, next) := by
  rw [read, List.length_append, Nat.add_assoc, body_isBare noFlow bare,
    body_line noFlow begins outside (by simp)]
  simp [Except.map]

end Bare
end Yaml
end SchemaScaffold
