import SchemaScaffold.Yaml.Printer
import SchemaScaffold.Yaml.Scalar.Basic

/-!
# Characters that are shown

What readers of scalars do with the characters that a scalar may show unescaped. The only blanks
among them are spaces, and their breaks are single characters that are kept as they are.
-/

namespace SchemaScaffold
namespace Yaml

variable {c : Char}

/-- What is decided for each character of a text holds for all of them. -/
theorem forall_mem_of_all {property : Char → Prop} [DecidablePred property] {text : List Char}
    (each : text.all (fun c => decide (property c)) = true) : ∀ c ∈ text, property c := by
  simpa using each

theorem lineBreak_cons_of_noBreak (noBreak : isBreak c = false) (rest : List Char) :
    lineBreak (c :: rest) = none := by
  have noReturn : c ≠ '\r' := by
    rintro rfl
    exact absurd noBreak (by decide)
  unfold lineBreak
  split
  · next same => exact absurd (List.cons.inj same).1 noReturn
  · next same =>
    obtain ⟨rfl, rfl⟩ := List.cons.inj same
    simp [noBreak]
  · rfl

/-- The breaks that are shown: a line feed, and the separators of lines and paragraphs. -/
theorem eq_of_isBreak (shown : isPrintable c = true) (breaks : isBreak c = true) :
    c = '\n' ∨ c = '\u2028' ∨ c = '\u2029' := by
  simp only [isBreak, Bool.or_eq_true, beq_iff_eq] at breaks
  rcases breaks with (((rfl | rfl) | rfl) | rfl) | rfl
  · exact .inl rfl
  · exact absurd shown (by decide)
  · exact absurd shown (by decide)
  · exact .inr (.inl rfl)
  · exact .inr (.inr rfl)

theorem lineBreak_cons_of_isBreak (shown : isPrintable c = true) (breaks : isBreak c = true)
    (rest : List Char) : lineBreak (c :: rest) = some (c, rest) := by
  rcases eq_of_isBreak shown breaks with rfl | rfl | rfl <;>
    simp [lineBreak, isBreak, keptBreak]

theorem ne_return_of_isPrintable (shown : isPrintable c = true) : c ≠ '\r' := by
  rintro rfl
  exact absurd shown (by decide)

theorem isBlank_of_isPrintable (shown : isPrintable c = true) :
    isBlank c = true ↔ c = ' ' := by
  have noTab : c ≠ '\t' := by
    rintro rfl
    exact absurd shown (by decide)
  simp [isBlank, noTab]

theorem not_isBreak_space : isBreak ' ' = false := by
  decide

theorem isBlank_eq_false (shown : isPrintable c = true) (word : c ≠ ' ') : isBlank c = false := by
  rw [Bool.eq_false_iff, Ne, isBlank_of_isPrintable shown]
  exact word

/-- A text is at its end, or begins with a character that begins a token. -/
def BeginsToken : List Char → Prop
  | [] => True
  | c :: _ => isBlank c = false ∧ isBreak c = false ∧ c ≠ '#'

/-- The line break that a piece of text needs to end its line. -/
def closing (piece : List Char) : List Char :=
  if endsLine piece then [] else ['\n']

theorem closing_concat (front : List Char) (c : Char) :
    closing (front ++ [c]) = if isBreak c then [] else ['\n'] := by
  simp [closing, endsLine]

@[simp] theorem spaces_zero : spaces 0 = [] := rfl

theorem spaces_succ (column : Nat) : spaces (column + 1) = ' ' :: spaces column := rfl

@[simp] theorem length_spaces (column : Nat) : (spaces column).length = column :=
  List.length_replicate

end Yaml
end SchemaScaffold
