import Mathlib.Algebra.Group.Nat.Defs
import SchemaScaffold.Text.Digits

/-!
# Decimal digits

The digits of a number are digits, at least one, and the first is a zero for zero alone. Digits
read back to the number that they were written for, in base ten and in capitals of base sixteen.
-/

namespace SchemaScaffold
namespace Text

theorem isDigit_of_mem_decimal {number : Nat} {c : Char} (member : c ∈ decimal number) :
    c.isDigit = true :=
  Nat.isDigit_of_mem_toDigits (by decide) (by decide) member

theorem decimal_ne_nil (number : Nat) : decimal number ≠ [] :=
  Nat.toDigits_ne_nil

@[simp] theorem decimal_zero : decimal 0 = ['0'] := rfl

/-- A number but zero has no zero in front. -/
theorem exists_decimal_eq_cons {number : Nat} (positive : 0 < number) :
    ∃ first rest, decimal number = first :: rest ∧ first ≠ '0' := by
  induction number using Nat.strongRecOn with
  | ind number ih =>
    by_cases small : number < 10
    · have digits : ∀ digit < 10, 0 < digit → Nat.digitChar digit ≠ '0' := by decide
      exact ⟨_, [], Nat.toDigits_of_lt_base small, digits number small positive⟩
    · obtain ⟨first, rest, front, other⟩ := ih (number / 10) (by omega) (by omega)
      refine ⟨first, rest ++ [Nat.digitChar (number % 10)], ?_, other⟩
      rw [decimal, Nat.toDigits_of_base_le (by decide) (by omega)]
      exact congrArg (· ++ [Nat.digitChar (number % 10)]) front

/-- Digits of any base stand for numbers below it. -/
theorem exists_of_mem_toDigits {base number : Nat} (positive : 1 < base) {c : Char}
    (member : c ∈ Nat.toDigits base number) : ∃ digit < base, c = Nat.digitChar digit := by
  induction number using Nat.strongRecOn with
  | ind number ih =>
    by_cases small : number < base
    · rw [Nat.toDigits_of_lt_base small, List.mem_singleton] at member
      exact ⟨number, small, member⟩
    · rw [Nat.toDigits_of_base_le positive (by omega), List.mem_append,
        List.mem_singleton] at member
      rcases member with front | rfl
      · exact ih _ (Nat.div_lt_self (by omega) positive) front
      · exact ⟨_, Nat.mod_lt number (by omega), rfl⟩

theorem mem_of_mem_hexCapitals {width number : Nat} {c : Char}
    (member : c ∈ hexCapitals width number) : c ∈ "0123456789ABCDEF".toList := by
  have capitals : ∀ digit < 16,
      (Nat.digitChar digit).toUpper ∈ "0123456789ABCDEF".toList := by decide
  rw [hexCapitals, List.mem_append] at member
  rcases member with zeros | digits
  · rw [List.eq_of_mem_replicate zeros]
    decide
  · obtain ⟨lower, inside, rfl⟩ := List.mem_map.1 digits
    obtain ⟨digit, small, rfl⟩ := exists_of_mem_toDigits (by decide) inside
    exact capitals digit small

/-- The digits of base ten. -/
theorem mem_of_isDigit {c : Char} (isDigit : c.isDigit = true) : c ∈ "0123456789".toList := by
  have digits : ∀ code < 58, 48 ≤ code → Char.ofNat code ∈ "0123456789".toList := by decide
  have bounds : 48 ≤ c.toNat ∧ c.toNat ≤ 57 := by
    simpa [Char.isDigit, UInt32.le_iff_toNat_le] using isDigit
  rw [← Char.ofNat_toNat c]
  exact digits c.toNat (by omega) bounds.1

/-- Digits in any guise in which their values are known read back. -/
theorem foldlM_toDigits {base : Nat} (positive : 1 < base) {guise : Char → Char}
    (known : ∀ digit < base, digitValue base (guise (Nat.digitChar digit)) = some digit)
    (number : Nat) :
    ((Nat.toDigits base number).map guise).foldlM
      (fun value c => (digitValue base c).map (base * value + ·)) 0 = some number := by
  induction number using Nat.strongRecOn with
  | ind number ih =>
    by_cases small : number < base
    · rw [Nat.toDigits_of_lt_base small]
      simp [known number small]
    · have less : number / base < number := Nat.div_lt_self (by omega) positive
      rw [Nat.toDigits_of_base_le positive (by omega), List.map_append, List.foldlM_append,
        ih _ less]
      simp [known _ (Nat.mod_lt number (by omega)), Nat.div_add_mod]

theorem ofDigits?_decimal (number : Nat) : ofDigits? 10 (decimal number) = some number := by
  have known : ∀ digit < 10, digitValue 10 (id (Nat.digitChar digit)) = some digit := by decide
  have read := foldlM_toDigits (by decide) known number
  rw [List.map_id] at read
  simp only [ofDigits?, List.isEmpty_iff, decimal_ne_nil, ↓reduceIte]
  exact read

theorem ofDigits?_hexCapitals (width number : Nat) :
    ofDigits? 16 (hexCapitals width number) = some number := by
  have known : ∀ digit < 16, digitValue 16 (Nat.digitChar digit).toUpper = some digit := by decide
  have read := foldlM_toDigits (by decide) known number
  have zeros : ∀ count, (List.replicate count '0').foldlM
      (fun value c => (digitValue 16 c).map (16 * value + ·)) 0 = some 0 := by
    intro count
    induction count with
    | zero => rfl
    | succ count ih => simpa [List.replicate_succ, digitValue] using ih
  have someDigits : hexCapitals width number ≠ [] := by
    simp [hexCapitals, Nat.toDigits_ne_nil]
  simp only [ofDigits?, List.isEmpty_iff, someDigits, ↓reduceIte]
  rw [hexCapitals, List.foldlM_append, zeros]
  exact read

theorem length_toDigits_le {base width : Nat} (positive : 1 < base) {number : Nat}
    (small : number < base ^ width) (given : 0 < width) :
    (Nat.toDigits base number).length ≤ width := by
  induction width generalizing number with
  | zero => omega
  | succ width ih =>
    by_cases digit : number < base
    · simp [Nat.toDigits_of_lt_base digit]
    · have less : number / base < base ^ width := by
        rw [Nat.div_lt_iff_lt_mul (by omega), ← Nat.pow_succ]
        exact small
      have more : 0 < width := by
        rcases Nat.eq_zero_or_pos width with rfl | more
        · simp at small
          omega
        · exact more
      rw [Nat.toDigits_of_base_le positive (by omega)]
      simpa using ih less more

theorem length_hexCapitals {width number : Nat} (small : number < 16 ^ width)
    (positive : 0 < width) : (hexCapitals width number).length = width := by
  have short := length_toDigits_le (by decide) small positive
  simp [hexCapitals]
  omega

end Text
end SchemaScaffold
