/-!
# Digits

Natural numbers as digits of a base: reading them, and writing them in base ten or sixteen.
-/

namespace SchemaScaffold
namespace Text

/-- The value of a digit of a base up to sixteen. -/
def digitValue (base : Nat) (c : Char) : Option Nat :=
  let value :=
    if c.isDigit then c.toNat - 48
    else if 'a' ≤ c && c ≤ 'f' then c.toNat - 87
    else if 'A' ≤ c && c ≤ 'F' then c.toNat - 55
    else base
  if value < base then some value else none

/-- The number that digits denote, most significant first. -/
def ofDigits? (base : Nat) (digits : List Char) : Option Nat :=
  if digits.isEmpty then none
  else digits.foldlM (fun value c => (digitValue base c).map (base * value + ·)) 0

/-- Decimal digits of a number. -/
def decimal (number : Nat) : List Char :=
  Nat.toDigits 10 number

/-- Digits of base sixteen in capitals, at least `width` of them. -/
def hexCapitals (width number : Nat) : List Char :=
  let digits := (Nat.toDigits 16 number).map Char.toUpper
  List.replicate (width - digits.length) '0' ++ digits

theorem digitValue_lt {base value : Nat} {c : Char} (found : digitValue base c = some value) :
    value < base := by
  simp only [digitValue, Option.ite_none_right_eq_some, Option.some.injEq] at found
  exact found.2 ▸ found.1

end Text
end SchemaScaffold
