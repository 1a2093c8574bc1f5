import SchemaScaffold.Text.Digits

/-!
# Plain scalars

What a scalar without quotes denotes: nothing, a truth value, a number, or the text itself.
-/

namespace SchemaScaffold
namespace Yaml
namespace Plain

open Text (ofDigits?)

def isNull (text : List Char) : Bool :=
  text == "null".toList || text == "Null".toList || text == "NULL".toList || text == ['~']

def bool? (text : List Char) : Option Bool :=
  if text == "true".toList || text == "True".toList || text == "TRUE".toList then some true
  else if text == "false".toList || text == "False".toList || text == "FALSE".toList then
    some false
  else none

def hasSign : List Char → Bool
  | c :: _ => c == '+' || c == '-'
  | [] => false

/-- A text without one sign in front. -/
def dropSign (text : List Char) : List Char :=
  if hasSign text then text.drop 1 else text

/-- A text without one plus in front. -/
def dropPlus : List Char → List Char
  | '+' :: rest => rest
  | text => text

/-- Two or more digits that begin with a zero are a text, though they look like a number. -/
def isZeroPadded (text : List Char) : Bool :=
  match dropSign text with
  | '0' :: c :: rest => (c :: rest).all Char.isDigit
  | _ => false

/-- The base that the opening `0x`, `0o` or `0b` announces, and the digits behind it. -/
def announcedBase : List Char → Option (Nat × List Char)
  | '0' :: 'x' :: rest => some (16, rest)
  | '0' :: 'o' :: rest => some (8, rest)
  | '0' :: 'b' :: rest => some (2, rest)
  | _ => none

/-- A number below `limit` without a minus. -/
def unsigned? (limit : Nat) (text : List Char) : Option Nat :=
  let unsigned := dropPlus text
  if hasSign unsigned || isZeroPadded text then none
  else
    let value := match announcedBase unsigned with
      | some (base, digits) => ofDigits? base digits
      | none => ofDigits? 10 unsigned
    value.filter (· < limit)

/-- The size of a number down to minus `limit` with a minus. -/
def negative? (limit : Nat) : List Char → Option Nat
  | '-' :: rest =>
    if isZeroPadded rest then none
    else
      let value := match announcedBase rest with
        | some (base, digits) => ofDigits? base digits
        | none => ofDigits? 10 rest
      value.filter (· ≤ limit)
  | _ => none

/-- An integer that fits into 128 bits. -/
def integer? (text : List Char) : Option Int :=
  match unsigned? (Nat.pow 2 128) text with
  | some value => some (Int.ofNat value)
  | none => (negative? (Nat.pow 2 127) text).map fun size => -Int.ofNat size

/-- A decimal fraction: `digits` times ten to the power `exponent`. -/
structure Decimal where
  digits : List Char
  exponent : Int

/-- Read an optional exponent that ends the text. -/
def exponent? : List Char → Option Int
  | [] => some 0
  | c :: rest =>
    if c == 'e' || c == 'E' then
      (ofDigits? 10 (dropSign rest)).map fun size =>
        if rest.head? == some '-' then -Int.ofNat size else Int.ofNat size
    else none

/-- Digits with at most one point among them, then an optional exponent. -/
def decimal? (text : List Char) : Option Decimal :=
  let whole := text.takeWhile Char.isDigit
  let afterWhole := text.dropWhile Char.isDigit
  let (fraction, rest) := match afterWhole with
    | '.' :: tail => (tail.takeWhile Char.isDigit, tail.dropWhile Char.isDigit)
    | _ => ([], afterWhole)
  if whole.isEmpty && fraction.isEmpty then none
  else (exponent? rest).map fun exponent =>
    ⟨whole ++ fraction, exponent - Int.ofNat fraction.length⟩

/-- The least number that a double rounds to infinity: half a unit in the last place above the
largest finite one. -/
def infinityBound : Nat :=
  Nat.pow 2 1024 - Nat.pow 2 970

/-- Whether the double nearest to a decimal fraction is finite. The number of digits decides
unless it is near that of the bound. -/
def Decimal.isFinite (decimal : Decimal) : Bool :=
  let significant := decimal.digits.dropWhile (· == '0')
  let magnitude := Int.ofNat significant.length + decimal.exponent
  if significant.isEmpty || magnitude < 309 then true
  else if 309 < magnitude then false
  else
    let value := (ofDigits? 10 significant).getD 0
    if 0 ≤ decimal.exponent then
      value * Nat.pow 10 decimal.exponent.toNat < infinityBound
    else value < infinityBound * Nat.pow 10 (-decimal.exponent).toNat

/-- The names of the infinities and of the missing number. -/
def isSpecialFloat (text : List Char) : Bool :=
  let infinity (word : List Char) : Bool :=
    word == ".inf".toList || word == ".Inf".toList || word == ".INF".toList
  infinity (dropSign text) ||
    text == ".nan".toList || text == ".NaN".toList || text == ".NAN".toList

/-- A number that a double can hold. -/
def isFloat (text : List Char) : Bool :=
  isSpecialFloat text ||
    (!isZeroPadded text &&
      match decimal? (dropSign text) with
      | some decimal => decimal.isFinite
      | none => false)

/-- Whether a plain scalar would denote something else than its text, or look like a number. -/
def isAmbiguous (text : List Char) : Bool :=
  text.isEmpty || isNull text || (bool? text).isSome || (integer? text).isSome ||
    isFloat text || isZeroPadded text

/-- What a plain scalar denotes. -/
inductive Meaning where
  | null
  | bool (value : Bool)
  | integer (value : Int)
  | float
  | text
deriving DecidableEq, Repr

/-- What a scalar without quotes denotes. -/
def meaning (text : List Char) : Meaning :=
  if text.isEmpty || isNull text then .null
  else
    match bool? text with
    | some value => .bool value
    | none =>
      match integer? text with
      | some value => .integer value
      | none => if isFloat text then .float else .text

/-- A scalar that is not ambiguous denotes its text. -/
theorem meaning_of_not_isAmbiguous {text : List Char}
    (plain : isAmbiguous text = false) : meaning text = .text := by
  simp only [isAmbiguous, Bool.or_eq_false_iff] at plain
  obtain ⟨⟨⟨⟨⟨nonempty, notNull⟩, notBool⟩, notInteger⟩, notFloat⟩, _⟩ := plain
  have noBool : bool? text = none := by simpa using notBool
  have noInteger : integer? text = none := by simpa using notInteger
  simp [meaning, nonempty, notNull, noBool, noInteger, notFloat]

end Plain
end Yaml
end SchemaScaffold
