import SchemaScaffold.Text.Search

/-!
# Punycode

Texts of any characters written in ASCII letters, digits and hyphens. The ASCII characters
come first; behind the last hyphen, the others follow in the order of their code points as
distances, each written in digits of base 36 whose weights adapt to the distances so far.
-/

namespace SchemaScaffold
namespace Url
namespace Punycode

/-- The bias before the first number. -/
def initialBias : Nat := 72

/-- The first code point that is not written as itself. -/
def firstPoint : Nat := 0x80

/-- A digit that is lower than the threshold at its place ends a number. -/
def threshold (place bias : Nat) : Nat :=
  if place ≤ bias then 1 else if bias + 26 ≤ place then 26 else place - bias

/-- The bias that suits numbers of the size of `delta`. -/
def scaledBias (delta offset : Nat) : Nat :=
  if delta > 455 then scaledBias (delta / 35) (offset + 36)
  else offset + 36 * delta / (delta + 38)
termination_by delta
decreasing_by exact Nat.div_lt_self (by omega) (by omega)

/-- The bias behind a distance, in a text of `length` characters so far. -/
def adapt (delta length : Nat) (isFirst : Bool) : Nat :=
  let damped := if isFirst then delta / 700 else delta / 2
  scaledBias (damped + damped / length) 0

/-- The character for a digit. -/
def digit (value : Nat) : Char :=
  if value < 26 then Char.ofNat (0x61 + value) else Char.ofNat (0x30 + (value - 26))

/-- The value of a digit in a text of small letters. -/
def digitValue? (c : Char) : Option Nat :=
  if 'a' ≤ c && c ≤ 'z' then some (c.toNat - 0x61)
  else if c.isDigit then some (c.toNat - 0x30 + 26)
  else none

theorem threshold_pos (place bias : Nat) : 0 < threshold place bias := by
  unfold threshold
  split
  · omega
  · split <;> omega

theorem threshold_le (place bias : Nat) : threshold place bias ≤ 26 := by
  unfold threshold
  split
  · omega
  · split <;> omega

/-- A number from its digit at a place on. -/
def digits (bias place number : Nat) : List Char :=
  let least := threshold place bias
  if number < least then [digit number]
  else
    digit (least + (number - least) % (36 - least)) ::
      digits bias (place + 36) ((number - least) / (36 - least))
termination_by number
decreasing_by
  have positive := threshold_pos place bias
  have bounded := threshold_le place bias
  exact Nat.lt_of_le_of_lt (Nat.div_le_self _ _) (by omega)

/-- What is known while the characters that are not ASCII are written. -/
structure Encoder where
  delta : Nat := 0
  bias : Nat := initialBias
  /-- How many characters have been written. -/
  handled : Nat
  isFirst : Bool := true
  output : List Char := []

/-- Pass over a character on the way to the occurrences of a code point. -/
def Encoder.visit (point : Nat) (state : Encoder) (c : Char) : Encoder :=
  if c.toNat < point then { state with delta := state.delta + 1 }
  else if c.toNat = point then
    { delta := 0
      bias := adapt state.delta (state.handled + 1) state.isFirst
      handled := state.handled + 1
      isFirst := false
      output := state.output ++ digits state.bias 36 state.delta }
  else state

/-- Write the occurrences of the code points in ascending order; all below `next` are
written. -/
def Encoder.run (text : List Char) (state : Encoder) (next : Nat) : List Nat → List Char
  | [] => state.output
  | point :: points =>
    let start := { state with delta := state.delta + (point - next) * (state.handled + 1) }
    let after := text.foldl (Encoder.visit point) start
    run text { after with delta := after.delta + 1 } (point + 1) points

/-- Insert a code point into an ascending list that is to have it once. -/
def insertPoint (point : Nat) : List Nat → List Nat
  | [] => [point]
  | other :: rest =>
    if point < other then point :: other :: rest
    else if point = other then other :: rest
    else other :: insertPoint point rest

/-- Whether a character is written as itself. -/
def isBasic (c : Char) : Bool :=
  c.toNat < firstPoint

/-- Write a text. -/
def encode (text : List Char) : List Char :=
  let basic := text.filter isBasic
  let points := (text.filter (!isBasic ·)).foldr (insertPoint ·.toNat) []
  let start := if basic.isEmpty then [] else basic ++ ['-']
  start ++ Encoder.run text { handled := basic.length } firstPoint points

/-- What has been read: characters, and the number in which the reader stands. -/
structure Decoder where
  output : List Char
  point : Nat := firstPoint
  index : Nat := 0
  /-- The index before the number. -/
  origin : Nat := 0
  bias : Nat := initialBias
  place : Nat := 36
  weight : Nat := 1

/-- Put the character that a number leads to in its place. -/
def Decoder.insertion? (state : Decoder) (index : Nat) : Option Decoder :=
  let length := state.output.length + 1
  let point := state.point + index / length
  let position := index % length
  if point.isValidChar then
    some {
      output := state.output.take position ++ Char.ofNat point :: state.output.drop position
      point := point
      index := position + 1
      origin := position + 1
      bias := adapt (index - state.origin) length (state.origin == 0) }
  else none

/-- Read a digit. Numbers and weights stay below 2³². -/
def Decoder.step? (state : Decoder) (c : Char) : Option Decoder := do
  let value ← digitValue? c
  let index := state.index + value * state.weight
  let least := threshold state.place state.bias
  if Nat.pow 2 32 ≤ index then none
  else if value < least then state.insertion? index
  else if Nat.pow 2 32 ≤ state.weight * (36 - least) then none
  else
    return { state with
      index := index, place := state.place + 36, weight := state.weight * (36 - least) }

/-- The text before the last hyphen, which is not the first character, and the digits. -/
def splitBasic (text : List Char) : List Char × List Char :=
  let digitCount := (text.reverse.takeWhile (· != '-')).length
  let basicLength := text.length - digitCount - 1
  if basicLength = 0 then ([], text) else (text.take basicLength, text.drop (basicLength + 1))

/-- Read a text. -/
def decode? (text : List Char) : Option (List Char) := do
  let (basic, digits) := splitBasic text
  let state ← digits.foldlM Decoder.step? { output := basic }
  if state.place = 36 then return state.output else none

end Punycode
end Url
end SchemaScaffold
