import SchemaScaffold.Text.Digits
import SchemaScaffold.Text.Search
import SchemaScaffold.Text.Split

/-!
# IPv6 addresses

Eight pieces of sixteen bits between colons. One run of zero pieces may be left out between two
colons, and the last two pieces may be written as an IPv4 address.
-/

namespace SchemaScaffold
namespace Url
namespace Ipv6

/-- One to four digits of base sixteen. -/
def piece? (group : List Char) : Option Nat :=
  if group.length ≤ 4 then Text.ofDigits? 16 group else none

/-- A decimal number below 256 without zeros in front. -/
def octet? (group : List Char) : Option Nat :=
  if group.length = 1 || group.head? ≠ some '0' then
    (Text.ofDigits? 10 group).filter (· < 256)
  else none

/-- The two pieces of an address in four decimal numbers. -/
def embedded? (group : List Char) : Option (List Nat) := do
  let [a, b, c, d] ← (Text.splitOn '.' group).mapM octet? | none
  return [a * 256 + b, c * 256 + d]

/-- The pieces of groups, of which the last may be an embedded address. -/
def pieces? : List (List Char) → Option (List Nat)
  | [] => some []
  | [last] => if last.contains '.' then embedded? last else (piece? last).map ([·])
  | group :: groups => do
    let piece ← piece? group
    return piece :: (← pieces? groups)

/-- The groups of a text between colons; the empty text has none. -/
def groups (text : List Char) : List (List Char) :=
  if text.isEmpty then [] else Text.splitOn ':' text

/-- The eight pieces of an address. -/
def ofText? (text : List Char) : Option (List Nat) :=
  match Text.splitAtFirst [':', ':'] text with
  | none => (pieces? (groups text)).filter (·.length = 8)
  | some (before, found) => do
    if before.contains '.' then none
    let left ← pieces? (groups before)
    let right ← pieces? (groups (found.drop 2))
    if 7 < left.length + right.length then none
    return left ++ List.replicate (8 - (left.length + right.length)) 0 ++ right

/-- The number of zeros at the start of pieces. -/
def leadingZeros (pieces : List Nat) : Nat :=
  (pieces.takeWhile (· == 0)).length

/-- Start and length of the first of the longest runs of zeros; `start` is the place of the
first piece. -/
def longestRun (start : Nat) : List Nat → Nat × Nat
  | [] => (start, 0)
  | piece :: pieces =>
    let here := leadingZeros (piece :: pieces)
    let later := longestRun (start + 1) pieces
    if later.2 ≤ here then (start, here) else later

/-- Pieces in base sixteen between colons. -/
def join (pieces : List Nat) : List Char :=
  Text.joinWith [':'] (pieces.map (Nat.toDigits 16))

/-- An address with its longest run of two or more zeros left out. -/
def text (pieces : List Nat) : List Char :=
  let (start, length) := longestRun 0 pieces
  if length < 2 then join pieces
  else join (pieces.take start) ++ [':', ':'] ++ join (pieces.drop (start + length))

end Ipv6
end Url
end SchemaScaffold
