import SchemaScaffold.Text.Digits
import SchemaScaffold.Text.Split

/-!
# IPv4 addresses

Up to four numbers between dots, each decimal, octal or hexadecimal. The last of them fills all
the octets that are left.
-/

namespace SchemaScaffold
namespace Url
namespace Ipv4

/-- A number, in base sixteen behind `0x` and in base eight behind a zero. -/
def number? : List Char → Option Nat
  | [] => none
  | '0' :: 'x' :: digits | '0' :: 'X' :: digits =>
    if digits.isEmpty then some 0 else Text.ofDigits? 16 digits
  | '0' :: digit :: digits => Text.ofDigits? 8 (digit :: digits)
  | digits => Text.ofDigits? 10 digits

/-- The parts of a host between dots, without an empty last one. -/
def parts (host : List Char) : List (List Char) :=
  let all := Text.splitOn '.' host
  if all.getLast? = some [] then all.dropLast else all

/-- Whether a host must be an address, because its last part is a number or looks like one. -/
def isExpected (host : List Char) : Bool :=
  match (parts host).getLast? with
  | none => false
  | some last => (!last.isEmpty && last.all Char.isDigit) || (number? last).isSome

/-- The four octets of a number, the highest first. -/
def octets (value : Nat) : List Nat :=
  [value / 16777216 % 256, value / 65536 % 256, value / 256 % 256, value % 256]

/-- The value of leading octets and of a last number for the rest. -/
def combine? : Nat → List Nat → Option Nat
  | _, [] => none
  | free, [last] => if last < Nat.pow 256 free then some last else none
  | 0, _ :: _ :: _ => none
  | free + 1, octet :: rest =>
    if octet < 256 then (combine? free rest).map (octet * Nat.pow 256 free + ·) else none

/-- The octets of an address. -/
def ofHost? (host : List Char) : Option (List Nat) :=
  if 4 < (parts host).length then none
  else ((parts host).mapM number?).bind fun numbers => (combine? 4 numbers).map octets

/-- Octets in decimal between dots. -/
def text (octets : List Nat) : List Char :=
  Text.joinWith ['.'] (octets.map Text.decimal)

end Ipv4
end Url
end SchemaScaffold
