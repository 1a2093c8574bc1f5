import SchemaScaffold.Yaml.Fault

/-!
# Encodings

From the bytes of a YAML file to its characters. A byte order mark tells UTF-16 from UTF-8.
-/

namespace SchemaScaffold
namespace Yaml
namespace Encoding

/-- Characters that may occur in a YAML text. -/
def isAllowed (c : Char) : Bool :=
  let code := c.toNat
  code == 0x09 || code == 0x0A || code == 0x0D || (0x20 ≤ code && code ≤ 0x7E) ||
    code == 0x85 || (0xA0 ≤ code && code ≤ 0xFFFD) || 0x10000 ≤ code

/-- Pairs of bytes as units of sixteen bits; no byte may be left over. -/
def units (littleEndian : Bool) : List UInt8 → Option (List Nat)
  | [] => some []
  | [_] => none
  | first :: second :: rest =>
    let unit :=
      if littleEndian then second.toNat * 256 + first.toNat
      else first.toNat * 256 + second.toNat
    (units littleEndian rest).map (unit :: ·)

/-- The characters of units. Two halves make one character. -/
def ofUnits : List Nat → Option (List Char)
  | [] => some []
  | high :: low :: rest =>
    if 0xD800 ≤ high && high ≤ 0xDBFF then
      if 0xDC00 ≤ low && low ≤ 0xDFFF then
        (ofUnits rest).map
          (Char.ofNat (0x10000 + (high - 0xD800) * 0x400 + (low - 0xDC00)) :: ·)
      else none
    else if 0xDC00 ≤ high && high ≤ 0xDFFF then none
    else (ofUnits (low :: rest)).map (Char.ofNat high :: ·)
  | [unit] => if 0xD800 ≤ unit && unit ≤ 0xDFFF then none else some [Char.ofNat unit]

/-- The characters that bytes encode. -/
def characters? (content : ByteArray) : Option (List Char) :=
  match content.toList with
  | 0xFF :: 0xFE :: rest => (units true rest).bind ofUnits
  | 0xFE :: 0xFF :: rest => (units false rest).bind ofUnits
  | 0xEF :: 0xBB :: 0xBF :: rest =>
    (String.fromUTF8? ⟨rest.toArray⟩).map String.toList
  | _ => (String.fromUTF8? content).map String.toList

/-- Number of bytes before the first character that is not allowed. -/
def offset (text : List Char) : Nat :=
  (String.ofList (text.takeWhile isAllowed)).utf8ByteSize

/-- The text in a file. -/
def decode (content : ByteArray) : Except Fault (List Char) :=
  match characters? content with
  | none => .error ⟨.badEncoding, {}, none⟩
  | some text =>
    if text.all isAllowed then .ok text
    else .error ⟨.controlCharacter, { index := offset text }, none⟩

end Encoding
end Yaml
end SchemaScaffold
