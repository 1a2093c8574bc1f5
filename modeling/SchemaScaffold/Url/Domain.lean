import SchemaScaffold.Text.LetterCase
import SchemaScaffold.Url.Domain.Direction
import SchemaScaffold.Url.Domain.Joining
import SchemaScaffold.Url.Domain.Table
import SchemaScaffold.Url.Punycode

/-!
# Domain names

The form in which a domain name is looked up. Characters that look alike are brought to one form
in small letters, and labels with characters outside ASCII are written in Punycode.
-/

namespace SchemaScaffold
namespace Url
namespace Domain

/-- ASCII characters that no domain may have. -/
def isForbidden (c : Char) : Bool :=
  c.toNat ≤ 0x20 || c.toNat == 0x7F || c == '%' || c == '#' || c == '/' || c == ':' ||
    c == '<' || c == '>' || c == '?' || c == '@' || c == '[' || c == '\\' || c == ']' ||
    c == '^' || c == '|'

/-- What a character of a domain name stands for, unless no domain may have it. -/
def image? (c : Char) : Option (List Char) :=
  if Text.inRanges refused c then none
  else if Text.inRanges ignored c then some []
  else (Text.CharImages.find? images c).or (some (Text.LetterCase.lower c))

/-- The normal form of a domain name. -/
def normalForm? (domain : List Char) : Option (List Char) := do
  let parts ← domain.mapM image?
  return Text.Canonical.composed parts.flatten

/-- What marks a label in Punycode. -/
def codeMark : List Char := ['x', 'n', '-', '-']

def isAscii (text : List Char) : Bool :=
  text.all (·.toNat < 0x80)

/-- The label that a label in Punycode stands for; its characters must be in normal form. -/
def ofCode? (code : List Char) : Option (List Char) := do
  if code.isEmpty || code.getLast? == some '-' || !isAscii code || 2000 < code.length then none
  else
    let label ← Punycode.decode? code
    if normalForm? label = some label then return label else none

/-- The label as it is read. -/
def decodeLabel? (label : List Char) : Option (List Char) :=
  if codeMark.isPrefixOf label then ofCode? (label.drop codeMark.length) else some label

/-- The label as it is looked up. -/
def encodeLabel (label : List Char) : List Char :=
  if isAscii label then label else codeMark ++ Punycode.encode label

/-- Whether a label begins with a character of its own, has joiners only where they show, and
is not so long that no name could have it. -/
def isValidLabel (label : List Char) : Bool :=
  !label.head?.any Text.Mark.isMark && hasValidJoiners [] label &&
    (isAscii label || label.length ≤ 1000)

/-- Whether labels may stand side by side. -/
def haveClearDirections (labels : List (List Char)) : Bool :=
  !labels.any hasRightToLeft || labels.all hasOneDirection

/-- The ASCII form of a domain name. -/
def toAscii? (domain : List Char) : Option (List Char) := do
  let normal ← normalForm? domain
  let labels ← (Text.splitOn '.' normal).mapM decodeLabel?
  if labels.all isValidLabel && haveClearDirections labels then
    let ascii := Text.joinWith ['.'] (labels.map encodeLabel)
    if ascii.any isForbidden then none else return ascii
  else none

end Domain
end Url
end SchemaScaffold
