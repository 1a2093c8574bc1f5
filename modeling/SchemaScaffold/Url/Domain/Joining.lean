import SchemaScaffold.Text.Canonical
import SchemaScaffold.Text.CharClass
import SchemaScaffold.Url.Domain.Joining.Table

/-!
# Joiners

Two invisible characters join letters or keep them apart. A domain name may have them only where
they show: behind a sign that kills a vowel, or between letters of a cursive script.
-/

namespace SchemaScaffold
namespace Url
namespace Domain

/-- Signs that kill the vowel of the letter before them; they have a class of their own. -/
def isVirama (c : Char) : Bool :=
  Text.Canonical.combiningClass c == 9

/-- Whether letters join across a character as if it was not there. -/
def isTransparent (c : Char) : Bool :=
  Text.Mark.isNonspacing c || c.toNat == 0x1E94B

/-- Whether the last letter of a text, given backwards, joins what stands after it. -/
def joinsAfter (backwards : List Char) : Bool :=
  match backwards.dropWhile isTransparent with
  | [] => false
  | c :: _ => Text.inRanges joiningBoth c || Text.inRanges joiningAfter c

/-- Whether the first letter of a text joins what stands before it. -/
def joinsBefore (text : List Char) : Bool :=
  match text.dropWhile isTransparent with
  | [] => false
  | c :: _ => Text.inRanges joiningBoth c || Text.inRanges joiningBefore c

/-- Whether a joiner may stand between two texts, the first of which is given backwards. -/
def allowsJoiner (joiner : Char) (backwards rest : List Char) : Bool :=
  match backwards with
  | [] => false
  | c :: _ =>
    isVirama c || (joiner == '\u200c' && joinsAfter backwards && joinsBefore rest)

/-- Whether each joiner of a text stands where it may; `backwards` is what stands before the
text. -/
def hasValidJoiners (backwards : List Char) : List Char → Bool
  | [] => true
  | c :: rest =>
    (if c == '\u200c' || c == '\u200d' then allowsJoiner c backwards rest else true) &&
      hasValidJoiners (c :: backwards) rest

end Domain
end Url
end SchemaScaffold
