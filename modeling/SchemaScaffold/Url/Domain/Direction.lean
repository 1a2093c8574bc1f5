import SchemaScaffold.Text.CharClass
import SchemaScaffold.Url.Domain.Direction.Table

/-!
# Labels that run from right to left

A domain name with letters that run from right to left is clear only if each of its labels runs
in one direction, from its first letter to its last.
-/

namespace SchemaScaffold
namespace Url
namespace Domain

/-- What a character does to the direction of a text. -/
inductive Direction where
  | leftToRight
  | rightToLeft
  | arabicNumber
  | europeanNumber
  | neutral
  | mark
deriving DecidableEq, Repr

/-- The direction of a character. -/
def Direction.ofChar (c : Char) : Direction :=
  if Text.inRanges leftToRightMarks c then leftToRight
  else if Text.Mark.isNonspacing c then mark
  else if Text.inRanges Domain.rightToLeft c then rightToLeft
  else if Text.inRanges arabicNumbers c then arabicNumber
  else if Text.inRanges europeanNumbers c then europeanNumber
  else if Text.inRanges Domain.neutral c then neutral
  else leftToRight

/-- Whether a label has letters or numbers that run from right to left. -/
def hasRightToLeft (label : List Char) : Bool :=
  label.any fun c =>
    match Direction.ofChar c with
    | .rightToLeft | .arabicNumber => true
    | _ => false

/-- The last direction that is not a mark's. -/
def lastDirection? (directions : List Direction) : Option Direction :=
  (directions.reverse.dropWhile (· == .mark)).head?

/-- Whether directions form a label from left to right. -/
def runsLeftToRight (directions : List Direction) : Bool :=
  directions.all (fun d => d != .rightToLeft && d != .arabicNumber) &&
    (lastDirection? directions == some .leftToRight ||
      lastDirection? directions == some .europeanNumber)

/-- Whether directions form a label from right to left; such a label has numbers of one kind. -/
def runsRightToLeft (directions : List Direction) : Bool :=
  directions.all (· != .leftToRight) &&
    !(directions.contains .arabicNumber && directions.contains .europeanNumber) &&
    (lastDirection? directions == some .rightToLeft ||
      lastDirection? directions == some .arabicNumber ||
      lastDirection? directions == some .europeanNumber)

/-- Whether a label runs in the direction of its first letter. -/
def hasOneDirection (label : List Char) : Bool :=
  let directions := label.map Direction.ofChar
  match directions with
  | [] => true
  | .leftToRight :: _ => runsLeftToRight directions
  | .rightToLeft :: _ => runsRightToLeft directions
  | _ => false

end Domain
end Url
end SchemaScaffold
