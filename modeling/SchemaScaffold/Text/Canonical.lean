import SchemaScaffold.Text.Canonical.Table
import SchemaScaffold.Text.CharClass

/-!
# Canonical composition

Texts that differ only in how their marked letters are spelled have one composed form: every
character is taken apart, the marks are put in order, and what composes is composed.
-/

namespace SchemaScaffold
namespace Text
namespace Canonical

/-- The letters of a syllable: a leading consonant, a vowel and perhaps a closing consonant. -/
def syllableLetters (c : Char) : Option (List Char) :=
  let code := c.toNat
  if 0xAC00 ≤ code && code ≤ 0xD7A3 then
    let index := code - 0xAC00
    let closing := if index % 28 = 0 then [] else [Char.ofNat (0x11A7 + index % 28)]
    some (Char.ofNat (0x1100 + index / 588) :: Char.ofNat (0x1161 + index % 588 / 28) :: closing)
  else none

/-- The syllable of two letters, or of a syllable without a closing consonant and one. -/
def syllable? (first second : Char) : Option Char :=
  let a := first.toNat
  let b := second.toNat
  if 0x1100 ≤ a && a ≤ 0x1112 && 0x1161 ≤ b && b ≤ 0x1175 then
    some (Char.ofNat (0xAC00 + (a - 0x1100) * 588 + (b - 0x1161) * 28))
  else if 0xAC00 ≤ a && a ≤ 0xD7A3 && (a - 0xAC00) % 28 == 0 && 0x11A8 ≤ b && b ≤ 0x11C2 then
    some (Char.ofNat (a + (b - 0x11A7)))
  else none

/-- Each first character with what it composes to. -/
def Compositions.pairs (group : Compositions) : List (Char × Char) :=
  (group.firsts.flatMap String.toList).zip (group.composites.flatMap String.toList)

/-- The character to which two compose. -/
def compose? (first second : Char) : Option Char :=
  syllable? first second <|> compositions.findSome? fun group =>
    if group.second = second.toNat then group.pairs.lookup first else none

/-- The pair that composes to a character. -/
def split? (c : Char) : Option (Char × Char) :=
  compositions.findSome? fun group =>
    (group.pairs.find? (·.2 == c)).map fun (first, _) => (first, Char.ofNat group.second)

/-- Take a character apart by pairs at most `depth` times. -/
def splitTo : Nat → Char → List Char
  | 0, c => [c]
  | depth + 1, c =>
    match split? c with
    | some (first, second) => splitTo depth first ++ [second]
    | none => [c]

/-- The characters that a character consists of. No letter has more than three marks. -/
def decompose (c : Char) : List Char :=
  if c.toNat < 0xC0 then [c]
  else
    match syllableLetters c <|> CharImages.find? decompositions c with
    | some parts => parts
    | none => splitTo 3 c

/-- The class of a mark; marks of different classes do not touch each other. -/
def combiningClass (c : Char) : Nat :=
  match classes.find? fun (_, ranges) => inRanges ranges c with
  | some (value, _) => value
  | none => 0

/-- Put a character before marks in order, behind those of lower classes than its own. -/
def insert (c : Char) : List Char → List Char
  | [] => [c]
  | mark :: rest =>
    if 0 < combiningClass mark && combiningClass mark < combiningClass c then
      mark :: insert c rest
    else c :: mark :: rest

/-- A text with the marks behind each character in the order of their classes. -/
def arrange (text : List Char) : List Char :=
  text.foldr insert []

/-- Compose the last character of class 0 with what follows it. `passed` holds the marks
between, last first, that did not compose; they block those of the same or a lower class. -/
def composeFrom (last : Char) (passed : List Char) : List Char → List Char
  | [] => last :: passed.reverse
  | c :: rest =>
    let level := combiningClass c
    let blocked := match passed with
      | [] => false
      | mark :: _ => level ≤ combiningClass mark
    match if blocked then none else compose? last c with
    | some composite => composeFrom composite passed rest
    | none =>
      if level = 0 then last :: passed.reverse ++ composeFrom c [] rest
      else composeFrom last (c :: passed) rest

/-- Compose what composes in a text with its marks in order. -/
def composeAll : List Char → List Char
  | [] => []
  | c :: rest => if combiningClass c = 0 then composeFrom c [] rest else c :: composeAll rest

/-- The composed form of a text. -/
def composed (text : List Char) : List Char :=
  composeAll (arrange (text.flatMap decompose))

theorem insert_perm (c : Char) (text : List Char) : (insert c text).Perm (c :: text) := by
  induction text with
  | nil => exact .refl _
  | cons mark rest ih =>
    simp only [insert]
    split
    · exact (ih.cons mark).trans (.swap c mark rest)
    · exact .refl _

/-- Ordering moves characters and loses none. -/
theorem arrange_perm (text : List Char) : (arrange text).Perm text := by
  induction text with
  | nil => exact .refl _
  | cons c rest ih => exact (insert_perm c _).trans (ih.cons c)

end Canonical
end Text
end SchemaScaffold
