import SchemaScaffold.Proofs.Schema.EntityNames
import SchemaScaffold.Proofs.Text.Identifier.Table
import SchemaScaffold.Text.CharClass

/-!
# Identifiers of scripts

What a script may take as the name of a constant: letters, digits, underscores and dollar signs, no
digit in front, and no word that the language keeps for itself. A name of a table with letters
behind it that end no such word is an identifier unless it begins with a digit.
-/

namespace SchemaScaffold
namespace Text

open Sql (isNameChar)

/-- Characters with which an identifier may begin. -/
def isIdentifierStart (c : Char) : Bool :=
  if c.toNat < 0x80 then c.isAlpha || c == '_' || c == '$'
  else inRanges IdentifierChar.starts c

/-- Characters with which an identifier may go on. -/
def isIdentifierPart (c : Char) : Bool :=
  if c.toNat < 0x80 then c.isAlphanum || c == '_' || c == '$'
  else inRanges IdentifierChar.starts c || inRanges IdentifierChar.continues c

/-- Characters of names may stand in identifiers, and all but digits in front. -/
theorem isIdentifierPart_of_nameChar {c : Char} (named : isNameChar c = true) :
    isIdentifierPart c = true :=
  forall_nameChar (isIdentifierPart · = true) (by decide) (by decide)
    (by decide +kernel) c named

theorem isIdentifierStart_of_nameChar {c : Char} (named : isNameChar c = true) :
    isIdentifierStart c = !c.isDigit :=
  forall_nameChar (fun c => isIdentifierStart c = !c.isDigit) (by decide)
    (by decide +kernel) (by decide +kernel) c named

/-- Words of the language, those included that it keeps in strict code only. -/
def reservedWords : List String := [
  "arguments", "await", "break", "case", "catch", "class", "const", "continue", "debugger",
  "default", "delete", "do", "else", "enum", "eval", "export", "extends", "false", "finally",
  "for", "function", "if", "implements", "import", "in", "instanceof", "interface", "let", "new",
  "null", "package", "private", "protected", "public", "return", "static", "super", "switch",
  "this", "throw", "true", "try", "typeof", "var", "void", "while", "with", "yield"]

/-- A text that can be the name of a constant. -/
def IsIdentifier : List Char → Prop
  | [] => False
  | c :: rest => isIdentifierStart c = true ∧ (∀ d ∈ rest, isIdentifierPart d = true) ∧
      ∀ word ∈ reservedWords, c :: rest ≠ word.toList

instance : (text : List Char) → Decidable (IsIdentifier text)
  | [] => inferInstanceAs (Decidable False)
  | c :: rest => decidable_of_iff (isIdentifierStart c = true ∧ rest.all isIdentifierPart = true ∧
      ∀ word ∈ reservedWords, c :: rest ≠ word.toList) (by simp only [IsIdentifier, List.all_eq_true])

/-- A text begins with a digit. -/
def BeginsWithDigit (text : List Char) : Prop :=
  text.head?.any Char.isDigit = true

instance (text : List Char) : Decidable (BeginsWithDigit text) :=
  inferInstanceAs (Decidable (_ = true))

@[simp] theorem not_beginsWithDigit_nil : ¬ BeginsWithDigit [] := by
  decide

@[simp] theorem beginsWithDigit_cons {c : Char} {rest : List Char} :
    BeginsWithDigit (c :: rest) ↔ c.isDigit = true :=
  Iff.rfl

/-- A name that is no reserved word is an identifier unless it begins with a digit. -/
theorem isIdentifier_iff_of_named {text : List Char} (named : IsNameText text)
    (nonempty : text ≠ [])
    (free : ∀ word ∈ reservedWords, text ≠ word.toList) :
    IsIdentifier text ↔ ¬ BeginsWithDigit text := by
  obtain ⟨c, rest, rfl⟩ := List.exists_cons_of_ne_nil nonempty
  have parts : ∀ d ∈ rest, isIdentifierPart d = true := fun d member =>
    isIdentifierPart_of_nameChar (named d (List.mem_cons_of_mem c member))
  rw [beginsWithDigit_cons, IsIdentifier, and_iff_left ⟨parts, free⟩,
    isIdentifierStart_of_nameChar (named c List.mem_cons_self), Bool.not_eq_true',
    Bool.not_eq_true]

/-- Letters that are put behind names so that no reserved word comes about. -/
structure IsSuffix (suffix : List Char) : Prop where
  named : IsNameText suffix
  nonempty : suffix ≠ []
  plain : ¬ BeginsWithDigit suffix
  free : ∀ word ∈ reservedWords, ¬ suffix <:+ word.toList

/-- A name with such letters behind it is an identifier unless it begins with a digit. -/
theorem isIdentifier_append_iff {name suffix : List Char} (named : IsNameText name)
    (isSuffix : IsSuffix suffix) : IsIdentifier (name ++ suffix) ↔ ¬ BeginsWithDigit name := by
  have free : ∀ word ∈ reservedWords, name ++ suffix ≠ word.toList := fun word member same =>
    isSuffix.free word member ⟨name, same⟩
  rw [isIdentifier_iff_of_named (named.append isSuffix.named)
    (List.append_ne_nil_of_right_ne_nil name isSuffix.nonempty) free]
  cases name with
  | nil => simpa using isSuffix.plain
  | cons c rest => rfl

end Text
end SchemaScaffold
