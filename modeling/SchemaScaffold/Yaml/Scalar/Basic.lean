import SchemaScaffold.Yaml.Fault

/-!
# Reading scalars

What the readers of all kinds of scalars share: line breaks, document marks at the start of a
line, and the blanks and breaks between words.
-/

namespace SchemaScaffold
namespace Yaml

/-- A reader of the start of a text returns a value and what follows it, or a problem and the
text from the place of the problem on. -/
abbrev Reader (α : Type) := List Char → Except (Problem × List Char) (α × List Char)

def isBlank (c : Char) : Bool :=
  c == ' ' || c == '\t'

/-- Whether a text is at its end or begins with a blank or a break. -/
def startsBlank : List Char → Bool
  | [] => true
  | c :: _ => isBlank c || isBreak c

/-- Whether a text is at its end or begins with a break. -/
def startsBreak : List Char → Bool
  | [] => true
  | c :: _ => isBreak c

/-- Whether a line begins with one of the marks that begin and end documents. -/
def startsMark : List Char → Bool
  | '-' :: '-' :: '-' :: rest | '.' :: '.' :: '.' :: rest => startsBlank rest
  | _ => false

/-- The break that a scalar keeps for a break in the text: the common ones are all alike. -/
def keptBreak (c : Char) : Char :=
  if c = '\u2028' || c = '\u2029' then c else '\n'

/-- Read one line break; a carriage return and a line feed are one. -/
def lineBreak : List Char → Option (Char × List Char)
  | '\r' :: '\n' :: rest => some ('\n', rest)
  | c :: rest => if isBreak c then some (keptBreak c, rest) else none
  | [] => none

/-- What stands between two words of a scalar. -/
inductive Gap where
  | none
  /-- Blanks within a line. -/
  | blanks (text : List Char)
  /-- Line breaks: the first of them, if it counts, and the others. -/
  | lines (first others : List Char)
deriving DecidableEq, Repr

namespace Gap

/-- What a gap contributes to the scalar: blanks stay, a single break becomes a space, and of
several breaks the first is dropped. -/
def fold : Gap → List Char
  | none => []
  | blanks text => text
  | lines first others =>
    if first = ['\n'] then (if others.isEmpty then [' '] else others) else first ++ others

/-- A gap with a blank at its end. Blanks around breaks do not count. -/
def addBlank (c : Char) : Gap → Gap
  | none => blanks [c]
  | blanks text => blanks (text ++ [c])
  | lines first others => lines first others

/-- A gap with a break at its end. -/
def addBreak (c : Char) : Gap → Gap
  | none | blanks _ => lines [c] []
  | lines first others => lines first (others ++ [c])

def hasLines : Gap → Bool
  | lines .. => true
  | _ => false

end Gap

theorem lineBreak_length {text rest : List Char} {c : Char}
    (found : lineBreak text = some (c, rest)) : rest.length < text.length := by
  unfold lineBreak at found
  split at found
  · simp only [Option.some.injEq, Prod.mk.injEq] at found
    rw [← found.2]
    simp only [List.length_cons]
    omega
  · split at found
    · simp only [Option.some.injEq, Prod.mk.injEq] at found
      simp [← found.2]
    · simp at found
  · simp at found

end Yaml
end SchemaScaffold
