import Mathlib.Data.List.Forall2
import SchemaScaffold.Json.Printer
import SchemaScaffold.Json.Token
import SchemaScaffold.Proofs.Text.Decimal

/-!
# Pieces of JSON texts

The pieces that a JSON text consists of, apart from any reader: texts between quotes, with escapes,
and numbers. Each piece is read as one token, in front of anything that does not go on with a
number.
-/

namespace SchemaScaffold
namespace Json
namespace Token

/-- A piece of a quoted text and the unit that it stands for: a character that needs no escape, a
letter behind a backslash, or a number of four digits. -/
inductive Spells : List Char → Unit16 → Prop
  | plain {c : Char} (noQuote : c ≠ '\x22') (noBackslash : c ≠ '\\')
    (visible : ¬ c.toNat < 0x20) : Spells [c] (.char c)
  | short {letter c : Char} (stands : shortEscape letter = some c) :
    Spells ['\\', letter] (.char c)
  | number {a b c d : Char} {code : Nat} (digits : fourDigits a b c d = some code) :
    Spells ['\\', 'u', a, b, c, d] (.escaped code)

/-- A character that needs no escape stands for itself. -/
theorem units_plain {c : Char} (noQuote : c ≠ '\x22') (noBackslash : c ≠ '\\')
    (visible : ¬ c.toNat < 0x20) (rest : List Char) :
    units (c :: rest) = (units rest).map fun found => (.char c :: found.1, found.2) := by
  rw [units.eq_def]
  split
  · next empty => simp at empty
  · next shape => exact absurd (List.cons.inj shape).1 noBackslash
  · next shape => exact absurd (List.cons.inj shape).1 noBackslash
  · next d after _ _ shape =>
    obtain ⟨rfl, rfl⟩ := List.cons.inj shape
    simp only [noQuote, noBackslash, visible, if_false, decide_false, Bool.or_self]
    cases units rest <;> rfl

/-- A letter behind a backslash is read as the character that it stands for. -/
theorem units_short {letter c : Char} (short : shortEscape letter = some c) (rest : List Char) :
    units ('\\' :: letter :: rest) =
      (units rest).map fun found => (.char c :: found.1, found.2) := by
  have noNumber : letter ≠ 'u' := by
    rintro rfl
    simp [shortEscape] at short
  rw [units.eq_def]
  split
  · next empty => simp at empty
  · next shape => exact absurd (List.cons.inj (List.cons.inj shape).2).1 noNumber
  · next shape =>
    obtain ⟨rfl, rfl⟩ := List.cons.inj (List.cons.inj shape).2
    rw [short]
    cases units rest <;> rfl
  · next noShort shape =>
    obtain ⟨rfl, rfl⟩ := List.cons.inj shape
    exact absurd rfl (noShort letter rest rfl)

/-- A piece is read as its unit. -/
theorem units_append {piece : List Char} {unit : Unit16} (spells : Spells piece unit)
    (rest : List Char) :
    units (piece ++ rest) = (units rest).map fun found => (unit :: found.1, found.2) := by
  cases spells with
  | plain noQuote noBackslash visible => exact units_plain noQuote noBackslash visible rest
  | short stands => exact units_short stands rest
  | number digits =>
    simp only [List.cons_append, List.nil_append]
    rw [units, digits]
    cases units rest <;> rfl

theorem units_flatten {pieces : List (List Char)} {found : List Unit16}
    (each : List.Forall₂ Spells pieces found) (rest : List Char) :
    units (pieces.flatten ++ '\x22' :: rest) = some (found, rest) := by
  induction each with
  | nil => simp [units]
  | cons first others ih =>
    rw [List.flatten_cons, List.append_assoc, units_append first, ih]
    rfl

/-- A text between quotes, and what it stands for: none if half a character is in it. -/
def IsQuoted (quoted : List Char) (value : Option String) : Prop :=
  ∃ pieces found, List.Forall₂ Spells pieces found ∧
    quoted = '\x22' :: (pieces.flatten ++ ['\x22']) ∧
    value = (characters found).map String.ofList

/-- The unit as which a character is written between quotes. -/
def unit (c : Char) : Unit16 :=
  if c.toNat < 0x20 ∧ c ∉ ['\x08', '\t', '\n', '\x0C', '\r'] then .escaped c.toNat else .char c

/-- The characters that are escaped by a letter, with their letters. -/
def shortEscapes : List (Char × Char) :=
  [('\x22', '\x22'), ('\\', '\\'), ('\x08', 'b'), ('\t', 't'), ('\n', 'n'), ('\x0C', 'f'),
    ('\r', 'r')]

/-- What a character is escaped as stands for its unit. -/
theorem spells_escape (c : Char) : Spells (escape c) (unit c) := by
  by_cases short : c ∈ shortEscapes.map (·.1)
  · have each : ∀ pair ∈ shortEscapes, escape pair.1 = ['\\', pair.2] ∧
        shortEscape pair.2 = some pair.1 ∧ unit pair.1 = .char pair.1 := by decide
    obtain ⟨pair, isShort, rfl⟩ := List.mem_map.1 short
    obtain ⟨written, stands, same⟩ := each pair isShort
    rw [written, same]
    exact .short stands
  · simp only [shortEscapes, List.map_cons, List.map_nil, List.mem_cons, List.not_mem_nil,
      or_false, not_or] at short
    obtain ⟨noQuote, noBackslash, others⟩ := short
    by_cases control : c.toNat < 0x20
    · have digits : ∀ code < 0x20,
          fourDigits '0' '0' (hexDigit (code / 16)) (hexDigit (code % 16)) = some code := by decide
      have written : escape c =
          ['\\', 'u', '0', '0', hexDigit (c.toNat / 16), hexDigit (c.toNat % 16)] := by
        simp [escape, noQuote, noBackslash, others, control]
      have same : unit c = .escaped c.toNat := by simp [unit, control, others]
      rw [written, same]
      exact .number (digits c.toNat control)
    · have written : escape c = [c] := by simp [escape, noQuote, noBackslash, others, control]
      have same : unit c = .char c := by simp [unit, control]
      rw [written, same]
      exact .plain noQuote noBackslash control

/-- The number of a control character is no half of a character. -/
theorem characters_escaped {code : Nat} (control : code < 0x20) (rest : List Unit16) :
    characters (.escaped code :: rest) = (characters rest).map (Char.ofNat code :: ·) := by
  have noHigh : ¬ (0xD800 ≤ code) := by omega
  have noLow : ¬ (0xDC00 ≤ code) := by omega
  cases rest with
  | nil => simp [characters, noHigh]
  | cons next rest =>
    cases next with
    | char value => simp [characters, noHigh]
    | escaped low => simp [characters, noHigh, noLow]

theorem characters_map_unit (text : List Char) : characters (text.map unit) = some text := by
  induction text with
  | nil => rfl
  | cons c text ih =>
    rw [List.map_cons]
    by_cases escaped : c.toNat < 0x20 ∧ c ∉ ['\x08', '\t', '\n', '\x0C', '\r']
    · rw [unit, if_pos escaped, characters_escaped escaped.1, ih]
      simp
    · rw [unit, if_neg escaped, characters, ih]
      rfl

theorem isQuoted_quote (text : String) : IsQuoted (quote text) (some text) := by
  refine ⟨text.toList.map escape, text.toList.map unit, ?_, ?_, ?_⟩
  · rw [List.forall₂_map_left_iff, List.forall₂_map_right_iff, List.forall₂_same]
    exact fun c _ => spells_escape c
  · rw [quote, List.flatMap_def]
  · rw [characters_map_unit, Option.map_some, String.ofList_toList]

/-- Digits, at least one. -/
def IsDigits (text : List Char) : Prop :=
  text ≠ [] ∧ ∀ c ∈ text, c.isDigit = true

/-- A whole number has no zero in front, unless it is zero. -/
inductive IsWhole : List Char → Prop
  | zero : IsWhole ['0']
  | other {c : Char} {rest : List Char} (digits : IsDigits (c :: rest)) (first : c ≠ '0') :
    IsWhole (c :: rest)

/-- A fraction, or none. -/
inductive IsFraction : List Char → Prop
  | none : IsFraction []
  | some {digits : List Char} (isDigits : IsDigits digits) : IsFraction ('.' :: digits)

/-- An exponent, or none. -/
inductive IsExponent : List Char → Prop
  | none : IsExponent []
  | some {mark : Char} {sign digits : List Char} (isMark : mark = 'e' ∨ mark = 'E')
    (isSign : sign ∈ [[], ['+'], ['-']]) (isDigits : IsDigits digits) :
    IsExponent (mark :: (sign ++ digits))

/-- A number: a minus or none, a whole number, a fraction and an exponent. -/
inductive IsNumeral : List Char → Prop
  | intro {sign whole fraction exponent : List Char} (isSign : sign ∈ [[], ['-']])
    (isWhole : IsWhole whole) (isFraction : IsFraction fraction)
    (isExponent : IsExponent exponent) : IsNumeral (sign ++ whole ++ fraction ++ exponent)

theorem isDigits_decimal (value : Nat) : IsDigits (Text.decimal value) :=
  ⟨Text.decimal_ne_nil value, fun _ => Text.isDigit_of_mem_decimal⟩

theorem isWhole_decimal (value : Nat) : IsWhole (Text.decimal value) := by
  rcases Nat.eq_zero_or_pos value with rfl | positive
  · exact .zero
  · obtain ⟨first, rest, shape, other⟩ := Text.exists_decimal_eq_cons positive
    have digits := isDigits_decimal value
    rw [shape] at digits ⊢
    exact .other digits other

namespace IsNumeral

theorem whole (value : Nat) : IsNumeral (Text.decimal value) := by
  have numeral := @intro [] _ _ _ (by simp) (isWhole_decimal value) .none .none
  simpa using numeral

theorem fraction (value fraction : Nat) :
    IsNumeral (Text.decimal value ++ '.' :: Text.decimal fraction) := by
  have numeral := @intro [] _ _ _ (by simp) (isWhole_decimal value)
    (.some (isDigits_decimal fraction)) .none
  simpa using numeral

end IsNumeral

/-- What follows does not begin with a digit. -/
def EndsDigits (rest : List Char) : Prop :=
  ∀ c ∈ rest.head?, c.isDigit = false

/-- What follows does not go on with a number. -/
def EndsNumber (rest : List Char) : Prop :=
  ∀ c ∈ rest.head?, c.isDigit = false ∧ c ≠ '.' ∧ c ≠ 'e' ∧ c ≠ 'E'

section Number

variable {rest : List Char}

theorem EndsNumber.endsDigits (ends : EndsNumber rest) : EndsDigits rest :=
  fun c isHead => (ends c isHead).1

theorem takeWhile_isDigit {digits : List Char} (isDigits : IsDigits digits)
    (ends : EndsDigits rest) : (digits ++ rest).takeWhile Char.isDigit = digits := by
  rw [List.takeWhile_append_of_pos isDigits.2]
  cases rest with
  | nil => simp
  | cons c rest => simp [ends c rfl]

theorem dropWhile_isDigit {digits : List Char} (isDigits : IsDigits digits)
    (ends : EndsDigits rest) : (digits ++ rest).dropWhile Char.isDigit = rest := by
  rw [List.dropWhile_append_of_pos isDigits.2]
  cases rest with
  | nil => rfl
  | cons c rest => simp [ends c rfl]

theorem wholePart_append {whole : List Char} (isWhole : IsWhole whole) (ends : EndsDigits rest) :
    wholePart (whole ++ rest) = some (whole, rest) := by
  cases isWhole with
  | zero =>
    cases rest with
    | nil => rfl
    | cons c rest => simp [wholePart, ends c rfl]
  | @other c digits isDigits first =>
    have taken := takeWhile_isDigit isDigits ends
    have dropped := dropWhile_isDigit isDigits ends
    rw [List.cons_append] at taken dropped ⊢
    rw [wholePart.eq_def]
    split
    · next zero => exact absurd (List.cons.inj zero).1 first
    · simp [taken, dropped]

theorem fractionPart_append {fraction : List Char} (isFraction : IsFraction fraction)
    (ends : ∀ c ∈ rest.head?, c.isDigit = false ∧ c ≠ '.') :
    fractionPart (fraction ++ rest) = some (fraction, rest) := by
  cases isFraction with
  | none =>
    cases rest with
    | nil => rfl
    | cons c rest => simp [fractionPart, (ends c rfl).2]
  | @some digits isDigits =>
    have taken := takeWhile_isDigit isDigits fun c isHead => (ends c isHead).1
    have dropped := dropWhile_isDigit isDigits fun c isHead => (ends c isHead).1
    simp [fractionPart, taken, dropped, isDigits.1]

theorem exponentPart_append {exponent : List Char} (isExponent : IsExponent exponent)
    (ends : EndsNumber rest) : exponentPart (exponent ++ rest) = some (exponent, rest) := by
  cases isExponent with
  | none =>
    cases rest with
    | nil => rfl
    | cons c rest => simp [exponentPart, (ends c rfl).2.2]
  | @some mark sign digits isMark isSign isDigits =>
    have taken := takeWhile_isDigit isDigits ends.endsDigits
    have dropped := dropWhile_isDigit isDigits ends.endsDigits
    obtain ⟨first, others, rfl⟩ := List.exists_cons_of_ne_nil isDigits.1
    have noSign : first ≠ '+' ∧ first ≠ '-' := by
      have digit := isDigits.2 first (by simp)
      constructor <;> rintro rfl <;> exact absurd digit (by decide)
    simp only [List.mem_cons, List.not_mem_nil, or_false] at isSign
    rw [List.cons_append] at taken dropped
    rcases isSign with rfl | rfl | rfl <;>
      simp [exponentPart, isMark, noSign, taken, dropped]

/-- A numeral is read whole. -/
theorem number?_append {literal : List Char} (isNumeral : IsNumeral literal)
    (ends : EndsNumber rest) :
    number? (literal ++ rest) = some (.number (String.ofList literal), rest) := by
  obtain @⟨sign, whole, fraction, exponent, isSign, isWhole, isFraction, isExponent⟩ := isNumeral
  have third := exponentPart_append isExponent ends
  have exponentEnds : ∀ c ∈ (exponent ++ rest).head?, c.isDigit = false ∧ c ≠ '.' := by
    cases isExponent with
    | none => exact fun c isHead => ⟨(ends c isHead).1, (ends c isHead).2.1⟩
    | some isMark => rcases isMark with rfl | rfl <;> simp
  have second := fractionPart_append isFraction exponentEnds
  have fractionEnds : EndsDigits (fraction ++ (exponent ++ rest)) := by
    cases isFraction with
    | none => exact fun c isHead => (exponentEnds c isHead).1
    | some => simp [EndsDigits]
  have first := wholePart_append isWhole fractionEnds
  have unsigned : ∀ c ∈ (whole ++ (fraction ++ (exponent ++ rest))).head?, c ≠ '-' := by
    cases isWhole with
    | zero => simp
    | @other c digits isDigits =>
      simp only [List.cons_append, List.head?_cons, Option.mem_def, Option.some.injEq]
      rintro _ rfl rfl
      exact absurd (isDigits.2 '-' (by simp)) (by decide)
  simp only [List.mem_cons, List.not_mem_nil, or_false] at isSign
  unfold number?
  rcases isSign with rfl | rfl
  · simp only [List.nil_append, List.append_assoc]
    split
    · next shape =>
      rw [shape] at unsigned
      exact absurd rfl (unsigned '-' rfl)
    · simp [first, second, third]
  · simp [first, second, third]

theorem IsNumeral.exists_cons {literal : List Char} (isNumeral : IsNumeral literal) :
    ∃ c text, literal = c :: text ∧ (c.isDigit || c == '-') = true := by
  obtain @⟨sign, whole, fraction, exponent, isSign, isWhole, -, -⟩ := isNumeral
  simp only [List.mem_cons, List.not_mem_nil, or_false] at isSign
  rcases isSign with rfl | rfl
  · cases isWhole with
    | zero => exact ⟨'0', _, rfl, rfl⟩
    | @other c digits isDigits => exact ⟨c, _, rfl, by simp [isDigits.2 c]⟩
  · exact ⟨'-', _, rfl, rfl⟩

/-- A digit or a minus begins a number. -/
theorem read_digit {c : Char} (digit : (c.isDigit || c == '-') = true) (text : List Char) :
    read c text = number? (c :: text) := by
  unfold read
  split
  case h_11 => rfl
  all_goals exact absurd digit (by decide)

end Number

/-- A piece is read as tokens in front of whatever may follow it. -/
def Lexes (follows : List Char → Prop) (piece : List Char) (tokens : List Token) : Prop :=
  ∀ rest, follows rest → readFrom 0 (piece ++ rest) = (readFrom 0 rest).map (tokens ++ ·)

/-- Anything may follow. -/
def Anything (_ : List Char) : Prop := True

theorem readFrom_length_append (front rest : List Char) :
    readFrom front.length (front ++ rest) = readFrom 0 rest := by
  induction front with
  | nil => rfl
  | cons c front ih => rw [List.length_cons, List.cons_append, readFrom, ih]

namespace Lexes

variable {follows further : List Char → Prop} {piece other : List Char} {tokens more : List Token}

/-- The reader of single tokens decides about the pieces that are one. -/
theorem of_read {c : Char} {token : Token} (dark : isBlank c = false)
    (found : ∀ rest, follows rest → read c (piece ++ rest) = some (token, rest)) :
    Lexes follows (c :: piece) [token] := by
  intro rest follow
  have passed : (piece ++ rest).length - rest.length = piece.length := by simp
  rw [List.cons_append, readFrom, dark, found rest follow]
  simp only [Bool.false_eq_true, if_false, passed, readFrom_length_append, List.cons_append,
    List.nil_append]

theorem of_blank (blank : ∀ c ∈ piece, isBlank c = true) : Lexes Anything piece [] := by
  intro rest _
  induction piece with
  | nil => simp
  | cons c piece ih =>
    obtain ⟨head, tail⟩ := List.forall_mem_cons.1 blank
    rw [List.cons_append, readFrom, head]
    exact ih tail

/-- Pieces are read one after another if each may follow the one before. -/
theorem append (first : Lexes follows piece tokens) (second : Lexes further other more)
    (link : ∀ rest, further rest → follows (other ++ rest)) :
    Lexes further (piece ++ other) (tokens ++ more) := by
  intro rest follow
  rw [List.append_assoc, first _ (link rest follow), second rest follow, Option.map_map]
  simp [Function.comp_def]

/-- A piece that anything may follow is read in front of every other. -/
theorem before (first : Lexes Anything piece tokens) (second : Lexes further other more) :
    Lexes further (piece ++ other) (tokens ++ more) :=
  first.append second fun _ _ => trivial

/-- A piece that anything may follow is read in front of less, too. -/
theorem weaken (lexes : Lexes Anything piece tokens) : Lexes follows piece tokens :=
  fun rest _ => lexes rest trivial

/-- A whole text is read as its tokens. -/
theorem readAll (lexes : Lexes follows piece tokens) (ends : follows []) :
    Token.readAll piece = some tokens := by
  simpa [Token.readAll, readFrom] using lexes [] ends

end Lexes

theorem EndsNumber.append {piece rest : List Char} (first : EndsNumber piece)
    (second : EndsNumber rest) : EndsNumber (piece ++ rest) := by
  cases piece with
  | nil => exact second
  | cons c piece => exact first

/-- A text between quotes is read as one token. -/
theorem lexes_quoted {quoted : List Char} {value : Option String}
    (isQuoted : IsQuoted quoted value) : Lexes Anything quoted [.text value] := by
  obtain ⟨pieces, found, each, rfl, rfl⟩ := isQuoted
  refine .of_read (by decide) fun rest _ => ?_
  rw [List.append_assoc, List.cons_append, List.nil_append]
  simp [read, units_flatten each]

theorem lexes_numeral {literal : List Char} (isNumeral : IsNumeral literal) :
    Lexes EndsNumber literal [.number (String.ofList literal)] := by
  obtain ⟨c, text, rfl, digit⟩ := isNumeral.exists_cons
  have dark : isBlank c = false := by
    simp only [isBlank, Bool.or_eq_false_iff, beq_eq_false_iff_ne]
    refine ⟨⟨⟨?_, ?_⟩, ?_⟩, ?_⟩ <;> rintro rfl <;> exact absurd digit (by decide)
  refine .of_read dark fun rest ends => ?_
  rw [read_digit digit, ← List.cons_append, number?_append isNumeral ends]

end Token
end Json
end SchemaScaffold
