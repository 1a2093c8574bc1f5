import SchemaScaffold.Proofs.Text.Decimal
import SchemaScaffold.Proofs.Yaml.Printable
import SchemaScaffold.Yaml.Scalar.Quoted

/-!
# Quoted scalars read back

A text between quotes is read back, whatever follows the closing quote. Between single quotes the
reader joins lines, but the only breaks that are shown there are kept, and no blanks stand beside
them in the text; between double quotes every character that is not shown is escaped.
-/

namespace SchemaScaffold
namespace Yaml
namespace Quoted

open Style (hasPair isSpace)

variable {quote c : Char}

theorem body_break (shown : isPrintable c = true) (breaks : isBreak c = true) (gap : Gap)
    {rest : List Char} (noMark : startsMark rest = false) (fuel : Nat) :
    body quote (fuel + 1) gap (c :: rest) = body quote fuel (gap.addBreak c) rest := by
  rw [body, lineBreak_cons_of_isBreak shown breaks]
  simp [noMark]

theorem body_space (quote : Char) (gap : Gap) (rest : List Char) (fuel : Nat) :
    body quote (fuel + 1) gap (' ' :: rest) = body quote fuel (gap.addBlank ' ') rest := by
  rw [body, lineBreak_cons_of_noBreak not_isBreak_space]
  rfl

/-- The gap before a text is that text's own: no blanks stand before a break, and no space behind
a break, and the break is not one that joins lines. -/
def Fits : Gap → List Char → Prop
  | .none, _ => True
  | .blanks _, text => ∀ c ∈ text.head?, isBreak c = false
  | .lines first _, text => first ≠ ['\n'] ∧ ∀ c ∈ text.head?, c ≠ ' '

theorem Fits.addBreak {gap : Gap} {rest : List Char} (fits : Fits gap (c :: rest))
    (breaks : isBreak c = true) (noFeed : c ≠ '\n') (noSpace : ∀ d ∈ rest.head?, d ≠ ' ') :
    (gap.addBreak c).hasLines = true ∧ (gap.addBreak c).fold = gap.fold ++ [c] ∧
      Fits (gap.addBreak c) rest := by
  cases gap with
  | none => exact ⟨rfl, by simp [Gap.addBreak, Gap.fold, noFeed], by simpa using noFeed, noSpace⟩
  | blanks text => simp [Fits, breaks] at fits
  | lines first others =>
    exact ⟨rfl, by simp [Gap.addBreak, Gap.fold, fits.1], fits.1, noSpace⟩

theorem Fits.addBlank {gap : Gap} {rest : List Char} (fits : Fits gap (' ' :: rest))
    (noBreak : ∀ d ∈ rest.head?, isBreak d = false) :
    (gap.addBlank ' ').hasLines = gap.hasLines ∧ (gap.addBlank ' ').fold = gap.fold ++ [' '] ∧
      Fits (gap.addBlank ' ') rest := by
  cases gap with
  | none => exact ⟨rfl, rfl, noBreak⟩
  | blanks text => exact ⟨rfl, rfl, noBreak⟩
  | lines first others => simp [Fits] at fits

/-- The indentation of a line is passed over. -/
theorem body_indentation (quote : Char) (first others rest : List Char) (column fuel : Nat) :
    body quote (column + fuel) (.lines first others) (spaces column ++ rest) =
      body quote fuel (.lines first others) rest := by
  induction column with
  | zero => simp
  | succ column ih =>
    rw [spaces_succ, List.cons_append, Nat.add_right_comm, body_space]
    exact ih

theorem not_startsMark_spaces {column : Nat} (positive : 0 < column) (rest : List Char) :
    startsMark (spaces column ++ rest) = false := by
  obtain ⟨before, rfl⟩ := Nat.exists_eq_add_of_le' positive
  simp [spaces_succ, startsMark]

/-- Behind a break no mark of a document begins. -/
theorem not_startsMark_singleQuotedBody {column : Nat} (positive : 0 < column) (text : List Char)
    (tail : List Char) :
    startsMark (singleQuotedBody column true text ++ '\x27' :: tail) = false := by
  cases text with
  | nil => simpa [singleQuotedBody] using not_startsMark_spaces positive _
  | cons c rest =>
    rw [singleQuotedBody]
    split
    · next breaks =>
      have noMark : c ≠ '-' ∧ c ≠ '.' := by
        constructor <;> rintro rfl <;> exact absurd breaks (by decide)
      unfold startsMark
      split <;> simp_all
    · split
      · next space => simp [space, startsMark]
      · simpa using not_startsMark_spaces positive _

/-- A character between single quotes; a quote is read from two. -/
theorem body_word (shown : isPrintable c = true) (noBreak : isBreak c = false) (word : c ≠ ' ')
    (gap : Gap) (rest : List Char) (fuel : Nat) :
    body '\x27' (fuel + 1) gap ((if c = '\x27' then ['\x27', '\x27'] else [c]) ++ rest) =
      prepend (gap.fold ++ [c]) (body '\x27' fuel .none rest) := by
  have noBlank := isBlank_eq_false shown word
  split
  · next isQuote =>
    subst isQuote
    rw [List.cons_append, body, lineBreak_cons_of_noBreak noBreak]
    simp [noBlank]
  · next noQuote =>
    rw [List.cons_append, body, lineBreak_cons_of_noBreak noBreak]
    simp [noBlank, noQuote]

theorem body_close {tail : List Char} (ends : tail.head? ≠ some '\x27') (gap : Gap)
    (fuel : Nat) : body '\x27' (fuel + 1) gap ('\x27' :: tail) = .ok (gap.fold, tail) := by
  rw [body, lineBreak_cons_of_noBreak (by decide)]
  simp [isBlank, ends]

/-- What stands before a word at the start of a line is passed over. -/
theorem body_indented (quote : Char) (gap : Gap) (rest : List Char) {column fuel : Nat}
    (enough : (if gap.hasLines then spaces column else []).length ≤ fuel) :
    ∃ left, fuel ≤ left + (if gap.hasLines then spaces column else []).length ∧
      body quote fuel gap ((if gap.hasLines then spaces column else []) ++ rest) =
        body quote left gap rest := by
  cases gap with
  | none => exact ⟨fuel, by simp [Gap.hasLines], by simp [Gap.hasLines]⟩
  | blanks text => exact ⟨fuel, by simp [Gap.hasLines], by simp [Gap.hasLines]⟩
  | lines first others =>
    simp only [Gap.hasLines, ↓reduceIte, length_spaces] at enough ⊢
    obtain ⟨left, rfl⟩ := Nat.exists_eq_add_of_le enough
    exact ⟨left, by omega, body_indentation quote first others rest column left⟩

theorem hasPair_cons_eq_false {first second : Char → Bool} {c : Char} {rest : List Char}
    (none : hasPair first second (c :: rest) = false) : hasPair first second rest = false ∧
      (first c = true → ∀ d ∈ rest.head?, second d = false) := by
  cases rest with
  | nil => simp [hasPair]
  | cons d rest =>
    simp only [hasPair, Bool.or_eq_false_iff, Bool.and_eq_false_iff] at none
    refine ⟨none.2, fun holds other member => ?_⟩
    obtain rfl : d = other := by simpa using member
    exact none.1.resolve_left (by simp [holds])

theorem body_singleQuotedBody {column : Nat} (positive : 0 < column) {tail : List Char}
    (ends : tail.head? ≠ some '\x27') {text : List Char} {gap : Gap} {fuel : Nat}
    (shown : ∀ c ∈ text, isPrintable c = true ∧ c ≠ '\n')
    (breakSpace : hasPair isBreak isSpace text = false)
    (spaceBreak : hasPair isSpace isBreak text = false) (fits : Fits gap text)
    (enough : (singleQuotedBody column gap.hasLines text).length + 1 ≤ fuel) :
    body '\x27' fuel gap (singleQuotedBody column gap.hasLines text ++ '\x27' :: tail) =
      .ok (gap.fold ++ text, tail) := by
  induction text generalizing gap fuel with
  | nil =>
    rw [singleQuotedBody] at enough ⊢
    obtain ⟨left, bound, passed⟩ := body_indented '\x27' gap ('\x27' :: tail)
      (Nat.le_of_succ_le enough)
    obtain ⟨before, rfl⟩ := Nat.exists_eq_add_of_le' (by omega : 1 ≤ left)
    rw [passed, body_close ends, List.append_nil]
  | cons c rest ih =>
    obtain ⟨⟨cShown, noFeed⟩, restShown⟩ := List.forall_mem_cons.1 shown
    obtain ⟨restBreakSpace, behindBreak⟩ := hasPair_cons_eq_false breakSpace
    obtain ⟨restSpaceBreak, behindSpace⟩ := hasPair_cons_eq_false spaceBreak
    rw [singleQuotedBody] at enough ⊢
    cases breaks : isBreak c with
    | true =>
      have noSpace : ∀ d ∈ rest.head?, d ≠ ' ' := by simpa [isSpace] using behindBreak breaks
      obtain ⟨lines, fold, fitsRest⟩ := fits.addBreak breaks noFeed noSpace
      simp only [breaks, ↓reduceIte] at enough ⊢
      obtain ⟨before, rfl⟩ := Nat.exists_eq_add_of_le' (Nat.le_of_add_left_le enough)
      have later := @ih _ before restShown restBreakSpace restSpaceBreak fitsRest
        (by rw [lines]; simpa using enough)
      rw [lines, fold] at later
      rw [List.cons_append, body_break cShown breaks gap
        (not_startsMark_singleQuotedBody positive rest tail), later]
      simp
    | false =>
      by_cases space : c = ' '
      · subst space
        obtain ⟨same, fold, fitsRest⟩ := fits.addBlank (behindSpace rfl)
        simp only [breaks, Bool.false_eq_true, ↓reduceIte] at enough ⊢
        obtain ⟨before, rfl⟩ := Nat.exists_eq_add_of_le' (Nat.le_of_add_left_le enough)
        have later := @ih _ before restShown restBreakSpace restSpaceBreak fitsRest
          (by rw [same]; simpa using enough)
        rw [same, fold] at later
        rw [List.cons_append, body_space, later]
        simp
      · simp only [breaks, space, Bool.false_eq_true, ↓reduceIte, List.append_assoc,
          List.length_append] at enough ⊢
        have one : 1 ≤ (if c = '\x27' then ['\x27', '\x27'] else [c]).length := by
          split <;> simp
        obtain ⟨left, bound, passed⟩ := body_indented '\x27' gap
          ((if c = '\x27' then ['\x27', '\x27'] else [c]) ++
            (singleQuotedBody column false rest ++ '\x27' :: tail))
          (Nat.le_trans (Nat.le_add_right _ _) (Nat.le_of_succ_le enough))
        obtain ⟨before, rfl⟩ := Nat.exists_eq_add_of_le' (by omega : 1 ≤ left)
        have later := @ih .none before restShown restBreakSpace restSpaceBreak
          trivial (by simp only [Gap.hasLines]; omega)
        simp only [Gap.hasLines] at later
        rw [passed, body_word cShown breaks space, later]
        simp [prepend, Except.map, Gap.fold]

/-- A text between single quotes reads back. -/
theorem read_singleQuoted {column : Nat} (positive : 0 < column) {tail : List Char}
    (ends : tail.head? ≠ some '\x27') {text : List Char}
    (allowed : Style.allowsSingle text = true) (noFeed : '\n' ∉ text) :
    read '\x27' (singleQuotedBody column false text ++ '\x27' :: tail) = .ok (text, tail) := by
  simp only [Style.allowsSingle, Bool.and_eq_true, List.all_eq_true, Bool.not_eq_true'] at allowed
  obtain ⟨⟨shown, breakSpace⟩, spaceBreak⟩ := allowed
  have plain : ∀ c ∈ text, isPrintable c = true ∧ c ≠ '\n' :=
    fun c member => ⟨shown c member, fun feed => noFeed (feed ▸ member)⟩
  exact @body_singleQuotedBody column positive tail ends text .none _ plain breakSpace spaceBreak
    trivial (by simp [Gap.hasLines])

theorem ofCode?_toNat (c : Char) : ofCode? c.toNat = some c := by
  have valid : c.toNat < 0xD800 ∨ 0xDFFF < c.toNat ∧ c.toNat < 0x110000 := c.valid
  have inside : ¬ ((0xD800 ≤ c.toNat ∧ c.toNat ≤ 0xDFFF) ∨ 0x10FFFF < c.toNat) := by omega
  simp [ofCode?, inside]

theorem escape_digits {letter : Char} {width : Nat} (wide : escapeWidth letter = some width)
    (unknown : shortEscape letter = none) (positive : 0 < width)
    (small : c.toNat < 16 ^ width) (rest : List Char) :
    escape (letter :: (Text.hexCapitals width c.toNat ++ rest)) = .ok (c, rest) := by
  have length := Text.length_hexCapitals small positive
  simp [escape, unknown, wide, List.take_left' length, List.drop_left' length, length,
    Text.ofDigits?_hexCapitals, ofCode?_toNat]

/-- A character is shown as it is, or a backslash and letters stand for it. -/
theorem doubleQuotedChar_cases (c : Char) :
    (doubleQuotedChar c = [c] ∧ isPrintable c = true ∧ isBreak c = false ∧ c ≠ '\x22' ∧
      c ≠ '\\') ∨
    ∃ letter digits, doubleQuotedChar c = '\\' :: letter :: digits ∧ isBreak letter = false ∧
      ∀ rest, escape (letter :: (digits ++ rest)) = .ok (c, rest) := by
  unfold doubleQuotedChar
  split
  · next shown => 
    refine .inl ?_
    simpa [and_assoc] using shown
  · refine .inr ?_
    have short {letter : Char} {code : Nat} (same : c.toNat = code)
        (known : ∀ rest, escape (letter :: rest) = .ok (Char.ofNat code, rest))
        (noBreak : isBreak letter = false) :
        ∃ found digits, '\\' :: [letter] = '\\' :: found :: digits ∧ isBreak found = false ∧
          ∀ rest, escape (found :: (digits ++ rest)) = .ok (c, rest) := by
      refine ⟨letter, [], rfl, noBreak, fun rest => ?_⟩
      rw [List.nil_append, known, ← same, Char.ofNat_toNat]
    split
    case h_16 =>
      have small : c.toNat < 0x110000 := by
        rcases c.valid with low | ⟨-, high⟩
        · exact Nat.lt_trans low (by decide)
        · exact high
      split
      · exact ⟨'x', _, rfl, by decide, escape_digits rfl rfl (by decide) (by omega)⟩
      · split
        · exact ⟨'u', _, rfl, by decide, escape_digits rfl rfl (by decide) (by omega)⟩
        · exact ⟨'U', _, rfl, by decide, escape_digits rfl rfl (by decide) (by omega)⟩
    all_goals next same => exact short same (fun _ => rfl) (by decide)

theorem body_doubleQuoted {text tail : List Char} {gap : Gap} {fuel : Nat}
    (noLines : gap.hasLines = false)
    (enough : (text.flatMap doubleQuotedChar).length + 1 ≤ fuel) :
    body '\x22' fuel gap (text.flatMap doubleQuotedChar ++ '\x22' :: tail) =
      .ok (gap.fold ++ text, tail) := by
  induction text generalizing gap fuel with
  | nil =>
    obtain ⟨before, rfl⟩ := Nat.exists_eq_add_of_le' (Nat.le_of_add_left_le enough)
    rw [List.flatMap_nil, List.nil_append, body, lineBreak_cons_of_noBreak (by decide)]
    simp [isBlank]
  | cons c rest ih =>
    rw [List.flatMap_cons, List.length_append] at enough
    obtain ⟨before, rfl⟩ := Nat.exists_eq_add_of_le' (Nat.le_of_add_left_le enough)
    have behindWord (short : (rest.flatMap doubleQuotedChar).length + 1 ≤ before) :
        body '\x22' before .none (rest.flatMap doubleQuotedChar ++ '\x22' :: tail) =
          .ok (rest, tail) := by
      simpa [Gap.fold] using @ih .none before rfl short
    rw [List.flatMap_cons]
    rcases doubleQuotedChar_cases c with ⟨same, shown, noBreak, noQuote, noSlash⟩ |
        ⟨letter, digits, same, noBreak, escaped⟩
    · rw [same, List.length_singleton] at enough
      rw [same, List.append_assoc, List.singleton_append]
      by_cases space : c = ' '
      · subst space
        have blanks : (gap.addBlank ' ').hasLines = false ∧
            (gap.addBlank ' ').fold = gap.fold ++ [' '] := by
          cases gap <;> simp_all [Gap.addBlank, Gap.hasLines, Gap.fold]
        rw [body_space, ih blanks.1 (by omega), blanks.2]
        simp
      · have noBlank := isBlank_eq_false shown space
        rw [body, lineBreak_cons_of_noBreak noBreak]
        simp [noBlank, noQuote, noSlash, behindWord (by omega), prepend, Except.map]
    · rw [same, List.length_cons, List.length_cons] at enough
      rw [same, List.append_assoc, List.cons_append, List.cons_append, body,
        lineBreak_cons_of_noBreak (by decide)]
      simp [isBlank, lineBreak_cons_of_noBreak noBreak, escaped, behindWord (by omega), prepend,
        Except.map]

/-- A text between double quotes reads back. -/
theorem read_doubleQuoted (text tail : List Char) :
    read '\x22' (text.flatMap doubleQuotedChar ++ '\x22' :: tail) = .ok (text, tail) :=
  @body_doubleQuoted text tail .none _ rfl (by simp)

end Quoted
end Yaml
end SchemaScaffold
