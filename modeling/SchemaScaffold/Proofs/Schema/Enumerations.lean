import Mathlib.Data.List.DropRight
import Mathlib.Data.List.Infix
import Mathlib.Data.List.TakeWhile
import SchemaScaffold.Proofs.Schema.Markers
import SchemaScaffold.Proofs.Sql.PieceForms
import SchemaScaffold.Proofs.Text.Trimming

/-!
# Enumerations

The definitions that list the values of a column. Their rule is found if no value, and nothing
behind the list, mentions a word of a rule that comes before, and the sample is the first value if
the list can be read up to its end. What is read of any text is the first of the entries that it
encloses between `ENUM(` and the next closing parenthesis.
-/

namespace SchemaScaffold

open Text Sql

/-- A value between quotes, without quotes and backslashes of its own. -/
structure Literal where
  quote : Char
  content : String
  isQuote : TypeRule.isQuote quote = true
  isPlain : content.toList.all (fun c => !TypeRule.isQuote c && c != '\\') = true

namespace Literal

def text (literal : Literal) : List Char :=
  literal.quote :: (literal.content.toList ++ [literal.quote])

/-- A literal between blanks. -/
def entry (literal : Literal) : Language Char :=
  gapForm * ({literal.text} * gapForm)

/-- The entries behind the first one. -/
def further (literal : Literal) : Language Char :=
  {[',']} * literal.entry

end Literal

/-- The definition of an enumeration: a gap, a list of literals and anything behind it. -/
def IsEnumeration (gap : List Char) (first : Literal) (others : List Literal)
    (rest definition : String) : Prop :=
  gap ∈ gapForm ∧ ∃ keyword ∈ spellings "ENUM", ∃ entry ∈ first.entry,
    ∃ entries ∈ (others.map Literal.further).prod,
      keyword ++ ((gap ++ ['(']) ++ (entry ++ entries ++ ')' :: rest.toList)) = definition.toList

namespace Literal

variable {literal : Literal}

theorem quote_cases (literal : Literal) : literal.quote = '\x27' ∨ literal.quote = '\x22' := by
  simpa [TypeRule.isQuote] using literal.isQuote

theorem exists_of_mem_entry {own : List Char} (isOwn : own ∈ literal.entry) :
    ∃ before after, isAllBlank before = true ∧ isAllBlank after = true ∧
      before ++ (literal.text ++ after) = own := by
  obtain ⟨before, blank, rest, isRest, rfl⟩ := Language.mem_mul.1 isOwn
  obtain ⟨text, isText, after, blankToo, rfl⟩ := Language.mem_mul.1 isRest
  obtain rfl := mem_singleton.1 isText
  exact ⟨before, after, blank, blankToo, rfl⟩

theorem text_mem_entry (literal : Literal) : literal.text ∈ literal.entry := by
  have written : [] ++ (literal.text ++ []) ∈ literal.entry :=
    Language.append_mem_mul rfl (Language.append_mem_mul rfl rfl)
  simpa using written

section Marker

variable {word : String} (marker : IsMarker word)

include marker

theorem mentions_text_iff :
    Mentions word literal.text ↔ Mentions word literal.content.toList := by
  have plain : literal.quote.isAlpha = false := by
    rcases literal.quote_cases with same | same <;> rw [same] <;> rfl
  rw [text, mentions_cons marker plain, mentions_append_cons marker plain,
    or_iff_left (not_mentions_nil marker)]

theorem mentions_entry_iff {own : List Char} (isOwn : own ∈ literal.entry) :
    Mentions word own ↔ Mentions word literal.content.toList := by
  obtain ⟨before, after, blank, blankToo, rfl⟩ := exists_of_mem_entry isOwn
  rw [mentions_letterless_append marker (isLetterless_of_isAllBlank blank),
    mentions_append_letterless_end marker (isLetterless_of_isAllBlank blankToo),
    mentions_text_iff marker]

end Marker

end Literal

/-- Every list of literals can be written. -/
theorem isEnumeration_append {gap : List Char} (isGap : gap ∈ gapForm) (first : Literal)
    (others : List Literal) (rest : String) : IsEnumeration gap first others rest
      (String.ofList ("ENUM".toList ++ ((gap ++ ['(']) ++
        (first.text ++ others.flatMap (fun literal => ',' :: literal.text) ++
          ')' :: rest.toList)))) := by
  have further (literal : Literal) : ',' :: literal.text ∈ literal.further :=
    Language.append_mem_mul (mem_singleton.2 rfl) literal.text_mem_entry
  exact ⟨isGap, _, rfl, _, first.text_mem_entry, _, flatMap_mem_prod further others,
    String.toList_ofList.symm⟩

theorem IsEnumeration.mentions_iff {gap : List Char} {first : Literal} {others : List Literal}
    {rest definition : String} (written : IsEnumeration gap first others rest definition)
    {word : String} (marker : IsMarker word) : Mentions word definition.toList ↔
      Mentions word "ENUM".toList ∨
        (∃ literal ∈ first :: others, Mentions word literal.content.toList) ∨
          Mentions word rest.toList := by
  obtain ⟨isGap, keyword, isKeyword, entry, isEntry, entries, areEntries, whole⟩ := written
  have plain : IsLetterless (gap ++ ['(']) := by
    simpa [IsLetterless, or_imp, forall_and] using isLetterless_of_isAllBlank isGap
  have commas : ∀ literal : Literal, ∀ text ∈ literal.further, ∃ gap rest, gap ≠ [] ∧
      IsLetterless gap ∧ gap ++ rest = text ∧
        (Mentions word rest ↔ Mentions word literal.content.toList) := by
    intro literal text isText
    obtain ⟨comma, isComma, own, isOwn, rfl⟩ := Language.mem_mul.1 isText
    obtain rfl := mem_singleton.1 isComma
    exact ⟨[','], own, by simp, by simp [IsLetterless], rfl, Literal.mentions_entry_iff marker isOwn⟩
  rw [← whole, mentions_append_letterless marker (by simp) plain,
    mentions_of_mem_spellings isKeyword, mentions_append_cons marker (by rfl),
    mentions_prod_iff marker commas areEntries, Literal.mentions_entry_iff marker isEntry]
  simp

/-- The keyword itself is none of the words of the rules before. -/
theorem IsEnumeration.mentionsAny_iff {gap : List Char} {first : Literal} {others : List Literal}
    {rest definition : String} (written : IsEnumeration gap first others rest definition) :
    MentionsAny TypeRule.typedWords definition.toList ↔
      (∃ literal ∈ first :: others, MentionsAny TypeRule.typedWords literal.content.toList) ∨
        MentionsAny TypeRule.typedWords rest.toList := by
  have markers : ∀ word ∈ TypeRule.typedWords, IsMarker word := by decide
  have other : ∀ word ∈ TypeRule.typedWords, ¬ Mentions word "ENUM".toList := by decide
  have inside {word : String} (member : word ∈ TypeRule.typedWords) :=
    written.mentions_iff (markers word member)
  constructor
  · rintro ⟨word, member, mentioned⟩
    rcases (inside member).1 mentioned with own | ⟨literal, listed, within⟩ | behind
    · exact absurd own (other word member)
    · exact .inl ⟨literal, listed, word, member, within⟩
    · exact .inr ⟨word, member, behind⟩
  · rintro (⟨literal, listed, word, member, within⟩ | ⟨word, member, behind⟩)
    · exact ⟨word, member, (inside member).2 (.inr (.inl ⟨literal, listed, within⟩))⟩
    · exact ⟨word, member, (inside member).2 (.inr (.inr behind))⟩

namespace TypeRule

/-- The first of the entries of a list. -/
def firstOf (entries : List Char) : List Char :=
  unquote (trim (entries.takeWhile (· != ',')))

theorem isInfix_firstOf (entries : List Char) : firstOf entries <:+: entries := by
  have unquoted (text : List Char) : unquote text <:+: text :=
    (List.rdropWhile_prefix isQuote _).isInfix.trans (List.dropWhile_suffix isQuote).isInfix
  have trimmed (text : List Char) : trim text <:+: text :=
    (List.rdropWhile_prefix isBlank _).isInfix.trans (List.dropWhile_suffix isBlank).isInfix
  exact ((unquoted _).trans (trimmed _)).trans (List.takeWhile_prefix _).isInfix

/-- What stands between the first `ENUM(`, in letters of either case, and the next closing
parenthesis. -/
def enumEntries? (definition : List Char) : Option (List Char) :=
  (splitAtFirst "ENUM(".toList (asciiUpper definition)).bind fun opening =>
    (splitAtFirst [')'] (definition.drop (opening.1.length + 5))).map Prod.fst

/-- The first entry is read if there are any. -/
theorem firstEnumEntry_eq_map (definition : List Char) :
    firstEnumEntry definition =
      ((enumEntries? definition).filter fun entries => !entries.isEmpty).map firstOf := by
  rw [firstEnumEntry, enumEntries?]
  cases splitAtFirst "ENUM(".toList (asciiUpper definition) with
  | none => rfl
  | some opening =>
    simp only [Option.bind_some, splitAtFirst_singleton]
    generalize definition.drop (opening.1.length + 5) = inner
    by_cases member : ')' ∈ inner
    · have closed : (inner.takeWhile (· != ')')).length ≠ inner.length := by
        intro same
        have all := (List.takeWhile_prefix (· != ')') (l := inner)).eq_of_length same
        simpa using List.takeWhile_eq_self_iff.1 all ')' member
      by_cases empty : inner.takeWhile (· != ')') = []
      · simp [member, empty, Option.filter]
      · simp [member, closed, empty, Option.filter, firstOf]
    · have whole : inner.takeWhile (· != ')') = inner :=
        List.takeWhile_eq_self_iff.2 fun c inside => by
          simpa using ne_of_mem_of_not_mem inside member
      simp [member, whole]

/-- A definition encloses entries between the first `ENUM(`, in letters of either case, and the
closing parenthesis that comes next. -/
def Encloses (definition entries : List Char) : Prop :=
  ∃ before keyword after, definition = before ++ (keyword ++ (entries ++ ')' :: after)) ∧
    asciiUpper keyword = "ENUM(".toList ∧
    StandsFirst "ENUM(".toList (asciiUpper before) (asciiUpper definition) ∧ ')' ∉ entries

theorem Encloses.isInfix {definition entries : List Char} (encloses : Encloses definition entries) :
    entries <:+: definition := by
  obtain ⟨before, keyword, after, rfl, -⟩ := encloses
  exact ⟨before ++ keyword, ')' :: after, by simp⟩

/-- What is read between the parentheses is what a definition encloses. -/
theorem enumEntries?_eq_some_iff {definition entries : List Char} :
    enumEntries? definition = some entries ↔ Encloses definition entries := by
  have size : "ENUM(".toList.length = 5 := rfl
  constructor
  · intro found
    obtain ⟨⟨before, behind⟩, opening, closed⟩ := Option.bind_eq_some_iff.1 found
    obtain ⟨front, keyword, rest, whole, rfl, isKeyword, inner⟩ :=
      exists_of_splitAtFirst_asciiUpper opening
    rw [size] at inner
    obtain ⟨⟨entries, ending⟩, closing, rfl⟩ := Option.map_eq_some_iff.1 closed
    simp only [inner] at closing
    obtain ⟨rfl, after, rfl⟩ := splitAtFirst_eq_some closing
    refine ⟨front, keyword, after, whole, isKeyword,
      standsFirst_of_splitAtFirst (by decide) opening, ?_⟩
    have first := (standsFirst_of_splitAtFirst (by decide) closing).first
    rwa [List.dropLast_concat, List.singleton_infix_iff] at first
  · rintro ⟨before, keyword, after, rfl, isKeyword, first, absent⟩
    have opening := (splitAtFirst_eq_some_iff (by decide)).2 ⟨first, asciiUpper_append _ _⟩
    have closing : splitAtFirst [')'] (entries ++ ')' :: after) = some (entries, ')' :: after) := by
      refine (splitAtFirst_eq_some_iff (by decide)).2 ⟨⟨⟨after, by simp⟩, ?_⟩, rfl⟩
      rwa [List.dropLast_concat, List.singleton_infix_iff]
    have behind : (before ++ (keyword ++ (entries ++ ')' :: after))).drop (before.length + 5) =
        entries ++ ')' :: after := by
      rw [← size, ← isKeyword, length_asciiUpper, ← List.drop_drop, List.drop_left, List.drop_left]
    rw [enumEntries?, opening, Option.bind_some, length_asciiUpper, behind, closing]
    rfl

theorem Encloses.firstEnumEntry_eq {definition entries : List Char}
    (encloses : Encloses definition entries) (nonempty : entries ≠ []) :
    firstEnumEntry definition = some (firstOf entries) := by
  rw [firstEnumEntry_eq_map, enumEntries?_eq_some_iff.2 encloses]
  simp [Option.filter, nonempty]

/-- The sample is the first of the entries that a definition encloses. -/
theorem Encloses.enumSample_eq {definition : String} {entries : List Char}
    (encloses : Encloses definition.toList entries) (nonempty : entries ≠ []) :
    enumSample definition = .text (String.ofList (firstOf entries)) := by
  rw [enumSample, encloses.firstEnumEntry_eq nonempty]

/-- Nothing is read where no entries are enclosed. -/
theorem firstEnumEntry_eq_none_iff {definition : List Char} :
    firstEnumEntry definition = none ↔ ∀ entries, Encloses definition entries → entries = [] := by
  simp only [firstEnumEntry_eq_map, Option.map_eq_none_iff, Option.filter_eq_none_iff,
    enumEntries?_eq_some_iff]
  simp

/-- The sample is the word for values where no entries are enclosed. -/
theorem enumSample_eq_value {definition : String}
    (empty : ∀ entries, Encloses definition.toList entries → entries = []) :
    enumSample definition = .text "value" := by
  rw [enumSample, firstEnumEntry_eq_none_iff.2 empty]

/-- A list that the keyword opens is enclosed up to its first closing parenthesis. -/
theorem encloses_takeWhile {keyword list : List Char} (isKeyword : keyword ∈ spellings "ENUM")
    (closed : ')' ∈ list) : Encloses (keyword ++ '(' :: list) (list.takeWhile (· != ')')) := by
  have upper : asciiUpper (keyword ++ ['(']) = "ENUM(".toList := by
    rw [asciiUpper_append, show asciiUpper keyword = "ENUM".toList from isKeyword]
    rfl
  obtain ⟨entries, after, rfl, noEnd⟩ := List.eq_append_cons_of_mem closed
  have taken : (entries ++ ')' :: after).takeWhile (· != ')') = entries := by
    rw [List.takeWhile_append_of_pos fun c member => by
      simpa using ne_of_mem_of_not_mem member noEnd]
    simp
  rw [taken]
  refine ⟨[], keyword ++ ['('], after, by simp, upper, ⟨?_, by decide⟩, noEnd⟩
  rw [List.append_cons, asciiUpper_append, upper]
  exact List.prefix_append _ _

/-- Nothing is enclosed by a text in which no keyword starts. -/
theorem encloses_append_iff_of_apart {front list entries : List Char}
    (apart : ∀ back, back ≠ [] → back <:+ asciiUpper front →
      ¬ "ENUM(".toList <+: back ++ asciiUpper list) :
    Encloses (front ++ list) entries ↔ Encloses list entries := by
  rw [← enumEntries?_eq_some_iff, ← enumEntries?_eq_some_iff, enumEntries?, enumEntries?,
    asciiUpper_append, splitAtFirst_append_of_apart _ apart]
  cases splitAtFirst "ENUM(".toList (asciiUpper list) with
  | none => rfl
  | some opening =>
    have behind : (front ++ list).drop ((asciiUpper front ++ opening.1).length + 5) =
        list.drop (opening.1.length + 5) := by
      rw [List.length_append, length_asciiUpper, Nat.add_assoc, ← List.drop_drop, List.drop_left]
    simp only [Option.map_some, Option.bind_some, behind]

/-- Behind a gap the list is not opened, so that what is enclosed stands behind the parenthesis. -/
theorem encloses_behind_gap_iff {keyword gap list entries : List Char}
    (isKeyword : keyword ∈ spellings "ENUM") (isGap : gap ∈ gapForm) (nonempty : gap ≠ []) :
    Encloses (keyword ++ ((gap ++ ['(']) ++ list)) entries ↔ Encloses list entries := by
  have plain : IsLetterless (gap ++ ['(']) := by
    simpa [IsLetterless, or_imp, forall_and] using isLetterless_of_isAllBlank isGap
  rw [← List.append_assoc]
  refine encloses_append_iff_of_apart fun back given behind start => ?_
  rw [asciiUpper_append, show asciiUpper keyword = "ENUM".toList from isKeyword,
    asciiUpper_of_isLetterless plain] at behind
  obtain ⟨c, more, rfl⟩ := List.exists_cons_of_ne_nil given
  obtain ⟨rfl, later⟩ := List.cons_prefix_cons.1 start
  obtain ⟨g, others, rfl⟩ := List.exists_cons_of_ne_nil nonempty
  have blank : isBlank g = true := List.all_eq_true.1 isGap g List.mem_cons_self
  change 'E' :: more <:+ 'E' :: 'N' :: 'U' :: 'M' :: ((g :: others) ++ ['(']) at behind
  rcases List.suffix_cons_iff.1 behind with whole | behind
  · obtain ⟨-, rfl⟩ := List.cons_eq_cons.1 whole
    have opened : ['N', 'U', 'M', '('] <+: ['N', 'U', 'M', g] := by
      refine List.prefix_of_prefix_length_le later ?_ (by simp)
      exact ⟨others ++ '(' :: asciiUpper list, by simp⟩
    obtain rfl : '(' = g := by simpa using opened
    exact absurd blank (by decide)
  · have inside : 'E' ∈ 'N' :: 'U' :: 'M' :: ((g :: others) ++ ['(']) :=
      behind.subset List.mem_cons_self
    have inGap : 'E' ∈ (g :: others) ++ ['('] := by simpa using inside
    exact absurd (plain 'E' inGap) (by decide)

/-- A character of the first entry of a list: neither the comma behind it nor the end of the
list. -/
def isInEntry (c : Char) : Bool :=
  c != ',' && c != ')'

theorem isInEntry_eq_false_iff {c : Char} : isInEntry c = false ↔ c = ',' ∨ c = ')' := by
  simp [isInEntry, Decidable.or_iff_not_imp_left]

/-- The first entry of an opened list ends at the first comma or closing parenthesis. -/
theorem firstOf_takeWhile (list : List Char) :
    firstOf (list.takeWhile (· != ')')) = unquote (trim (list.takeWhile isInEntry)) := by
  have both : isInEntry = fun c => decide ((c != ',') = true ∧ (c != ')') = true) := by
    funext c
    rw [isInEntry, Bool.decide_and, Bool.decide_eq_true, Bool.decide_eq_true]
  rw [firstOf, List.takeWhile_takeWhile, both]

theorem isBlank_quote (literal : Literal) : isBlank literal.quote = false := by
  rcases literal.quote_cases with same | same <;> rw [same] <;> rfl

theorem trim_entry {literal : Literal} {own : List Char} (isOwn : own ∈ literal.entry) :
    trim own = literal.text := by
  obtain ⟨before, after, blank, blankToo, rfl⟩ := Literal.exists_of_mem_entry isOwn
  have visible := isBlank_quote literal
  rw [trim, trimLeft_append_of_blank blank, Literal.text, List.cons_append, trimLeft_cons visible,
    ← List.cons_append, trimRight_append_of_blank blankToo, ← List.cons_append,
    trimRight_concat visible]

theorem isInEntry_of_isBlank {c : Char} (blank : isBlank c = true) : isInEntry c = true := by
  rw [← Bool.not_eq_false, isInEntry_eq_false_iff]
  rintro (rfl | rfl) <;> exact absurd blank (by decide)

theorem isInEntry_quote (literal : Literal) : isInEntry literal.quote = true := by
  rcases literal.quote_cases with same | same <;> rw [same] <;> rfl

/-- No entry ends in front of the content of its literal. -/
theorem isInEntry_front {literal : Literal} {before : List Char}
    (blank : isAllBlank before = true) :
    ∀ c ∈ before ++ [literal.quote], isInEntry c = true := by
  simp only [List.mem_append, List.mem_singleton]
  rintro c (member | rfl)
  · exact isInEntry_of_isBlank (List.all_eq_true.1 blank c member)
  · exact isInEntry_quote literal

theorem exists_cons_of_mem_entry {literal : Literal} {own : List Char}
    (isOwn : own ∈ literal.entry) : ∃ c more, own = c :: more ∧ isInEntry c = true := by
  obtain ⟨before, after, blank, -, rfl⟩ := Literal.exists_of_mem_entry isOwn
  cases before with
  | nil => exact ⟨literal.quote, _, rfl, isInEntry_quote literal⟩
  | cons c more =>
    exact ⟨c, _, rfl, isInEntry_of_isBlank (List.all_eq_true.1 blank c List.mem_cons_self)⟩

/-- The content of a literal has no quotes. -/
theorem isQuote_content (literal : Literal) : ∀ c ∈ literal.content.toList, isQuote c = false := by
  intro c member
  have own := List.all_eq_true.1 literal.isPlain c member
  simp only [Bool.and_eq_true, Bool.not_eq_true'] at own
  exact own.1

theorem unquote_cons {quote : Char} (quoted : isQuote quote = true) {text : List Char}
    (plain : ∀ c ∈ text, isQuote c = false) : unquote (quote :: text) = text := by
  have opened : (quote :: text).dropWhile isQuote = text := by
    rw [List.dropWhile_cons_of_pos quoted, List.dropWhile_eq_self_iff]
    intro given
    simpa using plain _ (List.getElem_mem given)
  rw [unquote, opened]
  refine List.rdropWhile_eq_self_iff.2 fun given => ?_
  simpa using plain _ (List.getLast_mem given)

theorem unquote_concat {quote : Char} (quoted : isQuote quote = true) (text : List Char) :
    unquote (text ++ [quote]) = unquote text := by
  rw [unquote, unquote, List.dropWhile_append]
  split
  · next empty =>
    rw [List.isEmpty_iff.1 empty]
    simp [quoted]
  · simp [quoted]

/-- The quotes of a literal are dropped, and its content has none. -/
theorem unquote_text (literal : Literal) : unquote literal.text = literal.content.toList := by
  rw [Literal.text, ← List.cons_append, unquote_concat literal.isQuote,
    unquote_cons literal.isQuote (isQuote_content literal)]

/-- What is read of an entry is the content of its literal, if no comma or closing parenthesis in
the literal cuts it. -/
theorem unquote_takeWhile_entry {literal : Literal} {own : List Char} (isOwn : own ∈ literal.entry)
    (whole : ∀ c ∈ literal.content.toList, isInEntry c = true) :
    unquote (trim (own.takeWhile isInEntry)) = literal.content.toList := by
  obtain ⟨before, after, blank, blankToo, rfl⟩ := Literal.exists_of_mem_entry isOwn
  have inBlank {gap : List Char} (isGap : isAllBlank gap = true) :
      ∀ c ∈ gap, isInEntry c = true := fun c member =>
    isInEntry_of_isBlank (List.all_eq_true.1 isGap c member)
  have all : ∀ c ∈ before ++ (literal.text ++ after), isInEntry c = true := by
    simp only [Literal.text, List.mem_append, List.mem_cons, List.not_mem_nil, or_false]
    rintro c (front | (rfl | inside | rfl) | back)
    · exact inBlank blank c front
    · exact isInEntry_quote literal
    · exact whole c inside
    · exact isInEntry_quote literal
    · exact inBlank blankToo c back
  rw [List.takeWhile_eq_self_iff.2 all, trim_entry isOwn, unquote_text]

/-- A literal with a comma or a closing parenthesis is cut there, and blanks in front of the cut are
dropped. -/
theorem unquote_takeWhile_entry_of_cut {literal : Literal} {own : List Char}
    (isOwn : own ∈ literal.entry) (cut : ∃ c ∈ literal.content.toList, isInEntry c = false) :
    unquote (trim (own.takeWhile isInEntry)) =
      trimRight (literal.content.toList.takeWhile isInEntry) := by
  obtain ⟨before, after, blank, -, rfl⟩ := Literal.exists_of_mem_entry isOwn
  have inside : (literal.content.toList ++ ([literal.quote] ++ after)).takeWhile isInEntry =
      literal.content.toList.takeWhile isInEntry := by
    rw [List.takeWhile_append, if_neg]
    intro same
    have all := (List.takeWhile_prefix isInEntry).eq_of_length same
    obtain ⟨c, member, ends⟩ := cut
    simpa [ends] using List.takeWhile_eq_self_iff.1 all c member
  have shape : before ++ (literal.text ++ after) =
      (before ++ [literal.quote]) ++ (literal.content.toList ++ ([literal.quote] ++ after)) := by
    simp [Literal.text]
  have visible := isBlank_quote literal
  have plain : ∀ c ∈ trimRight (literal.content.toList.takeWhile isInEntry),
      isQuote c = false := fun c member =>
    isQuote_content literal c (List.takeWhile_subset _ ((isPrefix_trimRight _).subset member))
  rw [shape, List.takeWhile_append_of_pos (isInEntry_front blank), inside, List.append_assoc,
    List.singleton_append, trim, trimLeft_append_of_blank blank, trimLeft_cons visible,
    trimRight_cons visible, unquote_cons literal.isQuote plain]

/-- The first literal of a list that the keyword opens is read, up to its first comma or closing
parenthesis. -/
theorem firstEnumEntry_opened {keyword entry tail : List Char} {c : Char} {literal : Literal}
    (isKeyword : keyword ∈ spellings "ENUM") (isEntry : entry ∈ literal.entry)
    (ends : c = ',' ∨ c = ')') (closed : ')' ∈ c :: tail) :
    firstEnumEntry (keyword ++ '(' :: (entry ++ c :: tail)) =
      some (unquote (trim (entry.takeWhile isInEntry))) := by
  have encloses := encloses_takeWhile isKeyword (List.mem_append_right entry closed)
  have given : (entry ++ c :: tail).takeWhile (· != ')') ≠ [] := by
    obtain ⟨d, more, rfl, inEntry⟩ := exists_cons_of_mem_entry isEntry
    simp only [isInEntry, Bool.and_eq_true] at inEntry
    simp [inEntry.2]
  have first : (entry ++ c :: tail).takeWhile isInEntry = entry.takeWhile isInEntry := by
    rw [List.takeWhile_append, List.takeWhile_cons_of_neg (by simp [isInEntry_eq_false_iff.2 ends])]
    split_ifs with same
    · rw [List.append_nil, (List.takeWhile_prefix isInEntry).eq_of_length same]
    · rfl
  rw [encloses.firstEnumEntry_eq given, firstOf_takeWhile, first]

/-- A list that is not opened is not read. -/
theorem firstEnumEntry_eq_none {definition : List Char} (closed : ¬ Mentions "ENUM(" definition) :
    firstEnumEntry definition = none := by
  rw [firstEnumEntry, splitAtFirst_eq_none_iff.2 closed]

end TypeRule

/-! ## Samples -/

variable {gap : List Char} {first : Literal} {others : List Literal} {rest definition : String}

/-- The list of an enumeration without a gap, up to what stands behind the first entry. -/
theorem IsEnumeration.exists_first (written : IsEnumeration [] first others rest definition) :
    ∃ keyword ∈ spellings "ENUM", ∃ entry ∈ first.entry, ∃ c tail, (c = ',' ∨ c = ')') ∧
      ')' ∈ c :: tail ∧ keyword ++ '(' :: (entry ++ c :: tail) = definition.toList := by
  obtain ⟨-, keyword, isKeyword, entry, isEntry, entries, areEntries, whole⟩ := written
  cases others with
  | nil =>
    obtain rfl : entries = [] := areEntries
    exact ⟨keyword, isKeyword, entry, isEntry, ')', rest.toList, .inr rfl, by simp,
      by simpa using whole⟩
  | cons literal others =>
    rw [List.map_cons, List.prod_cons] at areEntries
    obtain ⟨text, isText, further, -, rfl⟩ := Language.mem_mul.1 areEntries
    obtain ⟨comma, isComma, own, -, rfl⟩ := Language.mem_mul.1 isText
    obtain rfl := mem_singleton.1 isComma
    exact ⟨keyword, isKeyword, entry, isEntry, ',', own ++ (further ++ ')' :: rest.toList), .inl rfl,
      by simp, by simpa using whole⟩

theorem sample_of_isEnumeration (isEnum : TypeRule.ofDefinition definition = TypeRule.enumeration) :
    Sample.ofDefinition definition = TypeRule.enumSample definition := by
  rw [Sample.ofDefinition, isEnum]
  rfl

/-- The sample of an enumeration without a gap is what is read of its first literal. -/
theorem IsEnumeration.exists_sample_eq (written : IsEnumeration [] first others rest definition)
    (isEnum : TypeRule.ofDefinition definition = TypeRule.enumeration) :
    ∃ entry ∈ first.entry, Sample.ofDefinition definition =
      .text (String.ofList (TypeRule.unquote (trim (entry.takeWhile TypeRule.isInEntry)))) := by
  obtain ⟨keyword, isKeyword, entry, isEntry, c, tail, ends, closed, whole⟩ := written.exists_first
  refine ⟨entry, isEntry, ?_⟩
  rw [sample_of_isEnumeration isEnum, TypeRule.enumSample, ← whole,
    TypeRule.firstEnumEntry_opened isKeyword isEntry ends closed]

/-- The rule for enumerations is found exactly if no literal and nothing behind the list mentions a
word of the rules before. Then the sample is the first literal if the list is opened without a gap
and neither a comma nor the end of the list is in that literal, and the word for values where no
list is opened at all. -/
theorem enumeration_sample (written : IsEnumeration gap first others rest definition) :
    (TypeRule.ofDefinition definition = TypeRule.enumeration ↔
      (∀ literal ∈ first :: others,
        ¬ MentionsAny TypeRule.typedWords literal.content.toList) ∧
      ¬ MentionsAny TypeRule.typedWords rest.toList) ∧
    (TypeRule.ofDefinition definition = TypeRule.enumeration → gap = [] →
      ',' ∉ first.content.toList → ')' ∉ first.content.toList →
        Sample.ofDefinition definition = .text first.content) ∧
    (TypeRule.ofDefinition definition = TypeRule.enumeration →
      ¬ Mentions "ENUM(" definition.toList → Sample.ofDefinition definition = .text "value") := by
  refine ⟨?_, fun isEnum noGap noComma noEnd => ?_, fun isEnum closed => ?_⟩
  · have named : Mentions "ENUM" definition.toList :=
      (written.mentions_iff (by decide)).2 (.inl List.infix_rfl)
    rw [TypeRule.eq_enumeration_iff, and_iff_right named, written.mentionsAny_iff, not_or]
    simp only [not_exists, not_and]
  · subst noGap
    have whole : ∀ c ∈ first.content.toList, TypeRule.isInEntry c = true := fun c member => by
      rw [← Bool.not_eq_false, TypeRule.isInEntry_eq_false_iff]
      rintro (rfl | rfl)
      · exact noComma member
      · exact noEnd member
    obtain ⟨entry, isEntry, sample⟩ := written.exists_sample_eq isEnum
    rw [sample, TypeRule.unquote_takeWhile_entry isEntry whole, String.ofList_toList]
  · rw [Sample.ofDefinition, isEnum]
    simp only [TypeRule.enumeration, TypeRule.enumSample, TypeRule.firstEnumEntry_eq_none closed]

/-- A list with commas and parentheses in its further values, and with an attribute behind it. -/
theorem pending_sample :
    TypeRule.ofDefinition "ENUM('pending','a,b','c)') DEFAULT 'c)'" = TypeRule.enumeration ∧
      Sample.ofDefinition "ENUM('pending','a,b','c)') DEFAULT 'c)'" = .text "pending" := by
  have written : IsEnumeration [] ⟨'\x27', "pending", rfl, rfl⟩
      [⟨'\x27', "a,b", rfl, rfl⟩, ⟨'\x27', "c)", rfl, rfl⟩] " DEFAULT 'c)'"
      "ENUM('pending','a,b','c)') DEFAULT 'c)'" := isEnumeration_append rfl _ _ _
  obtain ⟨rule, sample, -⟩ := enumeration_sample written
  have isEnum := rule.2 ⟨by decide, by decide⟩
  exact ⟨isEnum, sample isEnum rfl (by decide) (by decide)⟩

/-- A first literal with a comma or a closing parenthesis is cut there, and blanks in front of the
cut are dropped. -/
theorem IsEnumeration.sample_of_cut (written : IsEnumeration [] first others rest definition)
    (isEnum : TypeRule.ofDefinition definition = TypeRule.enumeration)
    (cut : ',' ∈ first.content.toList ∨ ')' ∈ first.content.toList) :
    Sample.ofDefinition definition = .text (String.ofList
      (trimRight (first.content.toList.takeWhile TypeRule.isInEntry))) := by
  have ends : ∃ c ∈ first.content.toList, TypeRule.isInEntry c = false := by
    rcases cut with member | member
    · exact ⟨',', member, rfl⟩
    · exact ⟨')', member, rfl⟩
  obtain ⟨entry, isEntry, sample⟩ := written.exists_sample_eq isEnum
  rw [sample, TypeRule.unquote_takeWhile_entry_of_cut isEntry ends]

example : Sample.ofDefinition "ENUM('a ,b','c')" = .text "a" := by decide

/-- With a gap the sample is the first of the entries that another `ENUM(` encloses, in a literal or
behind the list, and the word for values if there are none. -/
theorem IsEnumeration.sample_of_gap (written : IsEnumeration gap first others rest definition)
    (isEnum : TypeRule.ofDefinition definition = TypeRule.enumeration) (nonempty : gap ≠ []) :
    ∃ keyword ∈ spellings "ENUM", ∃ list,
      keyword ++ ((gap ++ ['(']) ++ list) = definition.toList ∧
      (∀ entries, TypeRule.Encloses list entries → entries ≠ [] →
        Sample.ofDefinition definition = .text (String.ofList (TypeRule.firstOf entries))) ∧
      ((∀ entries, TypeRule.Encloses list entries → entries = []) →
        Sample.ofDefinition definition = .text "value") := by
  obtain ⟨isGap, keyword, isKeyword, entry, -, entries, -, whole⟩ := written
  have enclosed {inner : List Char} : TypeRule.Encloses definition.toList inner ↔
      TypeRule.Encloses (entry ++ entries ++ ')' :: rest.toList) inner := by
    rw [← whole, TypeRule.encloses_behind_gap_iff isKeyword isGap nonempty]
  refine ⟨keyword, isKeyword, _, whole, fun inner encloses given => ?_, fun empty => ?_⟩
  · rw [sample_of_isEnumeration isEnum, (enclosed.2 encloses).enumSample_eq given]
  · rw [sample_of_isEnumeration isEnum,
      TypeRule.enumSample_eq_value fun inner encloses => empty inner (enclosed.1 encloses)]

example : Sample.ofDefinition "ENUM ('a','b') COMMENT 'an enum(x,y)'" = .text "x" := by decide

/-- A value that mentions an integer makes the enumeration one. -/
theorem print_sample :
    IsEnumeration [] ⟨'\x27', "print", rfl, rfl⟩ [⟨'\x27', "draft", rfl, rfl⟩] " NOT NULL"
        "ENUM('print','draft') NOT NULL" ∧
      TypeRule.ofDefinition "ENUM('print','draft') NOT NULL" ≠ TypeRule.enumeration ∧
      Sample.ofDefinition "ENUM('print','draft') NOT NULL" ≠ .text "print" := by
  refine ⟨isEnumeration_append rfl _ _ _, TypeRule.ne_of_name_ne (by decide), by decide⟩

end SchemaScaffold
