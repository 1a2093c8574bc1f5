import SchemaScaffold.Proofs.Sql.Script
import SchemaScaffold.Proofs.Sql.ParsedNames
import SchemaScaffold.Proofs.Text.Findings

/-!
# Creations and statements

A creation is what a statement starts with: `CREATE TABLE` and a name, whether or not a body
follows. Every statement is a creation of its name. The name of a creation may end in the word
`CREATE`, and a creation that starts with this word is then swallowed by the one in front of it;
no other creation starts inside another one.
-/

namespace SchemaScaffold
namespace Sql

open Text

/-- A rest of a text is behind characters none of which is a C. -/
def Skips (text rest : List Char) : Prop :=
  ∃ front, text = front ++ rest ∧ ∀ c ∈ front, c.toUpper ≠ 'C'

theorem Skips.trans {text middle rest : List Char} (first : Skips text middle)
    (second : Skips middle rest) : Skips text rest := by
  obtain ⟨front, rfl, early⟩ := first
  obtain ⟨back, rfl, late⟩ := second
  refine ⟨front ++ back, by simp, fun c member => ?_⟩
  exact (List.mem_append.1 member).elim (early c) (late c)

theorem Skips.cons {c : Char} (other : c.toUpper ≠ 'C') (rest : List Char) :
    Skips (c :: rest) rest :=
  ⟨[c], rfl, by simpa using other⟩

/-- What starts with a C is not among characters that are skipped. -/
theorem Skips.suffix {text rest : List Char} (skips : Skips text rest) {c : Char}
    {more : List Char} (within : c :: more <:+ text) (letter : c.toUpper = 'C') :
    c :: more <:+ rest := by
  obtain ⟨front, rfl, free⟩ := skips
  obtain ⟨lead, whole⟩ := within
  rcases List.append_eq_append_iff.1 whole with ⟨inside, skipped, split⟩ | ⟨lead, -, split⟩
  · cases inside with
    | nil => exact ⟨[], split⟩
    | cons d others =>
      obtain ⟨rfl, -⟩ := List.cons_eq_cons.1 split
      exact absurd letter (free c (by simp [skipped]))
  · exact ⟨lead, split.symm⟩

theorem toUpper_ne_of_isLetter {capital c : Char} (other : capital ≠ 'C')
    (letter : isLetter capital c = true) : c.toUpper ≠ 'C' := by
  simp only [isLetter, Bool.or_eq_true, Bool.and_eq_true, beq_iff_eq] at letter
  rcases letter with (same | ⟨-, rfl⟩) | ⟨-, rfl⟩
  · rwa [same]
  · decide
  · decide

/-- A word without a C skips. -/
theorem skips_keyword {word text rest : List Char} (free : 'C' ∉ word)
    (found : keyword word text = some rest) : Skips text rest := by
  induction word generalizing text with
  | nil => exact ⟨[], by simpa [keyword] using found, by simp⟩
  | cons capital capitals ih =>
    obtain ⟨other, others⟩ := List.ne_and_not_mem_of_not_mem_cons free
    cases text with
    | nil => simp [keyword] at found
    | cons c tail =>
      simp only [keyword] at found
      split at found
      · next letter =>
        exact (Skips.cons (toUpper_ne_of_isLetter other.symm letter) tail).trans (ih others found)
      · simp at found

theorem toUpper_ne_of_isBlank {c : Char} (blank : isBlank c = true) : c.toUpper ≠ 'C' := by
  intro letter
  rw [isBlank_eq_false_of_toUpper letter rfl] at blank
  simp at blank

/-- Blanks are read from the first one on. -/
theorem exists_of_blanks_eq_some {text rest : List Char} (found : blanks text = some rest) :
    ∃ c more, text = c :: more ∧ isBlank c = true ∧ rest = trimLeft text := by
  cases text with
  | nil => simp [blanks] at found
  | cons c more =>
    simp only [blanks] at found
    split at found
    · next blank =>
      refine ⟨c, more, rfl, blank, ?_⟩
      rw [trimLeft, List.dropWhile_cons_of_pos blank]
      exact (Option.some.inj found).symm
    · simp at found

theorem skips_trimLeft (text : List Char) : Skips text (trimLeft text) := by
  obtain ⟨blank, isGap, whole⟩ := exists_blank_append_trimLeft text
  exact ⟨blank, whole, fun c member => toUpper_ne_of_isBlank (List.all_eq_true.1 isGap c member)⟩

theorem skips_blanks {text rest : List Char} (found : blanks text = some rest) :
    Skips text rest := by
  obtain ⟨-, -, -, -, rfl⟩ := exists_of_blanks_eq_some found
  exact skips_trimLeft text

theorem skips_spacedKeyword {word : String} {text rest : List Char} (free : 'C' ∉ word.toList)
    (found : spacedKeyword word text = some rest) : Skips text rest := by
  obtain ⟨middle, gap, read⟩ := Option.bind_eq_some_iff.1 found
  exact (skips_blanks gap).trans (skips_keyword free read)

theorem skips_ifNotExists {text rest : List Char} (found : ifNotExists text = some rest) :
    Skips text rest := by
  obtain ⟨second, early, third⟩ := Option.bind_eq_some_iff.1 found
  obtain ⟨first, readIf, readNot⟩ := Option.bind_eq_some_iff.1 early
  exact ((skips_spacedKeyword (by decide) readIf).trans
    (skips_spacedKeyword (by decide) readNot)).trans (skips_spacedKeyword (by decide) third)

theorem skips_skipBacktick (text : List Char) : Skips text (skipBacktick text) := by
  cases text with
  | nil => exact ⟨[], rfl, by simp⟩
  | cons c rest =>
    simp only [skipBacktick]
    split
    · next tick =>
      subst tick
      exact Skips.cons (by decide) rest
    · exact ⟨[], rfl, by simp⟩

theorem length_skipBacktick_le (text : List Char) : (skipBacktick text).length ≤ text.length := by
  cases text with
  | nil => rfl
  | cons c rest => by_cases tick : c = '\x60' <;> simp [skipBacktick, tick]

theorem length_le_skipBacktick (text : List Char) :
    text.length ≤ (skipBacktick text).length + 1 := by
  cases text with
  | nil => simp [skipBacktick]
  | cons c rest => by_cases tick : c = '\x60' <;> simp [skipBacktick, tick]

theorem isNameChar_eq_false_of_isBlank {c : Char} (blank : isBlank c = true) :
    isNameChar c = false := by
  by_contra named
  have solid := isBlank_eq_false_of_nameChar (by simpa using named)
  simp [solid] at blank

/-- A run goes on to a character of another class or to the end of the text. -/
theorem head?_of_run {member : Char → Bool} {text name rest : List Char}
    (found : run member text = some (name, rest)) :
    ∀ c, rest.head? = some c → member c = false := by
  unfold run at found
  split at found
  · simp at found
  · obtain ⟨-, rfl⟩ : _ ∧ text.dropWhile member = rest := by simpa using found
    intro c first
    exact Bool.eq_false_iff.2 fun inClass => by
      have other := List.head?_dropWhile_not member text
      rw [first] at other
      simp [inClass] at other

/-- A name stands behind blanks and a backtick, if there is one, and ends where its characters
end. -/
theorem exists_of_spacedName_eq_some {text name after : List Char}
    (found : spacedName text = some (name, after)) :
    ∃ behind, Skips text (name ++ behind) ∧ name ≠ [] ∧ IsNameText name ∧
      (∀ c, behind.head? = some c → isNameChar c = false) ∧ after = skipBacktick behind := by
  obtain ⟨middle, gap, quoted⟩ := Option.bind_eq_some_iff.1 found
  obtain ⟨⟨word, behind⟩, ran, shape⟩ := Option.map_eq_some_iff.1 quoted
  obtain ⟨rfl, rfl⟩ : word = name ∧ skipBacktick behind = after := by simpa using shape
  obtain ⟨nonempty, whole, named⟩ := run_eq_some ran
  refine ⟨behind, ?_, nonempty, named, head?_of_run ran, rfl⟩
  rw [← whole]
  exact (skips_blanks gap).trans (skips_skipBacktick middle)

theorem isNameText_of_asciiUpper {text word : List Char} (upper : asciiUpper text = word)
    (capitals : word.all Char.isUpper = true) : IsNameText text := by
  intro c member
  have image : c.toUpper ∈ word := by
    rw [← upper]
    exact List.mem_map_of_mem member
  exact isNameChar_of_toUpper rfl (List.all_eq_true.1 capitals _ image)

/-- A text is split in one way into a name and what does not go on with it. -/
theorem name_unique {name other behind further : List Char} (named : IsNameText name)
    (otherNamed : IsNameText other) (ends : ∀ c, behind.head? = some c → isNameChar c = false)
    (otherEnds : ∀ c, further.head? = some c → isNameChar c = false)
    (same : name ++ behind = other ++ further) : name = other ∧ behind = further := by
  rcases List.append_eq_append_iff.1 same with ⟨more, longer, rest⟩ | ⟨more, longer, rest⟩
  · cases more with
    | nil => exact ⟨by simp [longer], by simpa using rest⟩
    | cons c tail =>
      have inName := otherNamed c (by simp [longer])
      rw [ends c (by simp [rest])] at inName
      simp at inName
  · cases more with
    | nil => exact ⟨by simp [longer], by simpa using rest.symm⟩
    | cons c tail =>
      have inName := named c (by simp [longer])
      rw [otherEnds c (by simp [rest])] at inName
      simp at inName

namespace TableStatement

/-- A creation opens with its first word and a blank. -/
theorem exists_of_opening_eq_some {text rest : List Char} (found : opening text = some rest) :
    ∃ word gap more, text = word ++ gap :: more ∧ asciiUpper word = "CREATE".toList ∧
      isBlank gap = true ∧ Skips (gap :: more) rest := by
  obtain ⟨middle, created, spaced⟩ := Option.bind_eq_some_iff.1 found
  obtain ⟨word, rfl, upper⟩ := exists_of_keyword_eq_some (by decide) created
  have behind := skips_spacedKeyword (by decide) spaced
  obtain ⟨_, gap, -⟩ := Option.bind_eq_some_iff.1 spaced
  obtain ⟨c, more, rfl, blank, -⟩ := exists_of_blanks_eq_some gap
  exact ⟨word, c, more, rfl, upper, blank, behind⟩

/-- A creation is its name, behind characters of which only the first one is a C. -/
theorem exists_of_readName_eq_some {text after : List Char} {name : String}
    (found : readName text = some (name, after)) :
    ∃ first rest behind, text = first :: rest ∧ Skips rest (name.toList ++ behind) ∧
      name.toList ≠ [] ∧ IsNameText name.toList ∧
      (∀ c, behind.head? = some c → isNameChar c = false) ∧ after = skipBacktick behind := by
  obtain ⟨middle, opened, named⟩ := Option.bind_eq_some_iff.1 found
  obtain ⟨⟨word, last⟩, chosen, shape⟩ := Option.map_eq_some_iff.1 named
  obtain ⟨rfl, rfl⟩ : String.ofList word = name ∧ last = after := by simpa using shape
  rw [String.toList_ofList]
  obtain ⟨create, gap, more, rfl, upper, -, skips⟩ := exists_of_opening_eq_some opened
  have spaced : ∃ start, Skips middle start ∧ spacedName start = some (word, last) := by
    rcases Option.or_eq_some_iff.1 chosen with guarded | ⟨-, plain⟩
    · obtain ⟨start, read, own⟩ := Option.bind_eq_some_iff.1 guarded
      exact ⟨start, skips_ifNotExists read, own⟩
    · exact ⟨middle, ⟨[], rfl, by simp⟩, plain⟩
  obtain ⟨start, toStart, own⟩ := spaced
  obtain ⟨behind, toName, nonempty, isName, ends, rfl⟩ := exists_of_spacedName_eq_some own
  -- Of the letters of the first word only the first one is a C.
  obtain ⟨first, letters, rfl⟩ : ∃ first letters, create = first :: letters :=
    List.exists_cons_of_ne_nil fun empty => by simp [empty, asciiUpper] at upper
  have others : asciiUpper letters = "REATE".toList := (List.cons_eq_cons.1 upper).2
  have toGap : Skips (letters ++ gap :: more) (gap :: more) := by
    refine ⟨letters, rfl, fun c member letter => ?_⟩
    have image : 'C' ∈ asciiUpper letters := letter ▸ List.mem_map_of_mem member
    rw [others] at image
    exact absurd image (by decide)
  exact ⟨first, letters ++ gap :: more, behind, rfl,
    ((toGap.trans skips).trans toStart).trans toName, nonempty, isName, ends, rfl⟩

theorem consumes_readName : Consumes readName := by
  intro text name after found
  obtain ⟨first, rest, behind, rfl, ⟨front, rfl, -⟩, -, -, -, rfl⟩ :=
    exists_of_readName_eq_some found
  have shorter := length_skipBacktick_le behind
  simp only [List.length_cons, List.length_append]
  omega

/-- A creation that starts inside another one starts with the end of that one's name. -/
theorem exists_of_covers {start place : List Char} (covers : Covers readName start place)
    (apart : place ≠ start) (opened : opening place ≠ none) :
    ∃ name front word after, readName start = some (name, after) ∧ name.toList = front ++ word ∧
      asciiUpper word = "CREATE".toList ∧ place = word ++ after := by
  obtain ⟨within, name, after, found, inside⟩ := covers
  obtain ⟨rest', opens⟩ := Option.ne_none_iff_exists'.1 opened
  obtain ⟨word, gap, more, rfl, upper, blank, -⟩ := exists_of_opening_eq_some opens
  obtain ⟨first, rest, behind, rfl, skips, -, named, ends, rfl⟩ :=
    exists_of_readName_eq_some found
  obtain ⟨c, letters, rfl⟩ : ∃ c letters, word = c :: letters :=
    List.exists_cons_of_ne_nil fun empty => by simp [empty, asciiUpper] at upper
  have letter : c.toUpper = 'C' := (List.cons_eq_cons.1 upper).1
  have inRest := (List.suffix_cons_iff.1 within).resolve_left apart
  obtain ⟨lead, whole⟩ : c :: letters ++ gap :: more <:+ name.toList ++ behind :=
    skips.suffix inRest letter
  rcases List.append_eq_append_iff.1 whole with ⟨tail, front, split⟩ | ⟨between, -, split⟩
  · have gapEnds : ∀ d, (gap :: more).head? = some d → isNameChar d = false := by
      rintro d ⟨⟩
      exact isNameChar_eq_false_of_isBlank blank
    have isName : IsNameText tail := named.of_subset (by simp [front])
    obtain ⟨rfl, rfl⟩ := name_unique (isNameText_of_asciiUpper upper (by decide)) isName gapEnds
      ends split
    have noTick : gap ≠ '\x60' := by
      rintro rfl
      exact absurd blank (by decide)
    exact ⟨name, lead, c :: letters, _, found, front, upper, by simp [skipBacktick, noTick]⟩
  · -- Behind the name there is at most a backtick, which is no C.
    exfalso
    cases between with
    | nil =>
      obtain rfl : behind = c :: letters ++ gap :: more := by simpa using split
      have noTick : c ≠ '\x60' := by
        rintro rfl
        exact absurd letter (by decide)
      simp [skipBacktick, noTick] at inside
    | cons d others =>
      have bound := length_le_skipBacktick behind
      have longer := congrArg List.length split
      simp only [List.length_append, List.length_cons] at longer inside
      omega

/-- What begins with `IF NOT EXISTS` is no name with a body. -/
theorem nameAndBody_of_ifNotExists {text rest : List Char}
    (guarded : ifNotExists text = some rest) : nameAndBody text = none := by
  obtain ⟨_, early, -⟩ := Option.bind_eq_some_iff.1 guarded
  obtain ⟨middle, readIf, readNot⟩ := Option.bind_eq_some_iff.1 early
  obtain ⟨start, gap, word⟩ := Option.bind_eq_some_iff.1 readIf
  obtain ⟨further, secondGap, secondWord⟩ := Option.bind_eq_some_iff.1 readNot
  obtain ⟨front, rfl, upper⟩ := exists_of_keyword_eq_some (by decide) word
  obtain ⟨c, more, rfl, blank, rfl⟩ := exists_of_blanks_eq_some secondGap
  obtain ⟨second, split, secondUpper⟩ := exists_of_keyword_eq_some (by decide) secondWord
  obtain ⟨i, letters, rfl⟩ : ∃ i letters, front = i :: letters :=
    List.exists_cons_of_ne_nil fun empty => by simp [empty, asciiUpper] at upper
  obtain ⟨n, others, rfl⟩ : ∃ n others, second = n :: others :=
    List.exists_cons_of_ne_nil fun empty => by simp [empty, asciiUpper] at secondUpper
  have notTick {d : Char} (other : isNameChar d = true ∨ isBlank d = true) : d ≠ '\x60' := by
    rintro rfl
    exact absurd other (by decide)
  have named := isNameText_of_asciiUpper upper (by decide)
  have ran := run_append (List.cons_ne_nil i letters) named
    (isNameChar_eq_false_of_isBlank blank) more
  have name : spacedName text = some (i :: letters, c :: more) := by
    have skipped : skipBacktick (i :: letters ++ c :: more) = i :: letters ++ c :: more :=
      if_neg (notTick (.inl (named i (by simp))))
    simp only [spacedName, gap, Option.bind_some, quotedName, skipped, ran, Option.map_some]
    simp [skipBacktick, notTick (.inr blank)]
  have closed : n ≠ '(' := by
    rintro rfl
    exact absurd (List.cons_eq_cons.1 secondUpper).1 (by decide)
  simp only [nameAndBody, name, Option.bind_some, parenthesizedBody, split, List.cons_append]
  split
  · next rest' shape => exact absurd (List.cons_eq_cons.1 shape).1 closed
  · rfl

theorem length_trimLeft_le (text : List Char) : (trimLeft text).length ≤ text.length :=
  (List.dropWhile_suffix isBlank).length_le

/-- A body ends in front of what follows it. -/
theorem length_readBody {text inside after : List Char}
    (found : readBody text = some (inside, after)) : after.length < text.length := by
  induction text generalizing inside with
  | nil => simp [readBody] at found
  | cons c rest ih =>
    simp only [readBody] at found
    split at found
    · simp at found
    · split at found
      · next clause =>
        obtain ⟨-, rfl⟩ := Prod.mk.inj (Option.some.inj found)
        split at clause
        · have keyword := length_keyword_le clause
          have gap := length_trimLeft_le rest
          rw [List.length_cons]
          omega
        · simp at clause
      · obtain ⟨⟨tail, last⟩, later, shape⟩ := Option.map_eq_some_iff.1 found
        obtain ⟨-, rfl⟩ := Prod.mk.inj shape
        have shorter := ih later
        rw [List.length_cons]
        omega

theorem length_parenthesizedBody {text inside after : List Char}
    (found : parenthesizedBody text = some (inside, after)) : after.length < text.length := by
  have gap := length_trimLeft_le text
  unfold parenthesizedBody at found
  split at found
  · next rest opens =>
    have shorter := length_readBody found
    rw [opens, List.length_cons] at gap
    omega
  · simp at found

theorem exists_spacedName_of_nameAndBody {text after : List Char} {statement : TableStatement}
    (found : nameAndBody text = some (statement, after)) :
    ∃ behind, spacedName text = some (statement.name.toList, behind) ∧
      after.length < behind.length := by
  obtain ⟨⟨name, behind⟩, spaced, bodied⟩ := Option.bind_eq_some_iff.1 found
  obtain ⟨⟨inside, last⟩, body, shape⟩ := Option.map_eq_some_iff.1 bodied
  obtain ⟨rfl, rfl⟩ := Prod.mk.inj shape
  exact ⟨behind, by simpa using spaced, length_parenthesizedBody body⟩

/-- A statement is a creation of its name, and its body is behind the name. -/
theorem exists_readName_of_read {text after : List Char} {statement : TableStatement}
    (found : read text = some (statement, after)) :
    ∃ behind, readName text = some (statement.name, behind) ∧ after.length < behind.length := by
  obtain ⟨rest, opened, chosen⟩ := Option.bind_eq_some_iff.1 found
  have named {behind : List Char}
      (spaced : ((ifNotExists rest).bind spacedName).or (spacedName rest) =
        some (statement.name.toList, behind)) :
      readName text = some (statement.name, behind) := by
    simp [readName, opened, spaced]
  rcases Option.or_eq_some_iff.1 chosen with guarded | ⟨-, plain⟩
  · obtain ⟨start, read, own⟩ := Option.bind_eq_some_iff.1 guarded
    obtain ⟨behind, spaced, shorter⟩ := exists_spacedName_of_nameAndBody own
    exact ⟨behind, named (by simp [read, spaced]), shorter⟩
  · obtain ⟨behind, spaced, shorter⟩ := exists_spacedName_of_nameAndBody plain
    refine ⟨behind, named ?_, shorter⟩
    cases guard : ifNotExists rest with
    | none => simp [spaced]
    | some start =>
      rw [nameAndBody_of_ifNotExists guard] at plain
      simp at plain

theorem consumes_read : Consumes read := by
  intro text statement after found
  obtain ⟨behind, named, shorter⟩ := exists_readName_of_read found
  exact shorter.trans (consumes_readName _ _ _ named)

end TableStatement

end Sql
end SchemaScaffold
