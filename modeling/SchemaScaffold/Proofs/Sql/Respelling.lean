import SchemaScaffold.Proofs.Sql.Creation
import SchemaScaffold.Proofs.Text.Respelling

/-!
# Statements in other spellings

A spelling is neutral if it keeps the letters of keywords, the characters of names and words, and
the marks of statements. In a neutral spelling of a text the same statements are found at the same
places: their names and bodies are spelled the other way.
-/

namespace SchemaScaffold
namespace Sql

open Text

/-- A spelling keeps everything that the readers of statements look at. -/
structure IsNeutral (spelling : Respelling) : Prop where
  letter : ∀ capital c, capital.isUpper = true →
    isLetter capital (spelling.first c) = isLetter capital c
  nameChar : ∀ c, isNameChar (spelling.first c) = isNameChar c
  wordChar : ∀ c, isWordChar (spelling.first c) = isWordChar c
  mark : ∀ mark ∈ ['\x60', '(', ')', ';'], ∀ c, spelling.first c = mark ↔ c = mark

theorem isLetter_eq_false_of_isBlank {capital c : Char} (isCapital : capital.isUpper = true)
    (blank : isBlank c = true) : isLetter capital c = false := by
  by_contra letter
  simp only [Bool.not_eq_false, isLetter, Bool.or_eq_true, Bool.and_eq_true, beq_iff_eq] at letter
  rcases letter with (upper | ⟨-, rfl⟩) | ⟨-, rfl⟩
  · rw [isBlank_eq_false_of_toUpper upper isCapital] at blank
    simp at blank
  · exact absurd blank (by decide)
  · exact absurd blank (by decide)

/-- The code points of blanks. -/
def blankCodes : List Nat :=
  [0x09, 0x0A, 0x0B, 0x0C, 0x0D, 0x20, 0x85, 0xA0, 0x1680, 0x2000, 0x2001, 0x2002, 0x2003, 0x2004,
    0x2005, 0x2006, 0x2007, 0x2008, 0x2009, 0x200A, 0x2028, 0x2029, 0x202F, 0x205F, 0x3000]

theorem mem_blankCodes {c : Char} (blank : isBlank c = true) : c.toNat ∈ blankCodes := by
  simp only [isBlank, Bool.or_eq_true, Bool.and_eq_true, decide_eq_true_eq, beq_iff_eq] at blank
  simp only [blankCodes, List.mem_cons, List.not_mem_nil, or_false]
  omega

theorem isWordChar_eq_false_of_isBlank {c : Char} (blank : isBlank c = true) :
    isWordChar c = false := by
  have apart : ∀ code ∈ blankCodes, isWordChar (Char.ofNat code) = false := by
    decide +kernel
  have own := apart c.toNat (mem_blankCodes blank)
  rwa [Char.ofNat_toNat] at own

/-- No keyword begins with a blank. -/
theorem keyword_eq_none_of_isBlank {capital : Char} (isCapital : capital.isUpper = true)
    (capitals : List Char) {c : Char} (blank : isBlank c = true) (rest : List Char) :
    keyword (capital :: capitals) (c :: rest) = none := by
  rw [keyword, isLetter_eq_false_of_isBlank isCapital blank]
  rfl

/-- A reader leaves an end of the text that it reads. -/
theorem suffix_of_spacedName {text name after : List Char}
    (found : spacedName text = some (name, after)) : after <:+ text := by
  obtain ⟨behind, ⟨front, rfl, -⟩, -, -, -, rfl⟩ := exists_of_spacedName_eq_some found
  obtain ⟨tick, shape, -⟩ := skips_skipBacktick behind
  exact ⟨front ++ (name ++ tick), by simp [← shape]⟩

theorem suffix_of_ifNotExists {text rest : List Char} (found : ifNotExists text = some rest) :
    rest <:+ text := by
  obtain ⟨front, rfl, -⟩ := skips_ifNotExists found
  exact ⟨front, rfl⟩

namespace TableStatement

theorem suffix_of_readBody {text inside after : List Char}
    (found : readBody text = some (inside, after)) : after <:+ text := by
  induction text generalizing inside with
  | nil => simp [readBody] at found
  | cons c rest ih =>
    simp only [readBody] at found
    split at found
    · simp at found
    · split at found
      · next clause =>
        obtain ⟨-, rfl⟩ := Prod.mk.inj (Option.some.inj found)
        split at clause
        · obtain ⟨engine, back, -⟩ := skips_keyword (by decide) clause
          obtain ⟨gap, whole, -⟩ := skips_trimLeft rest
          exact ⟨c :: (gap ++ engine), by rw [List.cons_append, List.append_assoc, ← back, ← whole]⟩
        · simp at clause
      · obtain ⟨⟨tail, last⟩, later, shape⟩ := Option.map_eq_some_iff.1 found
        obtain ⟨-, rfl⟩ := Prod.mk.inj shape
        exact (ih later).trans (List.suffix_cons c rest)

theorem suffix_of_nameAndBody {text after : List Char} {statement : TableStatement}
    (found : nameAndBody text = some (statement, after)) : after <:+ text := by
  obtain ⟨⟨name, behind⟩, spaced, bodied⟩ := Option.bind_eq_some_iff.1 found
  obtain ⟨⟨inside, last⟩, body, shape⟩ := Option.map_eq_some_iff.1 bodied
  obtain ⟨-, rfl⟩ := Prod.mk.inj shape
  refine List.IsSuffix.trans ?_ (suffix_of_spacedName spaced)
  unfold parenthesizedBody at body
  split at body
  · next rest opens =>
    obtain ⟨gap, whole, -⟩ := skips_trimLeft behind
    have inner := (suffix_of_readBody body).trans (List.suffix_cons '(' rest)
    rw [← opens] at inner
    exact inner.trans ⟨gap, whole.symm⟩
  · simp at body

/-- A creation goes on behind its first character. -/
theorem suffix_of_opening {c : Char} {rest after : List Char}
    (found : opening (c :: rest) = some after) : after <:+ rest := by
  obtain ⟨word, gap, more, shape, upper, -, ⟨front, behind, -⟩⟩ := exists_of_opening_eq_some found
  cases word with
  | nil => simp [asciiUpper] at upper
  | cons d letters =>
    obtain ⟨-, rest⟩ := List.cons_eq_cons.1 shape
    exact ⟨letters ++ front, by rw [rest, List.append_assoc, ← behind]; rfl⟩

theorem leavesEnd_read : LeavesEnd read := by
  intro c rest statement after found
  obtain ⟨behind, opened, chosen⟩ := Option.bind_eq_some_iff.1 found
  refine List.IsSuffix.trans ?_ (suffix_of_opening opened)
  rcases Option.or_eq_some_iff.1 chosen with guarded | ⟨-, plain⟩
  · obtain ⟨start, guard, own⟩ := Option.bind_eq_some_iff.1 guarded
    exact (suffix_of_nameAndBody own).trans (suffix_of_ifNotExists guard)
  · exact suffix_of_nameAndBody plain

theorem leavesEnd_readName : LeavesEnd readName := by
  intro c rest name after found
  obtain ⟨first, others, behind, shape, ⟨front, rfl, -⟩, -, -, -, rfl⟩ :=
    exists_of_readName_eq_some found
  obtain ⟨-, rfl⟩ := List.cons_eq_cons.1 shape
  obtain ⟨tick, whole, -⟩ := skips_skipBacktick behind
  exact ⟨front ++ (name.toList ++ tick), by simp [← whole]⟩

theorem opening_eq_none_of_isBlank {c : Char} (blank : isBlank c = true) (rest : List Char) :
    opening (c :: rest) = none := by
  have unread : keyword "CREATE".toList (c :: rest) = none :=
    keyword_eq_none_of_isBlank rfl "REATE".toList blank rest
  rw [opening, unread]
  rfl

theorem skipsBlanks_read : SkipsBlanks read := by
  intro c rest blank
  rw [read, opening_eq_none_of_isBlank blank]
  rfl

theorem skipsBlanks_readName : SkipsBlanks readName := by
  intro c rest blank
  rw [readName, opening_eq_none_of_isBlank blank]
  rfl

end TableStatement

variable {spelling : Respelling}

theorem follows_blanks : spelling.Follows spelling.apply blanks := by
  intro text
  cases text with
  | nil => rfl
  | cons c rest =>
    rw [Respelling.apply_cons, blanks, blanks, spelling.isBlank_first]
    cases isBlank c with
    | false => rfl
    | true =>
      rw [if_pos rfl, if_pos rfl, trimLeft_append_of_blank (spelling.isAllBlank_more c),
        Respelling.trimLeft_apply]
      rfl

theorem follows_run {member : Char → Bool} (same : ∀ c, member (spelling.first c) = member c)
    (visible : ∀ c, member c = true → isBlank c = false) :
    spelling.Follows (spelling.found spelling.apply) (run member) := by
  intro text
  simp only [run, Respelling.takeWhile_apply same visible, Respelling.dropWhile_apply same visible]
  cases text.takeWhile member <;> rfl

section Words

variable (neutral : IsNeutral spelling)

include neutral

/-- A reader that leaves a rest of the text follows if the rest is spelled the other way. -/
theorem follows_keyword {word : List Char} (capitals : word.all Char.isUpper = true) :
    spelling.Follows spelling.apply (keyword word) := by
  intro text
  induction word generalizing text with
  | nil => rfl
  | cons capital others ih =>
    rw [List.all_cons, Bool.and_eq_true] at capitals
    cases text with
    | nil => rfl
    | cons c rest =>
      have same := neutral.letter capital c capitals.1
      rw [Respelling.apply_cons, keyword, keyword, same]
      cases letter : isLetter capital c with
      | false => rfl
      | true =>
        have visible : isBlank c = false := by
          by_contra blank
          rw [isLetter_eq_false_of_isBlank capitals.1 (by simpa using blank)] at letter
          simp at letter
        rw [spelling.more_of_visible c visible, List.nil_append]
        exact ih capitals.2 rest

theorem follows_spacedKeyword {word : String} (capitals : word.toList.all Char.isUpper = true) :
    spelling.Follows spelling.apply (spacedKeyword word) :=
  (follows_blanks).bind (follows_keyword neutral capitals)

theorem follows_ifNotExists : spelling.Follows spelling.apply ifNotExists := by
  have first : spelling.Follows spelling.apply fun text =>
      (spacedKeyword "IF" text).bind (spacedKeyword "NOT") :=
    (follows_spacedKeyword neutral (by decide)).bind (follows_spacedKeyword neutral (by decide))
  exact first.bind (follows_spacedKeyword neutral (by decide))

theorem skipBacktick_apply (text : List Char) :
    skipBacktick (spelling.apply text) = spelling.apply (skipBacktick text) := by
  cases text with
  | nil => rfl
  | cons c rest =>
    have same := neutral.mark '\x60' (by simp) c
    by_cases tick : c = '\x60'
    · have visible : isBlank c = false := by rw [tick]; rfl
      rw [Respelling.apply_cons_of_visible visible, skipBacktick, skipBacktick,
        if_pos (same.2 tick), if_pos tick]
    · rw [Respelling.apply_cons, skipBacktick, skipBacktick, if_neg (mt same.1 tick), if_neg tick]
      rfl

theorem follows_quotedName : spelling.Follows (spelling.found spelling.apply) quotedName := by
  intro text
  have ran := follows_run neutral.nameChar (fun _ => isBlank_eq_false_of_nameChar)
    (skipBacktick text)
  simp only [quotedName, skipBacktick_apply neutral, ran, Option.map_map]
  refine congrFun (congrArg Option.map (funext fun found => ?_)) _
  exact congrArg (Prod.mk _) (skipBacktick_apply neutral found.2)

theorem follows_spacedName : spelling.Follows (spelling.found spelling.apply) spacedName :=
  (follows_blanks).bind (follows_quotedName neutral)

end Words

/-- A text in its other spelling, as a text. -/
def respell (spelling : Respelling) (text : String) : String :=
  String.ofList (spelling.apply text.toList)

namespace TableStatement

/-- The statement with its name and its body in the other spelling. -/
def respell (spelling : Respelling) (statement : TableStatement) : TableStatement :=
  ⟨Sql.respell spelling statement.name, Sql.respell spelling statement.body⟩

/-- No body begins or ends within blanks. -/
theorem readBody_append_of_blank {blank : List Char} (isGap : isAllBlank blank = true)
    (text : List Char) :
    readBody (blank ++ text) = (readBody text).map fun found => (blank ++ found.1, found.2) := by
  induction blank with
  | nil => simp
  | cons c rest ih =>
    have own : isBlank c = true ∧ isAllBlank rest = true := by
      simpa [isAllBlank] using isGap
    have apart (mark : Char) (visible : isBlank mark = false) : c ≠ mark := by
      rintro rfl
      rw [visible] at own
      simp at own
    rw [List.cons_append, readBody, if_neg (apart ';' rfl), if_neg (apart ')' rfl), ih own.2]
    simp [Function.comp_def]

variable (neutral : IsNeutral spelling)

include neutral

theorem follows_opening : spelling.Follows spelling.apply opening :=
  (follows_keyword neutral (by decide)).bind (follows_spacedKeyword neutral (by decide))

theorem follows_engineClause : spelling.Follows spelling.apply engineClause := by
  intro text
  rw [engineClause, engineClause, Respelling.trimLeft_apply]
  exact follows_keyword neutral (by decide) (trimLeft text)

theorem follows_readBody : spelling.Follows (spelling.found spelling.apply) readBody := by
  intro text
  induction text with
  | nil => rfl
  | cons c rest ih =>
    have stops := neutral.mark ';' (by simp) c
    have closes := neutral.mark ')' (by simp) c
    rw [Respelling.apply_cons]
    by_cases semicolon : c = ';'
    · rw [readBody, readBody, if_pos (stops.2 semicolon), if_pos semicolon]
      rfl
    · by_cases parenthesis : c = ')'
      · have visible : isBlank c = false := by rw [parenthesis]; rfl
        rw [spelling.more_of_visible c visible, List.nil_append, readBody, readBody,
          if_neg (mt stops.1 semicolon), if_neg semicolon, if_pos (closes.2 parenthesis),
          if_pos parenthesis, follows_engineClause neutral rest, ih]
        cases engineClause rest with
        | some after => rfl
        | none =>
          cases readBody rest with
          | none => rfl
          | some found =>
            simp [Respelling.found, Respelling.apply_cons_of_visible visible]
      · rw [readBody, readBody, if_neg (mt stops.1 semicolon), if_neg semicolon,
          if_neg (mt closes.1 parenthesis), if_neg parenthesis,
          readBody_append_of_blank (spelling.isAllBlank_more c), ih]
        cases readBody rest with
        | none => rfl
        | some found => simp [Respelling.found, Respelling.apply_cons]

theorem follows_parenthesizedBody :
    spelling.Follows (spelling.found spelling.apply) parenthesizedBody := by
  intro text
  rw [parenthesizedBody, parenthesizedBody, Respelling.trimLeft_apply]
  cases trimLeft text with
  | nil => rfl
  | cons c rest =>
    have same := neutral.mark '(' (by simp) c
    by_cases opens : c = '('
    · subst opens
      have visible : isBlank '(' = false := rfl
      rw [Respelling.apply_cons_of_visible visible, same.2 rfl]
      exact follows_readBody neutral rest
    · have other := mt same.1 opens
      rw [Respelling.apply_cons]
      simp [opens, other]

theorem follows_nameAndBody :
    spelling.Follows (spelling.found (respell spelling)) nameAndBody := by
  refine (follows_spacedName neutral).bind fun found => ?_
  obtain ⟨name, rest⟩ := found
  have body := follows_parenthesizedBody neutral rest
  simp only [Respelling.found, body, Option.map_map]
  refine congrFun (congrArg Option.map (funext fun inside => ?_)) _
  simp [Respelling.found, respell, Sql.respell]

theorem follows_read : spelling.Follows (spelling.found (respell spelling)) read :=
  (follows_opening neutral).bind
    (((follows_ifNotExists neutral).bind (follows_nameAndBody neutral)).or
      (follows_nameAndBody neutral))

theorem follows_readName :
    spelling.Follows (spelling.found (Sql.respell spelling)) readName :=
  (follows_opening neutral).bind
    ((((follows_ifNotExists neutral).bind (follows_spacedName neutral)).or
      (follows_spacedName neutral)).map fun _ => by simp [Respelling.found, Sql.respell])

/-- In the other spelling of a text are the statements of the text in their other spelling. -/
theorem all_apply (text : List Char) :
    all (spelling.apply text) = (all text).map (respell spelling) :=
  Respelling.scan_apply (follows_read neutral) skipsBlanks_read leavesEnd_read text

theorem scan_readName_apply (text : List Char) :
    scan readName (spelling.apply text) = (scan readName text).map (Sql.respell spelling) :=
  Respelling.scan_apply (follows_readName neutral) skipsBlanks_readName leavesEnd_readName text

end TableStatement

namespace DatabaseStatement

theorem skipsBlanks_readCreate : SkipsBlanks readCreate := by
  intro c rest blank
  have unread : keyword "CREATE".toList (c :: rest) = none :=
    keyword_eq_none_of_isBlank rfl "REATE".toList blank rest
  rw [readCreate, unread]
  rfl

variable (neutral : IsNeutral spelling)

include neutral

theorem follows_guardClause : spelling.Follows spelling.apply guardClause := by
  have first : spelling.Follows spelling.apply fun text =>
      (keyword "IF".toList text).bind (spacedKeyword "NOT") :=
    (follows_keyword neutral (by decide)).bind (follows_spacedKeyword neutral (by decide))
  exact first.bind ((follows_spacedKeyword neutral (by decide)).bind follows_blanks)

theorem follows_readCreate : spelling.Follows (spelling.found (Sql.respell spelling)) readCreate := by
  have first : spelling.Follows spelling.apply fun text =>
      (keyword "CREATE".toList text).bind (spacedKeyword "DATABASE") :=
    (follows_keyword neutral (by decide)).bind (follows_spacedKeyword neutral (by decide))
  exact first.bind (follows_blanks.bind
    ((((follows_guardClause neutral).bind (follows_quotedName neutral)).or
      (follows_quotedName neutral)).map fun _ => by simp [Respelling.found, Sql.respell]))

theorem follows_readUse : spelling.Follows (spelling.found (Sql.respell spelling)) readUse :=
  ((follows_keyword neutral (by decide)).bind (follows_spacedName neutral)).map
    fun _ => by simp [Respelling.found, Sql.respell]

omit neutral in
/-- Blanks are passed over, and a word may begin behind them. -/
theorem firstUse_append_of_blank {blank : List Char} (isGap : isAllBlank blank = true)
    {before : Option Char} (apart : before.any isWordChar = false) (text : List Char) :
    firstUse before (blank ++ text) = firstUse none text := by
  induction blank generalizing before with
  | nil =>
    cases text with
    | nil => rfl
    | cons c rest => simp [firstUse, apart]
  | cons c rest ih =>
    have own : isBlank c = true ∧ isAllBlank rest = true := by
      simpa [isAllBlank] using isGap
    have unread : keyword "USE".toList (c :: (rest ++ text)) = none :=
      keyword_eq_none_of_isBlank rfl "SE".toList own.1 (rest ++ text)
    have nothing : readUse (c :: (rest ++ text)) = none := by
      rw [readUse, unread]
      rfl
    rw [List.cons_append, firstUse, nothing, ite_self]
    exact ih own.2 (isWordChar_eq_false_of_isBlank own.1)

theorem firstUse_apply {before other : Option Char}
    (same : other.any isWordChar = before.any isWordChar) (text : List Char) :
    firstUse other (spelling.apply text) = (firstUse before text).map (Sql.respell spelling) := by
  induction text generalizing before other with
  | nil => rfl
  | cons c rest ih =>
    have reads := follows_readUse neutral (c :: rest)
    rw [Respelling.apply_cons] at reads ⊢
    have later : firstUse (some (spelling.first c)) (spelling.more c ++ spelling.apply rest) =
        (firstUse (some c) rest).map (Sql.respell spelling) := by
      cases blank : isBlank c with
      | false =>
        rw [spelling.more_of_visible c blank, List.nil_append]
        exact ih (by simp [neutral.wordChar])
      | true =>
        have apart := isWordChar_eq_false_of_isBlank blank
        rw [firstUse_append_of_blank (spelling.isAllBlank_more c) (by simp [neutral.wordChar, apart])]
        exact ih (by simp [apart])
    rw [firstUse, firstUse, reads, same, later]
    cases before.any isWordChar with
    | true => rfl
    | false =>
      cases readUse (c :: rest) with
      | none => rfl
      | some reading => rfl

/-- The other spelling of a text names the database of the text, in the other spelling. -/
theorem name?_apply (text : List Char) :
    name? (spelling.apply text) = (name? text).map (Sql.respell spelling) := by
  have start : (none : Option Char).any isWordChar = (none : Option Char).any isWordChar := rfl
  rw [name?, name?, Respelling.firstMatch_apply (follows_readCreate neutral) skipsBlanks_readCreate,
    firstUse_apply neutral start]
  cases firstMatch readCreate text <;> rfl

end DatabaseStatement
end Sql
end SchemaScaffold
