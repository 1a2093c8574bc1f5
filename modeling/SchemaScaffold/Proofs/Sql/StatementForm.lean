import SchemaScaffold.Proofs.Sql.Identifiers
import SchemaScaffold.Proofs.Sql.PieceForms

/-!
# The form of statements

Which texts are statements is said piece by piece, as a language. A text is scanned from left to
right: the next statement is the one at the first place where one begins, with the shortest body,
and the scan goes on behind it. Reading a text gives the statements that are scanned.
-/

namespace SchemaScaffold
namespace Sql

open Text

/-- `IF NOT EXISTS`, with blanks in front of each word. -/
def guardForm : Language Char :=
  spacedForm "IF" * spacedForm "NOT" * spacedForm "EXISTS"

/-- What stands in front of the name. -/
def openingForm : Language Char :=
  wordForm "CREATE" * spacedForm "TABLE" * (1 + guardForm)

/-- A name behind blanks, with or without backticks, and an opening parenthesis. -/
def namedForm (name : List Char) : Language Char :=
  spaceForm * tickForm * {name} * tickForm * gapForm * {['(']}

/-- A closing parenthesis and an engine clause. -/
def closingForm : Language Char :=
  {[')']} * (gapForm * wordForm "ENGINE")

/-- The texts that create a table with a given name and body. -/
def statementForm (statement : TableStatement) : Language Char :=
  openingForm * namedForm statement.name.toList * {statement.body.toList} * closingForm

/-- A text is a statement with a name of the characters of names and a body without semicolons. -/
structure IsStatement (statement : TableStatement) (own : List Char) : Prop where
  isName : IsFoldedWord statement.name
  isWhole : ';' ∉ statement.body.toList
  form : own ∈ statementForm statement

/-- A statement begins at the start of a text. -/
def Begins (text : List Char) : Prop :=
  ∃ statement own after, IsStatement statement own ∧ own ++ after = text

/-- A text starts with a statement, and none that it starts with has a shorter body. -/
structure StartsWith (statement : TableStatement) (after text : List Char) : Prop where
  isStart : ∃ own, IsStatement statement own ∧ own ++ after = text
  isShortest : ∀ other own rest, IsStatement other own → own ++ rest = text →
    statement.body.toList.length ≤ other.body.toList.length

/-- The statements of a text from left to right. -/
inductive Scanned : List Char → List TableStatement → Prop
  | done {text : List Char} (silent : ∀ place, place <:+ text → ¬ Begins place) : Scanned text []
  | next {lead place after : List Char} {statement : TableStatement} {later : List TableStatement}
      (silent : ∀ front back, front ++ back = lead → back ≠ [] → ¬ Begins (back ++ place))
      (first : StartsWith statement after place) (behind : Scanned after later) :
      Scanned (lead ++ place) (statement :: later)

theorem mem_statementForm {statement : TableStatement} {own : List Char} :
    own ∈ statementForm statement ↔ ∃ opening ∈ openingForm,
      ∃ named ∈ namedForm statement.name.toList, ∃ closing ∈ closingForm,
        opening ++ (named ++ (statement.body.toList ++ closing)) = own := by
  simp only [statementForm, Language.mem_mul, mem_singleton]
  constructor
  · rintro ⟨_, ⟨_, ⟨opening, isOpening, named, isNamed, rfl⟩, _, rfl, rfl⟩, closing, isClosing, rfl⟩
    exact ⟨opening, isOpening, named, isNamed, closing, isClosing, by simp only [List.append_assoc]⟩
  · rintro ⟨opening, isOpening, named, isNamed, closing, isClosing, rfl⟩
    exact ⟨_, ⟨_, ⟨opening, isOpening, named, isNamed, rfl⟩, _, rfl, rfl⟩, closing, isClosing,
      by simp only [List.append_assoc]⟩

theorem takes_ifNotExists : Takes guardForm (fun _ => True) ifNotExists :=
  ((takes_spacedKeyword (by decide)).bind (takes_spacedKeyword (by decide))
    fun _ _ _ _ => trivial).bind (takes_spacedKeyword (by decide)) fun _ _ _ _ => trivial

namespace TableStatement

theorem takes_opening :
    Takes (wordForm "CREATE" * spacedForm "TABLE") (fun _ => True) opening :=
  (takes_keyword "CREATE").bind (takes_spacedKeyword (by decide)) fun _ _ _ _ => trivial

theorem takes_engineClause :
    Takes (gapForm * wordForm "ENGINE") (fun _ => True) engineClause :=
  takes_trimLeft.bind (takes_keyword "ENGINE") fun _ isOwn rest _ =>
    startsVisibly_of_mem_wordForm (by decide) isOwn rest

end TableStatement

/-- Behind a name there is no further character of names and no further backtick. -/
def EndsName (rest : List Char) : Prop :=
  ∀ c, rest.head? = some c → isNameChar c = false ∧ c ≠ '\x60'

/-- A name is read behind blanks, with or without backticks. -/
theorem spacedName_of_form {name own rest : List Char} (nonempty : name ≠ [])
    (isName : IsNameText name) (form : own ∈ spaceForm * tickForm * {name} * tickForm)
    (ends : EndsName rest) : spacedName (own ++ rest) = some (name, rest) := by
  simp only [Language.mem_mul, mem_singleton] at form
  obtain ⟨_, ⟨_, ⟨space, isSpace, tick, isTick, rfl⟩, _, rfl, rfl⟩, tock, isTock, rfl⟩ := form
  obtain ⟨first, letters, rfl⟩ := List.exists_cons_of_ne_nil nonempty
  have firstNamed : isNameChar first = true := isName first (by simp)
  have noTick : first ≠ '\x60' := by
    rintro rfl
    exact absurd firstNamed (by decide)
  have visible : StartsVisibly (tick ++ (first :: letters ++ (tock ++ rest))) := by
    rcases isTick with rfl | rfl
    · exact startsVisibly_cons.2 (isBlank_eq_false_of_nameChar firstNamed)
    · exact startsVisibly_cons.2 rfl
  have behind : ∀ c, (tock ++ rest).head? = some c → isNameChar c = false := by
    rcases isTock with rfl | rfl
    · exact fun c start => (ends c start).1
    · rintro c ⟨⟩
      rfl
  have gap := takes_blanks.complete isSpace visible
  have opened : skipBacktick (tick ++ (first :: letters ++ (tock ++ rest))) =
      first :: letters ++ (tock ++ rest) :=
    Option.some.inj (takes_skipBacktick.complete isTick (by simpa using noTick))
  have ran := run_of_ends nonempty isName behind
  have closed : skipBacktick (tock ++ rest) = rest :=
    Option.some.inj (takes_skipBacktick.complete isTock fun start => (ends _ start).2 rfl)
  simp only [spacedName, quotedName, List.append_assoc, gap, Option.bind_some, opened, ran,
    Option.map_some, closed]

/-- A name that is read stands behind blanks, with or without backticks. -/
theorem form_of_spacedName {text name rest : List Char}
    (found : spacedName text = some (name, rest)) : name ≠ [] ∧ IsNameText name ∧
      ∃ own ∈ spaceForm * tickForm * {name} * tickForm, own ++ rest = text := by
  obtain ⟨middle, gap, quoted⟩ := Option.bind_eq_some_iff.1 found
  obtain ⟨⟨word, behind⟩, ran, shape⟩ := Option.map_eq_some_iff.1 quoted
  obtain ⟨rfl, rfl⟩ : word = name ∧ skipBacktick behind = rest := by simpa using shape
  obtain ⟨nonempty, whole, named⟩ := run_eq_some ran
  obtain ⟨space, isSpace, rfl⟩ := takes_blanks.sound gap
  obtain ⟨tick, isTick, opened⟩ := exists_tick_append middle
  obtain ⟨tock, isTock, closed⟩ := exists_tick_append behind
  refine ⟨nonempty, named, space ++ tick ++ word ++ tock, ?_, ?_⟩
  · exact Language.append_mem_mul (Language.append_mem_mul
      (Language.append_mem_mul isSpace isTick) rfl) isTock
  · simp only [List.append_assoc, closed, ← whole, opened]

namespace TableStatement

theorem form_of_parenthesizedBody {text : List Char} {found : List Char × List Char}
    (read : parenthesizedBody text = some found) :
    ∃ gap ∈ gapForm, ∃ inner, gap ++ '(' :: inner = text ∧ readBody inner = some found := by
  unfold parenthesizedBody at read
  split at read
  · next inner opens =>
    obtain ⟨gap, isGap, whole⟩ := exists_blank_append_trimLeft text
    exact ⟨gap, isGap, inner, by rw [← opens, ← whole], read⟩
  · simp at read

theorem parenthesizedBody_of_gap {gap : List Char} (isGap : gap ∈ gapForm) (inner : List Char) :
    parenthesizedBody (gap ++ '(' :: inner) = readBody inner := by
  have opens : trimLeft (gap ++ '(' :: inner) = '(' :: inner :=
    Option.some.inj (takes_trimLeft.complete isGap (startsVisibly_cons.2 rfl))
  simp only [parenthesizedBody, opens]

/-- A body that is read is closed by a parenthesis in front of an engine clause. -/
theorem form_of_readBody {text inside after : List Char}
    (found : readBody text = some (inside, after)) :
    ∃ closing ∈ closingForm, inside ++ (closing ++ after) = text := by
  induction text generalizing inside with
  | nil => simp [readBody] at found
  | cons c rest ih =>
    simp only [readBody] at found
    split at found
    · simp at found
    · split at found
      · next clause =>
        obtain ⟨rfl, rfl⟩ := Prod.mk.inj (Option.some.inj found)
        split at clause
        · next closes =>
          obtain ⟨engine, isEngine, rfl⟩ := takes_engineClause.sound clause
          subst closes
          exact ⟨')' :: engine, Language.append_mem_mul (a := [')']) rfl isEngine, rfl⟩
        · simp at clause
      · obtain ⟨⟨tail, last⟩, later, shape⟩ := Option.map_eq_some_iff.1 found
        obtain ⟨rfl, rfl⟩ := Prod.mk.inj shape
        obtain ⟨closing, isClosing, rfl⟩ := ih later
        exact ⟨closing, isClosing, rfl⟩

/-- A body that is closed is read, unless a shorter one is. -/
theorem readBody_of_form {inside closing : List Char} (isWhole : ';' ∉ inside)
    (isClosing : closing ∈ closingForm) (after : List Char) :
    ∃ found rest, readBody (inside ++ (closing ++ after)) = some (found, rest) ∧
      (found = inside ∧ rest = after ∨ found.length < inside.length) := by
  induction inside with
  | nil =>
    obtain ⟨_, rfl, engine, isEngine, rfl⟩ := Language.mem_mul.1 isClosing
    have clause : engineClause (engine ++ after) = some after :=
      takes_engineClause.complete isEngine trivial
    exact ⟨[], after, by simp [readBody, clause], .inl ⟨rfl, rfl⟩⟩
  | cons c rest ih =>
    obtain ⟨here, later⟩ : ';' ≠ c ∧ ';' ∉ rest := by simpa using isWhole
    obtain ⟨found, last, read, same⟩ := ih later
    simp only [List.cons_append, readBody, Ne.symm here, if_false]
    split
    · next last' _ => exact ⟨[], last', rfl, .inr (by simp)⟩
    · refine ⟨c :: found, last, by simp [read], ?_⟩
      rcases same with ⟨rfl, rfl⟩ | shorter
      · exact .inl ⟨rfl, rfl⟩
      · exact .inr (by simpa using shorter)

theorem form_of_nameAndBody {text after : List Char} {statement : TableStatement}
    (found : nameAndBody text = some (statement, after)) : IsFoldedWord statement.name ∧
      ∃ named ∈ namedForm statement.name.toList, ∃ inner, named ++ inner = text ∧
        readBody inner = some (statement.body.toList, after) := by
  obtain ⟨⟨name, behind⟩, spaced, bodied⟩ := Option.bind_eq_some_iff.1 found
  obtain ⟨⟨inside, last⟩, body, shape⟩ := Option.map_eq_some_iff.1 bodied
  obtain ⟨rfl, rfl⟩ := Prod.mk.inj shape
  obtain ⟨nonempty, isName, own, isOwn, rfl⟩ := form_of_spacedName spaced
  obtain ⟨gap, isGap, inner, rfl, read⟩ := form_of_parenthesizedBody body
  refine ⟨⟨by simpa using nonempty, by simpa using isName⟩, own ++ gap ++ ['('], ?_, inner, ?_,
    by simpa using read⟩
  · rw [String.toList_ofList]
    exact Language.append_mem_mul (Language.append_mem_mul isOwn isGap) rfl
  · simp only [List.append_assoc, List.singleton_append]

/-- The body that is read behind a name is that of the statement. -/
theorem nameAndBody_of_form {name : String} {named : List Char} (isName : IsFoldedWord name)
    (isNamed : named ∈ namedForm name.toList) {inner inside after : List Char}
    (body : readBody inner = some (inside, after)) :
    nameAndBody (named ++ inner) = some (⟨name, String.ofList inside⟩, after) := by
  obtain ⟨_, spaced, _, rfl, rfl⟩ := Language.mem_mul.1 isNamed
  obtain ⟨own, isOwn, gap, isGap, rfl⟩ := Language.mem_mul.1 spaced
  have ends : EndsName (gap ++ '(' :: inner) := by
    intro c start
    cases gap with
    | nil =>
      obtain rfl : '(' = c := by simpa using start
      exact ⟨rfl, by decide⟩
    | cons d rest =>
      obtain rfl : d = c := by simpa using start
      have blank : isBlank d = true := List.all_eq_true.1 (mem_gapForm.1 isGap) d (by simp)
      refine ⟨isNameChar_eq_false_of_isBlank blank, ?_⟩
      rintro rfl
      exact absurd blank (by decide)
  have read := spacedName_of_form (by simpa using isName.1) isName.2 isOwn ends
  simp only [nameAndBody, List.append_assoc, List.singleton_append, read, Option.bind_some,
    parenthesizedBody_of_gap isGap, body, Option.map_some, String.ofList_toList]

theorem form_of_read {text after : List Char} {statement : TableStatement}
    (found : read text = some (statement, after)) : IsFoldedWord statement.name ∧
      ∃ opening ∈ openingForm, ∃ named ∈ namedForm statement.name.toList, ∃ inner,
        opening ++ (named ++ inner) = text ∧
          readBody inner = some (statement.body.toList, after) := by
  obtain ⟨rest, opened, chosen⟩ := Option.bind_eq_some_iff.1 found
  obtain ⟨create, isCreate, rfl⟩ := takes_opening.sound opened
  rcases Option.or_eq_some_iff.1 chosen with guarded | ⟨-, plain⟩
  · obtain ⟨start, exist, own⟩ := Option.bind_eq_some_iff.1 guarded
    obtain ⟨guard, isGuard, rfl⟩ := takes_ifNotExists.sound exist
    obtain ⟨isName, named, isNamed, inner, rfl, body⟩ := form_of_nameAndBody own
    exact ⟨isName, create ++ guard, Language.append_mem_mul isCreate (.inr isGuard), named,
      isNamed, inner, List.append_assoc create guard _, body⟩
  · obtain ⟨isName, named, isNamed, inner, rfl, body⟩ := form_of_nameAndBody plain
    refine ⟨isName, create, ?_, named, isNamed, inner, rfl, body⟩
    exact Language.mem_mul.2 ⟨create, isCreate, [], .inl rfl, List.append_nil create⟩

/-- A text with a readable body behind its opening and its name is read. -/
theorem read_of_form {name : String} {opening named : List Char} (isOpening : opening ∈ openingForm)
    (isName : IsFoldedWord name) (isNamed : named ∈ namedForm name.toList)
    {inner inside after : List Char} (body : readBody inner = some (inside, after)) :
    read (opening ++ (named ++ inner)) = some (⟨name, String.ofList inside⟩, after) := by
  have own := nameAndBody_of_form isName isNamed body
  obtain ⟨create, isCreate, guard, isGuard, rfl⟩ := Language.mem_mul.1 isOpening
  have opened : TableStatement.opening (create ++ (guard ++ (named ++ inner))) =
      some (guard ++ (named ++ inner)) := takes_opening.complete isCreate trivial
  rw [read, List.append_assoc, opened, Option.bind_some]
  rcases isGuard with rfl | isGuard
  · -- What `IF NOT EXISTS` begins is no name with a body, but this is one.
    have unguarded : ifNotExists (named ++ inner) = none := by
      by_contra guarded
      obtain ⟨start, exist⟩ := Option.ne_none_iff_exists'.1 guarded
      rw [nameAndBody_of_ifNotExists exist] at own
      simp at own
    rw [List.nil_append, unguarded, Option.bind_none, Option.none_or, own]
  · have exist : ifNotExists (guard ++ (named ++ inner)) = some (named ++ inner) :=
      takes_ifNotExists.complete isGuard trivial
    rw [exist, Option.bind_some, own, Option.some_or]

end TableStatement

namespace IsStatement

variable {statement : TableStatement} {own : List Char}

/-- A text that starts with a statement is read, and no more of it than the statement's body. -/
theorem exists_read (isStatement : IsStatement statement own) (after : List Char) :
    ∃ found rest, TableStatement.read (own ++ after) = some (found, rest) ∧
      (found = statement ∧ rest = after ∨
        found.body.toList.length < statement.body.toList.length) := by
  obtain ⟨isName, isWhole, form⟩ := isStatement
  obtain ⟨opening, isOpening, named, isNamed, closing, isClosing, rfl⟩ := mem_statementForm.1 form
  obtain ⟨found, rest, body, same⟩ := TableStatement.readBody_of_form isWhole isClosing after
  have read := TableStatement.read_of_form isOpening isName isNamed body
  refine ⟨⟨statement.name, String.ofList found⟩, rest, ?_, ?_⟩
  · simpa only [List.append_assoc] using read
  · rcases same with ⟨rfl, rfl⟩ | shorter
    · exact .inl ⟨by rw [String.ofList_toList], rfl⟩
    · exact .inr (by simpa using shorter)

end IsStatement

/-- What is read is a statement at the start of the text. -/
theorem isStatement_of_read {text after : List Char} {statement : TableStatement}
    (found : TableStatement.read text = some (statement, after)) :
    ∃ own, IsStatement statement own ∧ own ++ after = text := by
  obtain ⟨isName, opening, isOpening, named, isNamed, inner, rfl, body⟩ :=
    TableStatement.form_of_read found
  obtain ⟨closing, isClosing, rfl⟩ := TableStatement.form_of_readBody body
  refine ⟨opening ++ (named ++ (statement.body.toList ++ closing)), ⟨isName,
    TableStatement.readBody_no_semicolon body, ?_⟩, by simp only [List.append_assoc]⟩
  exact mem_statementForm.2 ⟨opening, isOpening, named, isNamed, closing, isClosing, rfl⟩

/-- The statement that is read is the one with the shortest body. -/
theorem read_eq_some_iff {text after : List Char} {statement : TableStatement} :
    TableStatement.read text = some (statement, after) ↔ StartsWith statement after text := by
  have isShortest {found : TableStatement} {rest : List Char}
      (read : TableStatement.read text = some (found, rest)) (other : TableStatement)
      (own last : List Char) (isOther : IsStatement other own) (whole : own ++ last = text) :
      found.body.toList.length ≤ other.body.toList.length := by
    obtain ⟨chosen, behind, chosenRead, same⟩ := isOther.exists_read last
    rw [whole, read] at chosenRead
    obtain ⟨rfl, -⟩ := Prod.mk.inj (Option.some.inj chosenRead)
    rcases same with ⟨rfl, -⟩ | shorter
    · exact le_rfl
    · exact shorter.le
  constructor
  · exact fun read => ⟨isStatement_of_read read, isShortest read⟩
  · rintro ⟨⟨own, isStatement, rfl⟩, minimal⟩
    obtain ⟨found, rest, read, same⟩ := isStatement.exists_read after
    obtain ⟨other, isFound, whole⟩ := isStatement_of_read read
    rcases same with ⟨rfl, rfl⟩ | shorter
    · exact read
    · exact absurd (minimal found other rest isFound whole) (Nat.not_le.2 shorter)

theorem begins_iff {text : List Char} : Begins text ↔ TableStatement.read text ≠ none := by
  constructor
  · rintro ⟨statement, own, after, isStatement, rfl⟩ unread
    obtain ⟨found, rest, read, -⟩ := isStatement.exists_read after
    simp [read] at unread
  · intro readable
    obtain ⟨⟨statement, after⟩, read⟩ := Option.ne_none_iff_exists'.1 readable
    obtain ⟨own, isStatement, whole⟩ := isStatement_of_read read
    exact ⟨statement, own, after, isStatement, whole⟩

/-- A body is shortest only if no engine clause is in it. -/
theorem StartsWith.isOpen {statement : TableStatement} {after text : List Char}
    (starts : StartsWith statement after text) : ¬ HasEngineClause statement.body.toList := by
  rintro ⟨front, blank, engine, back, shape, isGap, upper⟩
  obtain ⟨⟨own, ⟨isName, isWhole, form⟩, rfl⟩, isShortest⟩ := starts
  obtain ⟨opening, isOpening, named, isNamed, closing, -, rfl⟩ := mem_statementForm.1 form
  have isEngine : engine ∈ wordForm "ENGINE" := by
    have letters := keyword_eq_some_iff.1 (keyword_append upper [])
    obtain ⟨word, isWord, same⟩ := letters
    obtain rfl : word = engine := by simpa using same
    exact isWord
  -- The body in front of the clause makes a statement of its own.
  have shorter : IsStatement ⟨statement.name, String.ofList front⟩
      (opening ++ (named ++ (front ++ ([')'] ++ (blank ++ engine))))) := by
    refine ⟨isName, fun inside => isWhole (by simp_all), mem_statementForm.2
      ⟨opening, isOpening, named, isNamed, _, ?_, by rw [String.toList_ofList]⟩⟩
    exact Language.append_mem_mul rfl (Language.append_mem_mul isGap isEngine)
  have bound := isShortest _ _ (back ++ (closing ++ after)) shorter (by simp [shape])
  simp only [shape, String.toList_ofList, List.length_append, List.length_cons] at bound
  omega

/-! ## Scanning -/

/-- A text is silent, or there is a first place at which something is read. -/
theorem exists_first_read {α : Type} (read : Matcher α) (text : List Char) :
    (∀ place, place <:+ text → read place = none) ∨ ∃ lead place value after,
      lead ++ place = text ∧ read place = some (value, after) ∧
        ∀ front back, front ++ back = lead → back ≠ [] → read (back ++ place) = none := by
  induction text with
  | nil =>
    cases found : read [] with
    | none => exact .inl fun place within => by rwa [List.suffix_nil.1 within]
    | some reading =>
      obtain ⟨value, after⟩ := reading
      exact .inr ⟨[], [], value, after, rfl, found, fun front back shape nonempty =>
        absurd (List.append_eq_nil_iff.1 shape).2 nonempty⟩
  | cons c rest ih =>
    cases found : read (c :: rest) with
    | some reading =>
      obtain ⟨value, after⟩ := reading
      exact .inr ⟨[], c :: rest, value, after, rfl, found, fun front back shape nonempty =>
        absurd (List.append_eq_nil_iff.1 shape).2 nonempty⟩
    | none =>
      rcases ih with silent | ⟨lead, place, value, after, rfl, here, early⟩
      · refine .inl fun place within => ?_
        rcases List.suffix_cons_iff.1 within with rfl | later
        · exact found
        · exact silent place later
      · refine .inr ⟨c :: lead, place, value, after, rfl, here, fun front back shape nonempty => ?_⟩
        cases front with
        | nil =>
          obtain rfl : back = c :: lead := shape
          exact found
        | cons d others => exact early others back (List.cons_eq_cons.1 shape).2 nonempty

namespace Scanned

/-- What is scanned is read. -/
theorem eq_all {text : List Char} {statements : List TableStatement}
    (scanned : Scanned text statements) : TableStatement.all text = statements := by
  induction scanned with
  | @done text silent =>
    have unread : TableStatement.all (text ++ []) = [] :=
      scan_append_of_none fun front c back shape => by
        rw [List.append_nil]
        by_contra readable
        exact silent (c :: back) ⟨front, shape.symm⟩ (begins_iff.2 readable)
    rwa [List.append_nil] at unread
  | @next lead place after statement later silent first behind ih =>
    have read := read_eq_some_iff.2 first
    have shorter := TableStatement.consumes_read _ _ _ read
    obtain ⟨own, isStatement, whole⟩ := first.isStart
    have passed : TableStatement.all (lead ++ place) = TableStatement.all place :=
      scan_append_of_none fun front c back shape => by
        by_contra readable
        exact silent front (c :: back) shape.symm (List.cons_ne_nil c back)
          (begins_iff.2 readable)
    have place_ne_nil : place ≠ [] := List.ne_nil_of_length_pos (Nat.zero_lt_of_lt shorter)
    obtain ⟨c, rest, rfl⟩ := List.exists_cons_of_ne_nil place_ne_nil
    have within : after <:+ rest :=
      (List.suffix_cons_iff.1 ⟨own, whole⟩).resolve_left fun same => by simp [same] at shorter
    rw [passed, ← ih, TableStatement.all, scan_of_some read, ← List.suffix_iff_eq_drop.1 within]
    rfl

/-- Every text can be scanned. -/
theorem exists_of_text (text : List Char) : ∃ statements, Scanned text statements := by
  -- A statement takes several characters, so the induction is on the length.
  induction length : text.length using Nat.strongRecOn generalizing text with
  | ind size ih =>
    rcases exists_first_read TableStatement.read text with
      silent | ⟨lead, place, statement, after, rfl, read, early⟩
    · exact ⟨[], .done fun place within begins => begins_iff.1 begins (silent place within)⟩
    · have shorter := TableStatement.consumes_read _ _ _ read
      rw [List.length_append] at length
      obtain ⟨later, behind⟩ := ih after.length (by omega) after rfl
      exact ⟨statement :: later, .next
        (fun front back shape nonempty begins =>
          begins_iff.1 begins (early front back shape nonempty))
        (read_eq_some_iff.1 read) behind⟩

end Scanned

/-- What is behind the statement at the start of a text. -/
def behindStatement (text : List Char) : List Char :=
  ((TableStatement.read text).map (·.2)).getD []

/-- The spans of the statements of a text: the text from their starts on, and behind them. -/
def statementSpans (text : List Char) : List (List Char × List Char) :=
  (findings TableStatement.read text).map fun finding => (finding.2, behindStatement finding.2)

/-- What is found starts the text at its place. -/
theorem startsWith_of_mem_findings {text : List Char} {finding : TableStatement × List Char}
    (member : finding ∈ findings TableStatement.read text) :
    finding.2 <:+ text ∧ StartsWith finding.1 (behindStatement finding.2) finding.2 := by
  obtain ⟨within, after, read⟩ := mem_findings member
  have rest : behindStatement finding.2 = after := by simp [behindStatement, read]
  exact ⟨within, rest ▸ read_eq_some_iff.1 read⟩

theorem forall₂_spans (text : List Char) : List.Forall₂ (fun statement span =>
    span.1 <:+ text ∧ StartsWith statement span.2 span.1) (TableStatement.all text)
      (statementSpans text) := by
  rw [TableStatement.all, ← map_findings, statementSpans, List.forall₂_map_left_iff,
    List.forall₂_map_right_iff, List.forall₂_same]
  exact fun finding member => startsWith_of_mem_findings member

/-- Every span ends in front of the next one. -/
theorem pairwise_spans (text : List Char) :
    (statementSpans text).Pairwise fun early late => late.1 <:+ early.2 := by
  rw [statementSpans, List.pairwise_map]
  refine (pairwise_findings TableStatement.consumes_read text).imp_of_mem ?_
  intro early late isEarly isLate apart
  obtain ⟨within, starts⟩ := startsWith_of_mem_findings isEarly
  obtain ⟨own, -, whole⟩ := starts.isStart
  have behindWithin : behindStatement early.2 <:+ text := List.IsSuffix.trans ⟨own, whole⟩ within
  exact List.suffix_of_suffix_length_le (mem_findings isLate).1 behindWithin
    (apart early.1 _ (read_eq_some_iff.2 starts))

/-- Reading a text gives exactly the statements that a scan from left to right finds. Their spans
do not overlap and are in order, and every place at which a statement begins is in one of them. No
body has a semicolon, or a closing parenthesis in front of an engine clause. -/
theorem all_is_scanned (text : List Char) :
    (∀ statements, Scanned text statements ↔ TableStatement.all text = statements) ∧
    (∃ spans : List (List Char × List Char),
      List.Forall₂ (fun statement span =>
        span.1 <:+ text ∧ StartsWith statement span.2 span.1) (TableStatement.all text) spans ∧
      spans.Pairwise (fun early late => late.1 <:+ early.2) ∧
      ∀ place, place <:+ text → Begins place →
        ∃ span ∈ spans, place <:+ span.1 ∧ span.2.length < place.length) ∧
    ∀ statement ∈ TableStatement.all text,
      ';' ∉ statement.body.toList ∧ ¬ HasEngineClause statement.body.toList := by
  refine ⟨fun statements => ⟨Scanned.eq_all, ?_⟩,
    ⟨statementSpans text, forall₂_spans text, pairwise_spans text, ?_⟩, ?_⟩
  · rintro rfl
    obtain ⟨statements, scanned⟩ := Scanned.exists_of_text text
    exact scanned.eq_all ▸ scanned
  · intro place within begins
    obtain ⟨finding, member, covered, statement, after, read, inside⟩ :=
      exists_covers TableStatement.consumes_read within (begins_iff.1 begins)
    refine ⟨_, List.mem_map_of_mem member, covered, ?_⟩
    simpa [behindStatement, read] using inside
  · intro statement member
    rw [TableStatement.all, ← map_findings] at member
    obtain ⟨finding, found, rfl⟩ := List.mem_map.1 member
    obtain ⟨-, starts⟩ := startsWith_of_mem_findings found
    obtain ⟨own, isStatement, -⟩ := starts.isStart
    exact ⟨isStatement.isWhole, starts.isOpen⟩

end Sql
end SchemaScaffold
