import SchemaScaffold.Proofs.Sql.StatementForm

/-!
# The form of database names

Which words stand in front of the name of a database is said as a language, and where the name ends
by the characters of names. A text names a database exactly if such words stand in front of a name
somewhere in it, whatever is around them.
-/

namespace SchemaScaffold
namespace Sql

open Text

/-- A text starts with a name, with a backtick in front of it or none: the longest run of the
characters of names. -/
structure StartsName (name text : List Char) : Prop where
  nonempty : name ≠ []
  isName : IsNameText name
  isStart : ∃ tick ∈ tickForm, ∃ behind, tick ++ (name ++ behind) = text ∧
    ∀ c, behind.head? = some c → isNameChar c = false

/-- A text starts with words of a form, and a name follows them. -/
def LeadsToName (form : Language Char) (text : List Char) : Prop :=
  ∃ own ∈ form, ∃ named name, own ++ named = text ∧ StartsName name named

/-- A text does not end within a word, so that what is behind it stands alone. -/
def EndsWord (lead : List Char) : Prop :=
  ∀ c, lead.getLast? = some c → isWordChar c = false

theorem StartsName.startsVisibly {name text : List Char} (starts : StartsName name text) :
    StartsVisibly text := by
  obtain ⟨nonempty, isName, tick, isTick, behind, rfl, -⟩ := starts
  obtain ⟨first, letters, rfl⟩ := List.exists_cons_of_ne_nil nonempty
  rcases isTick with rfl | rfl
  · exact startsVisibly_cons.2 (isBlank_eq_false_of_nameChar (isName first (by simp)))
  · exact startsVisibly_cons.2 rfl

/-- The name with which a text starts is the one that is read there. -/
theorem startsName_iff {name text : List Char} :
    StartsName name text ↔ ∃ after, quotedName text = some (name, after) := by
  constructor
  · rintro ⟨nonempty, isName, tick, isTick, behind, rfl, ends⟩
    have noTick : (name ++ behind).head? ≠ some '\x60' := by
      obtain ⟨first, letters, rfl⟩ := List.exists_cons_of_ne_nil nonempty
      rintro ⟨⟩
      exact absurd (isName '\x60' (by simp)) (by decide)
    have opened : skipBacktick (tick ++ (name ++ behind)) = name ++ behind :=
      Option.some.inj (takes_skipBacktick.complete isTick noTick)
    exact ⟨skipBacktick behind, by rw [quotedName, opened, run_of_ends nonempty isName ends]; rfl⟩
  · rintro ⟨after, found⟩
    obtain ⟨⟨word, behind⟩, ran, shape⟩ := Option.map_eq_some_iff.1 found
    obtain ⟨rfl, -⟩ : word = name ∧ skipBacktick behind = after := by simpa using shape
    obtain ⟨tick, isTick, opened⟩ := exists_tick_append text
    obtain ⟨nonempty, whole, isName⟩ := run_eq_some ran
    exact ⟨nonempty, isName, tick, isTick, behind, by rw [← whole, opened], head?_of_run ran⟩

namespace DatabaseStatement

/-- `CREATE DATABASE` and the blanks behind it. -/
def createForm : Language Char :=
  wordForm "CREATE" * spacedForm "DATABASE" * spaceForm

/-- `IF NOT EXISTS` and the blanks behind it. -/
def existForm : Language Char :=
  wordForm "IF" * spacedForm "NOT" * (spacedForm "EXISTS" * spaceForm)

/-- What stands in front of the name of a database that is created. -/
def creatingForm : Language Char :=
  createForm * (1 + existForm)

/-- Read `CREATE DATABASE` and the blanks behind it. -/
def createWords (text : List Char) : Option (List Char) :=
  ((keyword "CREATE".toList text).bind (spacedKeyword "DATABASE")).bind blanks

/-- Read a name, behind `IF NOT EXISTS` if there is one. -/
def guardedName (text : List Char) : Option (List Char × List Char) :=
  ((guardClause text).bind quotedName).or (quotedName text)

theorem readCreate_eq (text : List Char) : readCreate text =
    ((createWords text).bind guardedName).map fun found => (String.ofList found.1, found.2) := by
  rw [createWords, Option.bind_assoc, Option.map_bind, readCreate]
  refine congrArg _ (funext fun rest => ?_)
  rw [Function.comp_apply, Option.map_bind]
  rfl

theorem takes_createWords : Takes createForm StartsVisibly createWords :=
  ((takes_keyword "CREATE").bind (takes_spacedKeyword (by decide)) fun _ _ _ _ => trivial).bind
    takes_blanks fun _ _ _ _ => trivial

theorem takes_guardClause : Takes existForm StartsVisibly guardClause :=
  ((takes_keyword "IF").bind (takes_spacedKeyword (by decide)) fun _ _ _ _ => trivial).bind
    ((takes_spacedKeyword (by decide)).bind takes_blanks fun _ _ _ _ => trivial)
    fun _ _ _ _ => trivial

/-- The words in front of a name start with a letter. -/
theorem startsVisibly_of_mem_existForm {guard : List Char} (isGuard : guard ∈ existForm)
    (rest : List Char) : StartsVisibly (guard ++ rest) := by
  simp only [existForm, Language.mem_mul] at isGuard
  obtain ⟨_, ⟨word, isWord, more, -, rfl⟩, further, -, rfl⟩ := isGuard
  simp only [List.append_assoc]
  exact startsVisibly_of_mem_wordForm (by decide) isWord _

/-- Behind `CREATE DATABASE` a name is read, and `IF NOT EXISTS` in front of it. -/
theorem readCreate_of_createForm {create start : List Char} (isCreate : create ∈ createForm)
    (visible : StartsVisibly start) : readCreate (create ++ start) =
      (guardedName start).map fun found => (String.ofList found.1, found.2) := by
  rw [readCreate_eq, takes_createWords.complete isCreate visible, Option.bind_some]

/-- A name that is read stands behind the words for databases that are created. -/
theorem exists_startsName_of_readCreate {text after : List Char} {name : String}
    (found : readCreate text = some (name, after)) :
    ∃ own ∈ creatingForm, ∃ named, own ++ named = text ∧ StartsName name.toList named := by
  rw [readCreate_eq] at found
  obtain ⟨⟨word, last⟩, read, shape⟩ := Option.map_eq_some_iff.1 found
  obtain ⟨rfl, -⟩ : String.ofList word = name ∧ last = after := by simpa using shape
  obtain ⟨start, created, guarded⟩ := Option.bind_eq_some_iff.1 read
  obtain ⟨create, isCreate, rfl⟩ := takes_createWords.sound created
  rw [String.toList_ofList]
  rcases Option.or_eq_some_iff.1 guarded with behind | ⟨-, plain⟩
  · obtain ⟨named, exist, quoted⟩ := Option.bind_eq_some_iff.1 behind
    obtain ⟨guard, isGuard, rfl⟩ := takes_guardClause.sound exist
    exact ⟨create ++ guard, Language.append_mem_mul isCreate (.inr isGuard), named,
      List.append_assoc create guard named, startsName_iff.2 ⟨last, quoted⟩⟩
  · exact ⟨create, Language.mem_mul.2 ⟨create, isCreate, [], .inl rfl, List.append_nil create⟩,
      start, rfl, startsName_iff.2 ⟨last, plain⟩⟩

/-- A name is read exactly where the words for databases that are created lead to one. -/
theorem leadsToName_creatingForm {text : List Char} :
    LeadsToName creatingForm text ↔ readCreate text ≠ none := by
  constructor
  · rintro ⟨own, isOwn, named, name, rfl, starts⟩
    obtain ⟨create, isCreate, guard, isGuard, rfl⟩ := Language.mem_mul.1 isOwn
    obtain ⟨after, quoted⟩ := startsName_iff.1 starts
    rw [List.append_assoc]
    rcases isGuard with rfl | isGuard
    · rw [List.nil_append, readCreate_of_createForm isCreate starts.startsVisibly, guardedName,
        quoted]
      simp
    · rw [readCreate_of_createForm isCreate (startsVisibly_of_mem_existForm isGuard named),
        guardedName, takes_guardClause.complete isGuard starts.startsVisibly, Option.bind_some,
        quoted]
      simp
  · intro readable
    obtain ⟨⟨name, after⟩, found⟩ := Option.ne_none_iff_exists'.1 readable
    obtain ⟨own, isOwn, named, whole, starts⟩ := exists_startsName_of_readCreate found
    exact ⟨own, isOwn, named, name.toList, whole, starts⟩

/-- What stands in front of the name of a database that is used. -/
def usingForm : Language Char :=
  wordForm "USE" * spaceForm

theorem takes_useWords :
    Takes usingForm StartsVisibly fun text => (keyword "USE".toList text).bind blanks :=
  (takes_keyword "USE").bind takes_blanks fun _ _ _ _ => trivial

theorem readUse_eq (text : List Char) : readUse text =
    (((keyword "USE".toList text).bind blanks).bind quotedName).map
      fun found => (String.ofList found.1, found.2) := by
  rw [Option.bind_assoc]
  rfl

/-- Behind `USE` a name is read. -/
theorem readUse_of_usingForm {use start : List Char} (isUse : use ∈ usingForm)
    (visible : StartsVisibly start) : readUse (use ++ start) =
      (quotedName start).map fun found => (String.ofList found.1, found.2) := by
  rw [readUse_eq, takes_useWords.complete isUse visible, Option.bind_some]

/-- A name that is read stands behind the words for databases that are used. -/
theorem exists_startsName_of_readUse {text after : List Char} {name : String}
    (found : readUse text = some (name, after)) :
    ∃ own ∈ usingForm, ∃ named, own ++ named = text ∧ StartsName name.toList named := by
  rw [readUse_eq] at found
  obtain ⟨⟨word, last⟩, read, shape⟩ := Option.map_eq_some_iff.1 found
  obtain ⟨rfl, -⟩ : String.ofList word = name ∧ last = after := by simpa using shape
  obtain ⟨named, used, quoted⟩ := Option.bind_eq_some_iff.1 read
  obtain ⟨use, isUse, rfl⟩ := takes_useWords.sound used
  exact ⟨use, isUse, named, rfl, startsName_iff.2 ⟨last, by rwa [String.toList_ofList]⟩⟩

/-- A name is read exactly where the words for databases that are used lead to one. -/
theorem leadsToName_usingForm {text : List Char} :
    LeadsToName usingForm text ↔ readUse text ≠ none := by
  constructor
  · rintro ⟨use, isUse, named, name, rfl, starts⟩
    obtain ⟨after, quoted⟩ := startsName_iff.1 starts
    rw [readUse_of_usingForm isUse starts.startsVisibly, quoted]
    simp
  · intro readable
    obtain ⟨⟨name, after⟩, found⟩ := Option.ne_none_iff_exists'.1 readable
    obtain ⟨own, isOwn, named, whole, starts⟩ := exists_startsName_of_readUse found
    exact ⟨own, isOwn, named, name.toList, whole, starts⟩

/-- Places at which nothing is read are passed over. -/
theorem firstMatch_append {α : Type} {read : Matcher α} {lead place : List Char}
    (silent : ∀ front back, front ++ back = lead → back ≠ [] → read (back ++ place) = none) :
    firstMatch read (lead ++ place) = firstMatch read place := by
  rw [firstMatch_eq_head?, firstMatch_eq_head?, scan_append_of_none fun front c back shape =>
    silent front (c :: back) shape.symm (List.cons_ne_nil c back)]

/-- Places at which no use stands alone are passed over. -/
theorem firstUse_append {before : Option Char} {lead place : List Char}
    (silent : ∀ front back, front ++ back = lead → back ≠ [] →
      (front.getLast?.or before).any isWordChar = false → readUse (back ++ place) = none) :
    firstUse before (lead ++ place) = firstUse (lead.getLast?.or before) place := by
  induction lead generalizing before with
  | nil => rfl
  | cons c rest ih =>
    have here : (if before.any isWordChar then none else readUse (c :: (rest ++ place))) =
        none := by
      split
      · rfl
      · next alone =>
        exact silent [] (c :: rest) rfl (List.cons_ne_nil c rest) (by simpa using alone)
    have later : firstUse (some c) (rest ++ place) = firstUse (rest.getLast?.or (some c)) place :=
      ih fun front back shape nonempty alone =>
        silent (c :: front) back (by rw [← shape]; rfl) nonempty (by rwa [getLast?_cons_or])
    rw [List.cons_append, firstUse, here, later, getLast?_cons_or]

theorem endsWord_iff {lead : List Char} :
    EndsWord lead ↔ (lead.getLast?.or none).any isWordChar = false := by
  unfold EndsWord
  cases lead.getLast? <;> simp

theorem firstUse_of_readUse {before : Option Char} {place after : List Char} {name : String}
    (alone : before.any isWordChar = false) (found : readUse place = some (name, after)) :
    firstUse before place = some name := by
  cases place with
  | nil => simp [readUse, keyword] at found
  | cons c rest => simp [firstUse, alone, found]

/-- A use that stands alone is found, or an earlier one. -/
theorem firstUse_ne_none {before : Option Char} {lead place : List Char}
    (alone : (lead.getLast?.or before).any isWordChar = false) (readable : readUse place ≠ none) :
    firstUse before (lead ++ place) ≠ none := by
  induction lead generalizing before with
  | nil =>
    obtain ⟨⟨name, after⟩, found⟩ := Option.ne_none_iff_exists'.1 readable
    have here : firstUse before place = some name := firstUse_of_readUse alone found
    rw [List.nil_append, here]
    exact Option.some_ne_none name
  | cons c rest ih =>
    have later : firstUse (some c) (rest ++ place) ≠ none := ih (by rwa [getLast?_cons_or] at alone)
    rw [List.cons_append, firstUse]
    split
    · simp
    · exact later

theorem exists_of_firstMatch {α : Type} {read : Matcher α} {text : List Char} {value : α}
    (found : firstMatch read text = some value) :
    ∃ lead place after, lead ++ place = text ∧ read place = some (value, after) := by
  rw [firstMatch_eq_head?, ← map_findings] at found
  obtain ⟨⟨_, place⟩, member, rfl⟩ := List.mem_map.1 (List.mem_of_mem_head? found)
  obtain ⟨⟨lead, whole⟩, after, read⟩ := mem_findings member
  exact ⟨lead, place, after, whole, read⟩

theorem firstMatch_ne_none {α : Type} {read : Matcher α} (silent : read [] = none)
    {lead place : List Char} (readable : read place ≠ none) :
    firstMatch read (lead ++ place) ≠ none := by
  rcases exists_first_read read (lead ++ place) with unread | ⟨front, back, value, after, whole,
    found, early⟩
  · exact absurd (unread place (List.suffix_append lead place)) readable
  · rw [← whole, firstMatch_append early, firstMatch_eq_head?, head?_scan_of_read silent found]
    simp

/-- The first creation names the database. -/
theorem name?_of_readCreate {lead place after : List Char} {name : String}
    (silent : ∀ front back, front ++ back = lead → back ≠ [] →
      ¬ LeadsToName creatingForm (back ++ place))
    (found : readCreate place = some (name, after)) : name? (lead ++ place) = some name := by
  have unread : firstMatch readCreate (lead ++ place) = firstMatch readCreate place :=
    firstMatch_append fun front back shape nonempty => by
      have silence := silent front back shape nonempty
      rwa [leadsToName_creatingForm, not_not] at silence
  rw [name?, unread, firstMatch_eq_head?, head?_scan_of_read rfl found, Option.some_or]

/-- Without any creation the first use that stands alone names the database. -/
theorem name?_of_readUse {lead place after : List Char} {name : String} (alone : EndsWord lead)
    (noneCreated : ∀ other, other <:+ lead ++ place → ¬ LeadsToName creatingForm other)
    (silent : ∀ front back, front ++ back = lead → back ≠ [] → EndsWord front →
      ¬ LeadsToName usingForm (back ++ place))
    (found : readUse place = some (name, after)) : name? (lead ++ place) = some name := by
  have uncreated : firstMatch readCreate (lead ++ place ++ []) = none :=
    firstMatch_append fun front back shape _ => by
      have silence := noneCreated back ⟨front, shape⟩
      rwa [leadsToName_creatingForm, not_not, ← List.append_nil back] at silence
  have passed : firstUse none (lead ++ place) = firstUse (lead.getLast?.or none) place :=
    firstUse_append fun front back shape nonempty early => by
      have silence := silent front back shape nonempty (endsWord_iff.2 early)
      rwa [leadsToName_usingForm, not_not] at silence
  rw [List.append_nil] at uncreated
  rw [name?, uncreated, Option.none_or, passed, firstUse_of_readUse (endsWord_iff.1 alone) found]

/-- A name stands in a text behind words for databases: those that create one, or a `USE` that
stands alone. The front is the text up to the name. -/
structure IsBehindWords (front text name : List Char) : Prop where
  words : ∃ lead own, lead ++ own = front ∧ (own ∈ creatingForm ∨ own ∈ usingForm ∧ EndsWord lead)
  name : ∃ named, front ++ named = text ∧ StartsName name named

/-- Nowhere in a text is there a name behind words for databases. -/
def IsNameless (text : List Char) : Prop :=
  ∀ front name, ¬ IsBehindWords front text name

/-- Somewhere in a text there are words for databases that stand alone and lead to a name. -/
def HasName (text : List Char) : Prop :=
  ∃ lead place, lead ++ place = text ∧ EndsWord lead ∧
    (LeadsToName creatingForm place ∨ LeadsToName usingForm place)

/-- A name that is given stands behind words for databases. -/
theorem exists_isBehindWords {text : List Char} {name : String} (found : name? text = some name) :
    ∃ front, IsBehindWords front text name.toList := by
  rcases Option.or_eq_some_iff.1 found with created | ⟨-, used⟩
  · obtain ⟨lead, place, after, rfl, read⟩ := exists_of_firstMatch created
    obtain ⟨own, isOwn, named, rfl, starts⟩ := exists_startsName_of_readCreate read
    exact ⟨lead ++ own, ⟨lead, own, rfl, .inl isOwn⟩, named, List.append_assoc lead own named,
      starts⟩
  · obtain ⟨lead, place, after, rfl, alone, read⟩ := exists_of_firstUse used
    obtain ⟨own, isOwn, named, rfl, starts⟩ := exists_startsName_of_readUse read
    exact ⟨lead ++ own, ⟨lead, own, rfl, .inr ⟨isOwn, endsWord_iff.2 alone⟩⟩, named,
      List.append_assoc lead own named, starts⟩

/-- Behind words for databases a name is found, or an earlier one. -/
theorem IsBehindWords.name?_ne_none {front text name : List Char}
    (behind : IsBehindWords front text name) : name? text ≠ none := by
  obtain ⟨⟨lead, own, rfl, isOwn⟩, named, rfl, starts⟩ := behind
  rw [List.append_assoc, name?, Ne, Option.or_eq_none_iff, not_and_or]
  rcases isOwn with created | ⟨used, alone⟩
  · have leads : LeadsToName creatingForm (own ++ named) := ⟨own, created, named, name, rfl, starts⟩
    exact .inl (firstMatch_ne_none rfl (leadsToName_creatingForm.1 leads))
  · have leads : LeadsToName usingForm (own ++ named) := ⟨own, used, named, name, rfl, starts⟩
    exact .inr (firstUse_ne_none (endsWord_iff.1 alone) (leadsToName_usingForm.1 leads))

/-- No name is found exactly if there is none behind words for databases. -/
theorem isNameless_iff {text : List Char} : IsNameless text ↔ name? text = none := by
  refine ⟨fun nameless => ?_, fun unnamed front name behind => behind.name?_ne_none unnamed⟩
  by_contra named
  obtain ⟨name, found⟩ := Option.ne_none_iff_exists'.1 named
  obtain ⟨front, behind⟩ := exists_isBehindWords found
  exact nameless front name.toList behind

/-- Words that stand alone and lead to a name are enough for a name to be found. -/
theorem HasName.exists_name? {text : List Char} (has : HasName text) :
    ∃ name, name? text = some name := by
  obtain ⟨lead, place, rfl, alone, leads⟩ := has
  have behind : ∃ front name, IsBehindWords front (lead ++ place) name := by
    rcases leads with ⟨own, isOwn, named, name, rfl, starts⟩ |
      ⟨own, isOwn, named, name, rfl, starts⟩
    · exact ⟨lead ++ own, name, ⟨lead, own, rfl, .inl isOwn⟩, named, by simp, starts⟩
    · exact ⟨lead ++ own, name, ⟨lead, own, rfl, .inr ⟨isOwn, alone⟩⟩, named, by simp, starts⟩
  obtain ⟨front, name, behind⟩ := behind
  exact Option.ne_none_iff_exists'.1 behind.name?_ne_none

/-- A name between backticks and what follows it. -/
def quoted (content after : List Char) : List Char :=
  '\x60' :: (content ++ '\x60' :: after)

/-- The characters of names with which a text starts. -/
def nameStart (text : List Char) : List Char :=
  text.takeWhile isNameChar

theorem nameStart_eq_self_iff {text : List Char} : nameStart text = text ↔ IsNameText text :=
  List.takeWhile_eq_self_iff

/-- Of what is between backticks, the name is what it starts with. -/
theorem startsName_quoted {content : List Char} (nonempty : nameStart content ≠ [])
    (after : List Char) : StartsName (nameStart content) (quoted content after) := by
  have split : nameStart content ++ content.dropWhile isNameChar = content :=
    List.takeWhile_append_dropWhile
  refine ⟨nonempty, fun c member => List.all_eq_true.1 List.all_takeWhile c member,
    ['\x60'], .inr rfl, content.dropWhile isNameChar ++ '\x60' :: after, ?_, fun c start => ?_⟩
  · rw [← List.append_assoc (nameStart content), split]
    rfl
  · have other := List.head?_dropWhile_not isNameChar content
    cases rest : content.dropWhile isNameChar with
    | nil =>
      obtain rfl : '\x60' = c := by simpa [rest] using start
      rfl
    | cons d more =>
      obtain rfl : d = c := by simpa [rest] using start
      simpa [rest] using other

/-- What is between backticks has no name if it does not start with one. -/
theorem not_startsName_quoted {content : List Char} (empty : nameStart content = [])
    (after name : List Char) : ¬ StartsName name (quoted content after) := by
  rintro ⟨nonempty, isName, tick, isTick, behind, whole, -⟩
  obtain ⟨first, letters, rfl⟩ := List.exists_cons_of_ne_nil nonempty
  have named : isNameChar first = true := isName first (by simp)
  have noTick : first ≠ '\x60' := by
    rintro rfl
    exact absurd named (by decide)
  rcases isTick with rfl | rfl
  · exact noTick (List.cons_eq_cons.1 whole).1
  · have inner := (List.cons_eq_cons.1 whole).2
    cases content with
    | nil => exact noTick (List.cons_eq_cons.1 inner).1
    | cons d more =>
      obtain rfl := (List.cons_eq_cons.1 inner).1
      simp [nameStart, named] at empty

/-- Behind its words a name between backticks is read. -/
theorem guardedName_quoted {guard content : List Char} (isGuard : guard ∈ 1 + existForm)
    (nonempty : nameStart content ≠ []) (after : List Char) : ∃ rest,
      guardedName (guard ++ quoted content after) = some (nameStart content, rest) := by
  have starts := startsName_quoted nonempty after
  obtain ⟨rest, read⟩ := startsName_iff.1 starts
  refine ⟨rest, ?_⟩
  rcases isGuard with rfl | isGuard
  · have unguarded : guardClause (quoted content after) = none := rfl
    rw [List.nil_append, guardedName, unguarded, Option.bind_none, Option.none_or, read]
  · rw [guardedName, takes_guardClause.complete isGuard starts.startsVisibly, Option.bind_some,
      read, Option.some_or]

/-- The first word of `IF NOT EXISTS` may be taken for a name. -/
theorem startsName_existForm {guard : List Char} (isGuard : guard ∈ existForm) (rest : List Char) :
    StartsName (guard.take 2) (guard ++ rest) := by
  simp only [existForm, spacedForm, Language.mem_mul] at isGuard
  obtain ⟨_, ⟨word, isWord, _, ⟨gap, isGap, more, -, rfl⟩, rfl⟩, further, -, rfl⟩ := isGuard
  have letters : List.Forall₂ (fun capital c => isLetter capital c = true) ['I', 'F'] word := isWord
  obtain ⟨first, _, isFirst, others, rfl⟩ := List.forall₂_cons_left_iff.1 letters
  obtain ⟨second, _, isSecond, nothing, rfl⟩ := List.forall₂_cons_left_iff.1 others
  obtain rfl := List.forall₂_nil_left_iff.1 nothing
  refine ⟨List.cons_ne_nil _ _, ?_, [], .inl rfl, gap ++ (more ++ (further ++ rest)), ?_,
    fun c start => ?_⟩
  · intro c member
    obtain rfl | rfl : c = first ∨ c = second := by simpa using member
    · exact isNameChar_of_isLetter isFirst rfl
    · exact isNameChar_of_isLetter isSecond rfl
  · simp
  · obtain ⟨blank, blanks, rfl⟩ := List.exists_cons_of_ne_nil isGap.1
    obtain rfl : blank = c := by simpa using start
    exact isNameChar_eq_false_of_isBlank (List.all_eq_true.1 isGap.2 blank (by simp))

/-- If there is no name between the backticks, the first word in front of them is read. -/
theorem guardedName_of_empty {guard content : List Char} (isGuard : guard ∈ existForm)
    (empty : nameStart content = []) (after : List Char) : ∃ rest,
      guardedName (guard ++ quoted content after) = some (guard.take 2, rest) := by
  have visible : StartsVisibly (quoted content after) := startsVisibly_cons.2 rfl
  have unnamed : quotedName (quoted content after) = none := by
    by_contra readable
    obtain ⟨⟨name, rest⟩, read⟩ := Option.ne_none_iff_exists'.1 readable
    exact not_startsName_quoted empty after name (startsName_iff.2 ⟨rest, read⟩)
  have exist := takes_guardClause.complete isGuard visible
  obtain ⟨rest, read⟩ := startsName_iff.1 (startsName_existForm isGuard (quoted content after))
  exact ⟨rest, by rw [guardedName, exist, Option.bind_some, unnamed, Option.none_or, read]⟩

end DatabaseStatement
end Sql
end SchemaScaffold
