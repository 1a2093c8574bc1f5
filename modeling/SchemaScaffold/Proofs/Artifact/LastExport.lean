import Mathlib.Data.List.Infix
import SchemaScaffold.Proofs.Artifact.LinePlaces
import SchemaScaffold.Proofs.Artifact.RegistrationSequence
import SchemaScaffold.Proofs.Text.Trimming

/-!
# Exports at the end

What registering tables one after another makes of an index whose export is its last code. The
lines that load routers are put in as if there were no export. If at most one line break follows the
export, the lines that mount routers come in front of it and it stays the last code; with more
blanks behind it they come behind it, so that it is the last code only as long as none is put in.
-/

namespace SchemaScaffold
namespace RoutesIndex

open Text (Crosses Silent isAllBlank isBlank occurrences occurrences_append
  occurrences_append_foreign occurrences_eq_zero_iff silent_of_head splitAtFirst_append
  splitAtFirst_eq_none_iff trimRight trimRight_append trimRight_append_of_blank)

/-- Load the router of a table, unless the line is there. -/
def load (content : List Char) (table : String) : List Char :=
  ensure insertRequire (requireLine table).toList content

/-- Load the routers of tables, one after another. -/
def loadNames (content : List Char) (names : List String) : List Char :=
  names.foldl load content

section Tail

variable {tail : List Char} {c : Char} (start : tail.head? = some c) (noFeed : c ≠ '\n')
  (noReturn : c ≠ '\r')

include start noFeed noReturn

/-- A text that starts with no line break does not change the one in front of it. -/
theorem lineBreak_append_of_head (front : List Char) :
    lineBreak (front ++ tail) = ((lineBreak front).1, (lineBreak front).2 ++ tail) := by
  obtain ⟨rest, rfl⟩ := List.head?_eq_some_iff.1 start
  unfold lineBreak
  rcases front with _ | ⟨first, _ | ⟨second, others⟩⟩
  · simp [noFeed, noReturn]
  · by_cases feed : first = '\n'
    · simp [feed]
    · by_cases carriage : first = '\r'
      · simp [carriage, noFeed]
      · simp [feed, carriage]
  · by_cases feed : first = '\n'
    · simp [feed]
    · by_cases carriage : first = '\r' ∧ second = '\n'
      · simp [carriage.1, carriage.2]
      · rw [not_and] at carriage
        simp only [List.cons_append]
        split
        · simp_all
        · simp_all
        · split <;> simp_all

/-- A line that loads a router is put in as if a text were not there that begins with no line
break and adds no declaration. -/
theorem insertRequire_append (silent : Silent declaration tail) (line front : List Char) :
    insertRequire line (front ++ tail) = insertRequire line front ++ tail := by
  unfold insertRequire
  cases split : Text.splitAtFirst declaration front with
  | none =>
    have absent : ¬ declaration <:+: front := splitAtFirst_eq_none_iff.1 split
    rw [splitAtFirst_eq_none_iff.2 (mt (silent.infix_append_iff front).1 absent)]
    simp
  | some parts =>
    obtain ⟨before, found⟩ := parts
    obtain ⟨-, rest, rfl⟩ := Text.splitAtFirst_eq_some split
    rw [splitAtFirst_append split]
    dsimp only
    rw [List.append_assoc declaration, List.drop_left, List.drop_left,
      lineBreak_append_of_head start noFeed noReturn]
    simp

theorem load_append {table : String} (silent : Silent declaration tail)
    (silentLine : Silent (requireLine table).toList tail) (front : List Char) :
    load (front ++ tail) table = load front table ++ tail := by
  unfold load ensure
  simp only [Text.occursIn_iff, silentLine.infix_append_iff,
    insertRequire_append start noFeed noReturn silent]
  split <;> rfl

end Tail

/-- The characters behind the first one of an export and of blanks behind it. -/
theorem not_mem_export {c : Char} (visible : isBlank c = false) (other : c ∉ exportLine)
    {ending : List Char} (blank : isAllBlank ending = true) : c ∉ exportLine ++ ending := by
  intro member
  rcases List.mem_append.1 member with exported | isEnding
  · exact other exported
  · have gap := List.all_eq_true.1 blank c isEnding
    simp [visible] at gap

theorem silent_declaration_export {ending : List Char} (blank : isAllBlank ending = true) :
    Silent declaration (exportLine ++ ending) := by
  refine silent_of_head declaration_ne_nil (c := 'm') (by decide) fun inside => ?_
  have member : 'c' ∈ exportLine ++ ending :=
    List.mem_cons_of_mem _ (inside.subset (by decide))
  exact not_mem_export (by decide) (by decide) blank member

/-- A declaration does not go over the start of a line that mounts a router. -/
theorem not_crosses_useLine (front : List Char) (table : String) :
    ¬ Crosses declaration front (useLine table).toList := by
  rintro ⟨left, right, started, further, shape, -, starts⟩
  -- What would be in the line is the end of the declaration, which differs from it early.
  have apart : ∀ place < declaration.length, 0 < place →
      ((declaration.drop place).take 8).isPrefixOf "router.u".toList = false := by
    decide
  have bound : left.length < declaration.length := by
    have positive := List.length_pos_iff.2 further
    rw [shape, List.length_append]
    omega
  have early : right.take 8 <+: "router.u".toList := by
    have line : (useLine table).toList.take 8 = "router.u".toList := by
      rw [useLine, String.join_cons, String.toList_append]
      rfl
    rw [← line]
    exact List.IsPrefix.take starts 8
  have place := apart left.length bound (List.length_pos_iff.2 started)
  rw [shape, List.drop_left, ← Bool.not_eq_true, List.isPrefixOf_iff_prefix] at place
  exact place early

/-- Lines of two kinds are different. -/
theorem requireLine_ne_useLine {table other : String} (named : IsNameText table.toList)
    (otherNamed : IsNameText other.toList) : requireLine table ≠ useLine other := by
  intro same
  have own : requireLine table ∈ lines table := by simp [lines]
  have used : requireLine table ∈ lines other := by simp [lines, same]
  obtain rfl : table = other := eq_of_mem_lines named otherNamed own used
  exact (apart_requireLine_useLine table).1 (same ▸ List.suffix_rfl)

section Lines

variable {table other line : String} (named : IsNameText table.toList)

include named

theorem silent_export (member : line ∈ lines table) {ending : List Char}
    (blank : isAllBlank ending = true) : Silent line.toList (exportLine ++ ending) := by
  have start : (exportLine ++ ending).head? = some 'm' := rfl
  exact fun _ => (isCall_of_mem_lines named member).occurrences_append_open
    (not_mem_export (by decide) (by decide) blank) (by rw [start]; decide)

theorem silent_declaration_useLine : Silent declaration (useLine table).toList := by
  have absent : ¬ declaration <:+: (useLine table).toList := by
    intro inside
    have equals : '=' ∈ (useLine table).toList := inside.subset (by decide)
    simp [useLine, String.join_cons, named.not_mem (c := '=') (by decide)] at equals
  intro front
  rw [occurrences_append declaration_ne_nil (not_crosses_useLine front table),
    occurrences_eq_zero_iff.2 absent, Nat.add_zero]

theorem silent_requireLine_useLine (otherNamed : IsNameText other.toList) :
    Silent (requireLine table).toList (useLine other).toList := by
  have required : requireLine table ∈ lines table := by simp [lines]
  have used : useLine other ∈ lines other := by simp [lines]
  have apart : (requireLine table).toList ≠ (useLine other).toList := fun same =>
    requireLine_ne_useLine named otherNamed (String.toList_injective same)
  intro front
  rw [(isCall_requireLine named).occurrences_append_call (isCall_useLine otherNamed)
      fun ends => congrArg _ (eq_of_suffix otherNamed named used required ends).symm,
    occurrences_line named otherNamed required used, if_neg apart, Nat.add_zero]

end Lines

/-- A line that mounts a router in front of an export. -/
def mountBefore (table : String) : List Char :=
  (useLine table).toList ++ ['\n', '\n']

/-- A line that mounts a router behind everything else. -/
def mountBehind (table : String) : List Char :=
  '\n' :: ((useLine table).toList ++ ['\n'])

/-- The end of an index from its export on, once some tables have been mounted. -/
def mountedEnd (ending : List Char) (tables : List String) : List Char :=
  if AtMostOneBreak ending then
    tables.flatMap mountBefore ++ (exportLine ++ if tables.isEmpty then ending else ['\n'])
  else exportLine ++ ending ++ tables.flatMap mountBehind

theorem silent_feed {needle : List Char} (nonempty : needle ≠ []) (unbroken : '\n' ∉ needle) :
    Silent needle ['\n'] :=
  silent_of_head nonempty unbroken fun inside => nonempty (List.infix_nil.1 inside)

/-- A text on one line that is silent in lines that mount routers and in exports is silent in the
end of an index. -/
theorem silent_mountedEnd {needle ending : List Char} {tables : List String}
    (nonempty : needle ≠ []) (unbroken : '\n' ∉ needle)
    (used : ∀ table ∈ tables, Silent needle (useLine table).toList)
    (exported : ∀ blank, isAllBlank blank = true → Silent needle (exportLine ++ blank))
    (blank : isAllBlank ending = true) : Silent needle (mountedEnd ending tables) := by
  have feed := silent_feed nonempty unbroken
  have early : ∀ table ∈ tables, Silent needle (mountBefore table) := by
    intro table member
    unfold mountBefore
    exact (used table member).append (feed.append feed)
  have late : ∀ table ∈ tables, Silent needle (mountBehind table) := by
    intro table member
    unfold mountBehind
    rw [← List.singleton_append]
    exact feed.append ((used table member).append feed)
  have last : Silent needle (exportLine ++ if tables.isEmpty then ending else ['\n']) := by
    apply exported
    split
    · exact blank
    · decide
  unfold mountedEnd
  split
  · exact (Silent.flatMap early).append last
  · exact (exported ending blank).append (Silent.flatMap late)

theorem head?_mountedEnd (ending : List Char) (tables : List String) :
    ∃ c, (mountedEnd ending tables).head? = some c ∧ c ≠ '\n' ∧ c ≠ '\r' := by
  have exported (rest : List Char) : (exportLine ++ rest).head? = some 'm' := rfl
  unfold mountedEnd
  split
  · cases tables with
    | nil => exact ⟨'m', exported _, by decide⟩
    | cons table rest =>
      refine ⟨'r', ?_, by decide⟩
      simp [mountBefore, useLine, String.join_cons]
  · exact ⟨'m', by rw [List.append_assoc, exported], by decide⟩

/-- Loading a router leaves the end of an index as it is. -/
theorem load_mountedEnd {table : String} (named : IsNameText table.toList) {tables : List String}
    (allNamed : ∀ other ∈ tables, IsNameText other.toList) {ending : List Char}
    (blank : isAllBlank ending = true) (front : List Char) :
    load (front ++ mountedEnd ending tables) table =
      load front table ++ mountedEnd ending tables := by
  have call := isCall_requireLine named
  have member : requireLine table ∈ lines table := by simp [lines]
  obtain ⟨c, start, noFeed, noReturn⟩ := head?_mountedEnd ending tables
  refine load_append start noFeed noReturn ?_ ?_ front
  · exact silent_mountedEnd declaration_ne_nil (by decide)
      (fun other isTable => silent_declaration_useLine (allNamed other isTable))
      (fun _ isBlank => silent_declaration_export isBlank) blank
  · exact silent_mountedEnd call.ne_nil call.unbroken.1
      (fun other isTable => silent_requireLine_useLine named (allNamed other isTable))
      (fun _ isBlank => silent_export named member isBlank) blank

/-! ## Mounting at the end -/

/-- An export that is found is what is left when blanks at the end are dropped. -/
theorem trimRight_of_beforeExport? {content before : List Char}
    (found : beforeExport? content = some before) : trimRight content = before ++ exportLine := by
  obtain ⟨ending, few, rfl⟩ := beforeExport?_eq_some_iff.1 found
  have blank : isAllBlank ending = true := by
    refine List.all_eq_true.2 fun c member => ?_
    rcases few.isBreak c member with rfl | rfl <;> decide
  rw [← List.append_assoc, trimRight_append_of_blank blank,
    trimRight_append (by decide) (by decide)]

theorem trimRight_export {ending : List Char} (blank : isAllBlank ending = true)
    (front : List Char) : trimRight (front ++ (exportLine ++ ending)) = front ++ exportLine := by
  rw [← List.append_assoc, trimRight_append_of_blank blank,
    trimRight_append (by decide) (by decide)]

theorem trimRight_mountBehind (front : List Char) {table : String}
    (named : IsNameText table.toList) :
    trimRight (front ++ mountBehind table) = front ++ '\n' :: (useLine table).toList := by
  obtain ⟨start, shape, -⟩ := (isCall_useLine named).call
  have whole : front ++ mountBehind table =
      (front ++ '\n' :: (start ++ [')'])) ++ [';'] ++ ['\n'] := by
    simp [mountBehind, shape]
  rw [whole, trimRight_append_of_blank (by decide), Text.trimRight_concat (by decide), shape]
  simp

/-- An index that ends in a line that mounts a router does not end in an export. -/
theorem not_export_suffix {front : List Char} {table : String} :
    ¬ exportLine <:+ front ++ '\n' :: (useLine table).toList := by
  intro ends
  have used : "s);".toList <:+ front ++ '\n' :: (useLine table).toList :=
    ⟨front ++ '\n' :: ("router.use('/".toList ++ table.toList ++ "', ".toList ++ table.toList ++
      "Route".toList), by simp [useLine, String.join_cons]⟩
  have short : "s);".toList.length ≤ exportLine.length := by decide
  have same := List.suffix_of_suffix_length_le used ends short
  revert same
  decide

/-- A further line that mounts a router comes behind those that have come before. -/
theorem insertUse_mountedEnd {ending : List Char} (blank : isAllBlank ending = true)
    {table : String} {tables : List String} (named : ∀ other ∈ tables, IsNameText other.toList)
    (front : List Char) :
    insertUse (useLine table).toList (front ++ mountedEnd ending tables) =
      front ++ mountedEnd ending (tables ++ [table]) := by
  unfold insertUse mountedEnd
  by_cases few : AtMostOneBreak ending
  · have still : AtMostOneBreak (if tables.isEmpty then ending else ['\n']) := by
      split
      · exact few
      · decide
    rw [if_pos few, if_pos few, ← List.append_assoc,
      beforeExport?_eq_some_iff.2 ⟨_, still, rfl⟩]
    simp [mountBefore]
  · rw [if_neg few, if_neg few]
    cases found : beforeExport? (front ++ (exportLine ++ ending ++ tables.flatMap mountBehind)) with
    | none => simp [mountBehind]
    | some before =>
      have trimmed := trimRight_of_beforeExport? found
      rcases List.eq_nil_or_concat' tables with rfl | ⟨others, last, rfl⟩
      · rw [List.flatMap_nil, List.append_nil] at found trimmed
        obtain ⟨breaks, atMost, whole⟩ := beforeExport?_eq_some_iff.1 found
        rw [trimRight_export blank, List.append_cancel_right_eq] at trimmed
        rw [trimmed, List.append_cancel_left_eq, List.append_cancel_left_eq] at whole
        exact absurd (whole ▸ atMost) few
      · have mounted : front ++
            (exportLine ++ ending ++ (others ++ [last]).flatMap mountBehind) =
              front ++ (exportLine ++ ending ++ others.flatMap mountBehind) ++
                mountBehind last := by
          simp
        rw [mounted, trimRight_mountBehind _ (named last (by simp))] at trimmed
        exact absurd (trimmed ▸ List.suffix_append before exportLine) not_export_suffix

/-- The tables of a sequence that an index does not mount, in the order of their first
registration. -/
def newNames (content : String) (names : List String) : List String :=
  (names.filter fun name => count content (useLine name) == 0).eraseDups

theorem mem_newNames {content name : String} {names : List String} :
    name ∈ newNames content names ↔ name ∈ names ∧ count content (useLine name) = 0 := by
  simp [newNames]

theorem newNames_concat (content name : String) (front : List String) :
    newNames content (front ++ [name]) =
      if name ∈ front ∨ count content (useLine name) ≠ 0 then newNames content front
      else newNames content front ++ [name] := by
  unfold newNames
  rw [List.filter_append, List.eraseDups_append]
  by_cases absent : count content (useLine name) = 0
  · by_cases known : name ∈ front
    · simp [absent, known, List.removeAll]
    · simp [absent, known, List.removeAll, List.eraseDups_cons]
  · simp [absent, List.removeAll]

section Run

variable {content : String} {before ending : List Char}
  (whole : content.toList = before ++ (exportLine ++ ending))
  (blank : isAllBlank ending = true)

include whole blank

/-- What a sequence of tables makes of an index that ends in an export. -/
theorem toList_patchNames {names : List String} (named : ∀ name ∈ names, IsNameText name.toList) :
    (patchNames content names).toList =
      loadNames before names ++ mountedEnd ending (newNames content names) := by
  induction names using List.reverseRecOn with
  | nil =>
    have none : newNames content [] = [] := rfl
    have kept : (if AtMostOneBreak ending then exportLine ++ ending else exportLine ++ ending) =
      exportLine ++ ending := ite_self _
    simpa [patchNames, loadNames, none, mountedEnd, kept] using whole
  | append_singleton front name ih =>
    obtain ⟨frontNamed, ownNamed⟩ := List.forall_mem_append.1 named
    have nameNamed : IsNameText name.toList := ownNamed name (by simp)
    have newNamed : ∀ other ∈ newNames content front, IsNameText other.toList :=
      fun other member => frontNamed other (mem_newNames.1 member).1
    have sofar := ih frontNamed
    have used : useLine name ∈ lines name := by simp [lines]
    have required : requireLine name ∈ lines name := by simp [lines]
    have loaded : ensure insertRequire (requireLine name).toList (patchNames content front).toList =
        load (loadNames before front) name ++ mountedEnd ending (newNames content front) := by
      rw [sofar]
      exact load_mountedEnd nameNamed newNamed blank _
    -- Loading does not mount, so the line is looked for in the index as it was.
    have counted : occurrences (useLine name).toList
        (load (loadNames before front) name ++ mountedEnd ending (newNames content front)) =
          if name ∈ front then max 1 (count content (useLine name))
          else count content (useLine name) := by
      have own := occurrences_line nameNamed nameNamed used required
      have apart : (useLine name).toList ≠ (requireLine name).toList := fun same =>
        requireLine_ne_useLine nameNamed nameNamed (String.toList_injective same.symm)
      rw [← loaded, occurrences_ensure
        ((isCall_useLine nameNamed).occurrences_insertRequire _ _) own, if_neg apart]
      exact count_patchNames frontNamed nameNamed used content
    have step : (patchNames content (front ++ [name])).toList =
        ensure insertUse (useLine name).toList
          (load (loadNames before front) name ++ mountedEnd ending (newNames content front)) := by
      rw [patchNames_append, ← loaded]
      exact String.toList_ofList
    have further : loadNames before (front ++ [name]) = load (loadNames before front) name := by
      simp [loadNames]
    rw [step, further, newNames_concat, ensure]
    by_cases known : name ∈ front ∨ count content (useLine name) ≠ 0
    · rw [if_pos known, if_pos]
      rw [Text.occursIn_iff, ← Text.occurrences_pos_iff, counted]
      rcases known with member | present
      · rw [if_pos member]
        omega
      · split <;> omega
    · rw [if_neg known, if_neg, insertUse_mountedEnd blank newNamed]
      rw [not_or, not_not] at known
      rw [Text.occursIn_iff, ← occurrences_eq_zero_iff, counted, if_neg known.1, known.2]

end Run

/-- Loading routers mounts none. -/
theorem occurrences_loadNames {table : String} (named : IsNameText table.toList)
    {names : List String} (allNamed : ∀ name ∈ names, IsNameText name.toList)
    (content : List Char) :
    occurrences (useLine table).toList (loadNames content names) =
      occurrences (useLine table).toList content := by
  induction names generalizing content with
  | nil => rfl
  | cons name rest ih =>
    obtain ⟨nameNamed, restNamed⟩ := List.forall_mem_cons.1 allNamed
    have used : useLine table ∈ lines table := by simp [lines]
    have required : requireLine name ∈ lines name := by simp [lines]
    have apart : (useLine table).toList ≠ (requireLine name).toList := fun same =>
      requireLine_ne_useLine nameNamed named (String.toList_injective same.symm)
    have kept : occurrences (useLine table).toList (load content name) =
        occurrences (useLine table).toList content := by
      rw [load, occurrences_ensure ((isCall_useLine named).occurrences_insertRequire _ _)
        (occurrences_line named nameNamed used required), if_neg apart]
    exact (ih restNamed (load content name)).trans kept

/-- The end of an index is its export, but for blanks, as long as the lines that mount routers come
in front of it or there are none. -/
theorem export_suffix_mountedEnd_iff {ending : List Char} (blank : isAllBlank ending = true)
    {tables : List String} (named : ∀ table ∈ tables, IsNameText table.toList)
    (front : List Char) :
    exportLine <:+ trimRight (front ++ mountedEnd ending tables) ↔
      AtMostOneBreak ending ∨ tables = [] := by
  unfold mountedEnd
  by_cases few : AtMostOneBreak ending
  · have feed : isAllBlank (if tables.isEmpty then ending else ['\n']) = true := by
      split
      · exact blank
      · decide
    rw [if_pos few, ← List.append_assoc, trimRight_export feed]
    exact iff_of_true (List.suffix_append _ exportLine) (.inl few)
  · rw [if_neg few]
    rcases List.eq_nil_or_concat' tables with rfl | ⟨others, last, rfl⟩
    · rw [List.flatMap_nil, List.append_nil, trimRight_export blank]
      exact iff_of_true (List.suffix_append front exportLine) (.inr rfl)
    · have mounted : front ++ (exportLine ++ ending ++ (others ++ [last]).flatMap mountBehind) =
          front ++ (exportLine ++ ending ++ others.flatMap mountBehind) ++ mountBehind last := by
        simp
      rw [mounted, trimRight_mountBehind _ (named last (by simp))]
      exact iff_of_false not_export_suffix (by simp [few])

/-- What registering tables makes of an index that has an export and blanks behind `before`. -/
structure IsMounted (content : String) (names : List String) (before ending : List Char) :
    Prop where
  whole : content.toList = before ++ (exportLine ++ ending)
  blank : isAllBlank ending = true
  patched : (patchNames content names).toList =
    loadNames before names ++ mountedEnd ending (newNames content names)
  /-- Nothing is mounted in what is in front of the end. -/
  loaded : ∀ table, IsNameText table.toList →
    occurrences (useLine table).toList (loadNames before names) = count content (useLine table)
  stays : exportLine <:+ trimRight (patchNames content names).toList ↔
    AtMostOneBreak ending ∨ newNames content names = []

/-- Registering tables in an index whose export is its last code, but for blanks, loads their
routers in front of the export. With at most one line break behind the export, those that were not
mounted are mounted in front of it, and it stays the last code. With more blanks behind it they are
mounted behind it, and it stays the last code only if there are none. -/
theorem export_stays_last_iff {content : String} {names : List String}
    (named : ∀ name ∈ names, IsNameText name.toList)
    (ends : exportLine <:+ trimRight content.toList) :
    ∃ before ending, IsMounted content names before ending := by
  obtain ⟨ending, blank, shape⟩ := Text.exists_trimRight_append_blank content.toList
  obtain ⟨before, trimmed⟩ := ends
  have whole : content.toList = before ++ (exportLine ++ ending) := by
    rw [← List.append_assoc, trimmed]
    exact shape
  have patched := toList_patchNames whole blank named
  refine ⟨before, ending, whole, blank, patched, fun table tableNamed => ?_, ?_⟩
  · have used : useLine table ∈ lines table := by simp [lines]
    rw [occurrences_loadNames tableNamed named, count, whole,
      silent_export tableNamed used blank]
  · rw [patched]
    exact export_suffix_mountedEnd_iff blank
      (fun name member => named name (mem_newNames.1 member).1) _

/-- An index whose lines end in carriage returns and line feeds. -/
def returnedIndex : String :=
  "const router = express.Router();\r\n\r\nmodule.exports = router;\r\n"

/-- Two tables, one of them twice, are mounted in such an index. -/
theorem returns_let_export_stay_last :
    (∀ name ∈ ["users", "tasks", "users"], IsNameText name.toList) ∧
      exportLine <:+ trimRight returnedIndex.toList ∧
      ∃ before ending, IsMounted returnedIndex ["users", "tasks", "users"] before ending := by
  have named : ∀ name ∈ ["users", "tasks", "users"], IsNameText name.toList := by decide
  have ends : exportLine <:+ trimRight returnedIndex.toList := by
    rw [← List.isSuffixOf_iff_suffix]
    decide
  exact ⟨named, ends, export_stays_last_iff named ends⟩

/-- An index with an empty line behind its export. -/
def spacedIndex : String :=
  "module.exports = router;\n\n"

/-- An empty line behind the export of an index hides it. -/
theorem blank_line_hides_export :
    exportLine <:+ trimRight spacedIndex.toList ∧ (∀ name ∈ ["users"], IsNameText name.toList) ∧
      ¬ exportLine <:+ trimRight (patchNames spacedIndex ["users"]).toList := by
  have whole : spacedIndex.toList = [] ++ (exportLine ++ ['\n', '\n']) := by decide
  have named : ∀ name ∈ ["users"], IsNameText name.toList := by decide
  have new : newNames spacedIndex ["users"] = ["users"] := by decide
  refine ⟨?_, named, ?_⟩
  · rw [whole, trimRight_export (by decide)]
    exact List.suffix_append [] exportLine
  · rw [toList_patchNames whole (by decide) named, new,
      export_suffix_mountedEnd_iff (by decide) named]
    decide

end RoutesIndex
end SchemaScaffold
