import SchemaScaffold.Artifact.RoutesIndex
import SchemaScaffold.Proofs.Schema.EntityNames
import SchemaScaffold.Proofs.Text.Occurrences
import SchemaScaffold.Proofs.Text.Searching

/-!
# Registering tables

Registering a table puts both of its lines into an index. Lines that are there stay there when
further tables are registered, since lines are put in where no line is interrupted: a line has
its only semicolon at its end and no line breaks, and the lines of the index that are moved have
no parentheses. No line of a table comes about by the insertion of another one.
-/

namespace SchemaScaffold
namespace RoutesIndex

open Text (Crosses occurrences occurrences_append occurrences_append_foreign
  occurrences_eq_zero_iff occurrences_foreign_append occurrences_pos_iff occurrences_self)

/-- A line of code that ends a call, with no other semicolon and on one line. -/
structure IsCall (line : List Char) : Prop where
  call : ∃ front, line = front ++ [')', ';'] ∧ ';' ∉ front
  unbroken : '\n' ∉ line ∧ '\r' ∉ line

namespace IsCall

variable {line other : List Char}

theorem close_mem (call : IsCall line) : ')' ∈ line := by
  obtain ⟨front, rfl, -⟩ := call.call
  simp

/-- What is in front of the end of a call has no semicolon. -/
theorem semicolon_not_mem (call : IsCall line) {front back : List Char}
    (shape : line = front ++ back) (further : back ≠ []) : ';' ∉ front := by
  obtain ⟨start, rfl, free⟩ := call.call
  have whole : start ++ [')'] = front ++ back.dropLast := by
    have shorter := congrArg List.dropLast shape
    rwa [List.dropLast_append_of_ne_nil further, ← List.singleton_append (l := [';']),
      ← List.append_assoc, List.dropLast_concat] at shorter
  have absent : ';' ∉ start ++ [')'] := by simp [free]
  rw [whole] at absent
  exact fun member => absent (List.mem_append_left _ member)

/-- The end of a call closes it. -/
theorem close_mem_back (call : IsCall line) {front back : List Char}
    (shape : line = front ++ back) (further : back ≠ []) : back = [';'] ∨ ')' ∈ back := by
  obtain ⟨start, rfl, -⟩ := call.call
  rcases List.append_eq_append_iff.1 shape with ⟨middle, -, rest⟩ | ⟨middle, -, rfl⟩
  · rcases middle with _ | ⟨first, others⟩
    · obtain rfl : back = [')', ';'] := by simpa using rest.symm
      exact .inr (by simp)
    · obtain ⟨-, rest⟩ : ')' = first ∧ [';'] = others ++ back := by simpa using rest
      rcases List.append_eq_singleton_iff.1 rest.symm with ⟨-, last⟩ | ⟨-, empty⟩
      · exact .inl last
      · exact absurd empty further
  · exact .inr (by simp)

theorem ne_nil (call : IsCall line) : line ≠ [] := by
  rintro rfl
  exact absurd call.close_mem (by simp)

/-- No call goes over a semicolon. -/
theorem not_crosses_semicolon (call : IsCall line) {left right : List Char}
    (last : left.getLast? = some ';') : ¬ Crosses line left right := by
  rintro ⟨front, back, started, further, shape, ⟨start, rfl⟩, -⟩
  rw [List.getLast?_append, List.getLast?_eq_some_getLast started, Option.some_or,
    ← List.getLast?_eq_some_getLast started] at last
  exact call.semicolon_not_mem shape further (List.mem_of_getLast? last)

/-- A call is in front of a text that cannot close it. -/
theorem occurrences_append_open (call : IsCall line) {left right : List Char}
    (noClose : ')' ∉ right) (noEnd : right.head? ≠ some ';') :
    occurrences line (left ++ right) = occurrences line left := by
  have apart : ¬ Crosses line left right := by
    rintro ⟨front, back, -, further, shape, -, ⟨rest, rfl⟩⟩
    rcases call.close_mem_back shape further with rfl | member
    · simp at noEnd
    · exact noClose (List.mem_append_left _ member)
  have none : occurrences line right = 0 :=
    occurrences_eq_zero_iff.2 fun inside => noClose (inside.subset call.close_mem)
  rw [occurrences_append call.ne_nil apart, none, Nat.add_zero]

/-- A call is inside another one only at its end. -/
theorem suffix_of_infix (call : IsCall line) (otherCall : IsCall other)
    (inside : line <:+: other) : line <:+ other := by
  obtain ⟨front, back, whole⟩ := inside
  by_cases further : back = []
  · exact ⟨front, by rw [← whole, further, List.append_nil]⟩
  · have absent := otherCall.semicolon_not_mem whole.symm further
    obtain ⟨start, rfl, -⟩ := call.call
    simp at absent

/-- A call does not begin in front of another one, unless that one is its end. -/
theorem occurrences_append_call (call : IsCall line) (otherCall : IsCall other)
    (ends : other <:+ line → line = other) (text : List Char) :
    occurrences line (text ++ other) = occurrences line text + occurrences line other := by
  refine occurrences_append call.ne_nil ?_
  rintro ⟨front, back, started, further, shape, -, ⟨rest, whole⟩⟩
  -- The semicolon at the end of the line is the one at the end of the other line.
  obtain ⟨start, lineShape, -⟩ := call.call
  have stop : ';' ∈ back := by
    have last := congrArg List.getLast? (shape.symm.trans lineShape)
    rw [List.getLast?_append, List.getLast?_eq_some_getLast further, Option.some_or,
      ← List.getLast?_eq_some_getLast further] at last
    exact List.mem_of_getLast? (last.trans (by simp))
  by_cases empty : rest = []
  · rw [empty, List.append_nil] at whole
    have same := ends ⟨front, by rw [← whole, shape]⟩
    rw [shape, ← whole, List.append_left_eq_self] at same
    exact started same
  · exact otherCall.semicolon_not_mem whole.symm empty stop

/-- In a call of which it is no proper part a call occurs if it is the same. -/
theorem occurrences_call (call : IsCall line) (otherCall : IsCall other)
    (ends : line <:+ other → line = other) :
    occurrences line other = if line = other then 1 else 0 := by
  split
  · next same => rw [← same, occurrences_self call.ne_nil]
  · next apart =>
    exact occurrences_eq_zero_iff.2 fun inside =>
      apart (ends (call.suffix_of_infix otherCall inside))

end IsCall

theorem lineBreak_append (text : List Char) :
    (lineBreak text).1 ++ (lineBreak text).2 = text := by
  unfold lineBreak
  split <;> simp

theorem lineBreak_break (text : List Char) :
    ∀ c ∈ (lineBreak text).1, c = '\n' ∨ c = '\r' := by
  unfold lineBreak
  split <;> simp

/-- Nothing, or one line break of some system. -/
def AtMostOneBreak (ending : List Char) : Prop :=
  ending ∈ [[], ['\n'], ['\r', '\n'], ['\r']]

instance (ending : List Char) : Decidable (AtMostOneBreak ending) :=
  inferInstanceAs (Decidable (_ ∈ _))

theorem AtMostOneBreak.isBreak {ending : List Char} (few : AtMostOneBreak ending) :
    ∀ c ∈ ending, c = '\n' ∨ c = '\r' := by
  simp only [AtMostOneBreak, List.mem_cons, List.not_mem_nil, or_false] at few
  rcases few with rfl | rfl | rfl | rfl <;> simp

/-- At most one line break is dropped at the end of a content. -/
theorem exists_dropLastBreak_append (content : List Char) :
    ∃ ending, AtMostOneBreak ending ∧ content = dropLastBreak content ++ ending := by
  unfold dropLastBreak
  by_cases feed : content.getLast? = some '\n'
  · obtain ⟨front, rfl⟩ := List.getLast?_eq_some_iff.1 feed
    rw [if_pos feed, List.dropLast_concat]
    by_cases carriage : front.getLast? = some '\r'
    · obtain ⟨start, rfl⟩ := List.getLast?_eq_some_iff.1 carriage
      exact ⟨['\r', '\n'], by decide, by simp⟩
    · exact ⟨['\n'], by decide, by simp [carriage]⟩
  · rw [if_neg feed]
    by_cases carriage : content.getLast? = some '\r'
    · obtain ⟨start, rfl⟩ := List.getLast?_eq_some_iff.1 carriage
      exact ⟨['\r'], by decide, by simp⟩
    · exact ⟨[], by decide, by simp [carriage]⟩

theorem dropLastBreak_of_atMostOneBreak {text ending : List Char} {last : Char}
    (visible : text.getLast? = some last) (noFeed : last ≠ '\n') (noReturn : last ≠ '\r')
    (few : AtMostOneBreak ending) : dropLastBreak (text ++ ending) = text := by
  obtain ⟨front, rfl⟩ := List.getLast?_eq_some_iff.1 visible
  simp only [AtMostOneBreak, List.mem_cons, List.not_mem_nil, or_false] at few
  rcases few with rfl | rfl | rfl | rfl
  · simp [dropLastBreak, noFeed, noReturn]
  · simp [dropLastBreak, noReturn]
  · have shape : front ++ [last] ++ ['\r', '\n'] = (front ++ [last] ++ ['\r']) ++ ['\n'] := by simp
    rw [shape, dropLastBreak, List.getLast?_concat, if_pos rfl, List.dropLast_concat,
      List.getLast?_concat, if_pos rfl, List.dropLast_concat]
  · simp [dropLastBreak]

/-- An export is found if it ends the content, but for at most one line break. -/
theorem beforeExport?_eq_some_iff {content before : List Char} :
    beforeExport? content = some before ↔
      ∃ ending, AtMostOneBreak ending ∧ content = before ++ (exportLine ++ ending) := by
  constructor
  · intro found
    obtain ⟨ending, few, whole⟩ := exists_dropLastBreak_append content
    unfold beforeExport? at found
    dsimp only at found
    split at found
    · next ends =>
      obtain ⟨front, shape⟩ := List.isSuffixOf_iff_suffix.1 ends
      rw [← shape] at found
      obtain rfl : front = before := by simpa using found
      exact ⟨ending, few, by rw [← List.append_assoc, shape, ← whole]⟩
    · simp at found
  · rintro ⟨ending, few, rfl⟩
    have last : (before ++ exportLine).getLast? = some ';' := by
      rw [List.getLast?_append]
      rfl
    unfold beforeExport?
    rw [← List.append_assoc, dropLastBreak_of_atMostOneBreak last (by decide) (by decide) few,
      if_pos (List.isSuffixOf_iff_suffix.2 (List.suffix_append before exportLine))]
    simp

theorem beforeExport?_eq_some {content before : List Char}
    (found : beforeExport? content = some before) :
    ∃ ending, content = before ++ (exportLine ++ ending) ∧
      ∀ c ∈ ending, c = '\n' ∨ c = '\r' := by
  obtain ⟨ending, few, whole⟩ := beforeExport?_eq_some_iff.1 found
  exact ⟨ending, whole, few.isBreak⟩

namespace IsCall

variable {line other : List Char}

/-- Loading a router adds the line that loads it. -/
theorem occurrences_insertRequire (call : IsCall line) (other content : List Char) :
    occurrences line (insertRequire other content) =
      occurrences line content + occurrences line other := by
  unfold insertRequire
  split
  · rw [occurrences_append_foreign call.ne_nil call.unbroken.1, Nat.add_comm]
  · next before found split =>
    obtain ⟨rfl, rest, rfl⟩ := Text.splitAtFirst_eq_some split
    dsimp only
    rw [List.drop_left]
    have foreign {c : Char} (isBreak : c = '\n' ∨ c = '\r') : c ∉ line := by
      rcases isBreak with rfl | rfl
      · exact call.unbroken.1
      · exact call.unbroken.2
    have broken : ∀ c ∈ (if (lineBreak rest).1.isEmpty then ['\n'] else (lineBreak rest).1),
        c ∉ line := by
      intro c member
      split at member
      · exact foreign (.inl (List.mem_singleton.1 member))
      · exact foreign (lineBreak_break rest c member)
    have last : (before ++ declaration).getLast? = some ';' := by
      rw [List.getLast?_append]
      rfl
    have behind (text : List Char) : occurrences line (before ++ declaration ++ text) =
        occurrences line (before ++ declaration) + occurrences line text :=
      occurrences_append call.ne_nil (call.not_crosses_semicolon last)
    have old : occurrences line (before ++ (declaration ++ rest)) =
        occurrences line (before ++ declaration) + occurrences line (lineBreak rest).2 := by
      conv_lhs => rw [← lineBreak_append rest, ← List.append_assoc]
      rw [behind, occurrences_foreign_append call.ne_nil fun c member =>
        foreign (lineBreak_break rest c member)]
    rw [occurrences_append_foreign call.ne_nil call.unbroken.1, List.append_assoc, behind,
      occurrences_foreign_append call.ne_nil broken, old]
    omega

theorem occurrences_before_export (call : IsCall line) {before ending : List Char}
    (breaks : ∀ c ∈ ending, c = '\n' ∨ c = '\r') :
    occurrences line (before ++ (exportLine ++ ending)) = occurrences line before := by
  have start : (exportLine ++ ending).head? = some 'm' := rfl
  refine call.occurrences_append_open (fun member => ?_) (by rw [start]; decide)
  rcases List.mem_append.1 member with exported | broken
  · revert exported
    decide
  · rcases breaks _ broken with same | same <;> simp at same

/-- Mounting a router adds the line that mounts it, unless that line ends another one. -/
theorem occurrences_insertUse (call : IsCall line) (otherCall : IsCall other)
    (ends : other <:+ line → line = other) (content : List Char) :
    occurrences line (insertUse other content) =
      occurrences line content + occurrences line other := by
  have nonempty := call.ne_nil
  have added := call.occurrences_append_call otherCall ends
  unfold insertUse
  split
  · next before found =>
    obtain ⟨ending, rfl, breaks⟩ := beforeExport?_eq_some found
    have none : occurrences line ('\n' :: (exportLine ++ ['\n'])) = 0 :=
      occurrences_eq_zero_iff.2 fun inside =>
        absurd (inside.subset call.close_mem) (by decide)
    rw [occurrences_append_foreign nonempty call.unbroken.1, added, none,
      call.occurrences_before_export breaks]
    rfl
  · rw [occurrences_append_foreign nonempty call.unbroken.1,
      occurrences_append_foreign nonempty call.unbroken.1, Text.occurrences_nil nonempty,
      Nat.add_zero]

/-- No line is lost when a router is mounted by any line. -/
theorem le_occurrences_insertUse (call : IsCall line) (other content : List Char) :
    occurrences line content ≤ occurrences line (insertUse other content) := by
  unfold insertUse
  split
  · next before found =>
    obtain ⟨ending, rfl, breaks⟩ := beforeExport?_eq_some found
    have kept := Text.le_occurrences_append call.ne_nil before
      (other ++ '\n' :: '\n' :: (exportLine ++ ['\n']))
    rw [call.occurrences_before_export breaks, List.append_assoc]
    omega
  · have kept := Text.le_occurrences_append call.ne_nil content ('\n' :: (other ++ ['\n']))
    omega

end IsCall

/-- A line is added where it does not occur, and no other line is. -/
theorem occurrences_ensure {insert : List Char → List Char → List Char}
    {line other content : List Char}
    (adds : occurrences line (insert other content) =
      occurrences line content + occurrences line other)
    (own : occurrences line other = if line = other then 1 else 0) :
    occurrences line (ensure insert other content) =
      if line = other then max 1 (occurrences line content) else occurrences line content := by
  unfold ensure
  split
  · next present =>
    split
    · next same =>
      have occurs := occurrences_pos_iff.2 (Text.occursIn_iff.1 (same ▸ present))
      exact (Nat.max_eq_right occurs).symm
    · rfl
  · next absent =>
    rw [adds, own]
    split
    · next same =>
      have none : occurrences line content = 0 := occurrences_eq_zero_iff.2 fun inside =>
        absent (Text.occursIn_iff.2 (same ▸ inside))
      rw [none]
      rfl
    · rfl

theorem le_occurrences_ensure {insert : List Char → List Char → List Char}
    {line other content : List Char}
    (kept : occurrences line content ≤ occurrences line (insert other content)) :
    occurrences line content ≤ occurrences line (ensure insert other content) := by
  unfold ensure
  split
  · exact Nat.le_refl _
  · exact kept

/-- The lines that register a table. -/
def lines (table : String) : List String :=
  [requireLine table, useLine table]

/-- A line with one slash, behind which a name stands that ends at a quote. -/
structure Mentions (line name : List Char) : Prop where
  parts : ∃ front rest, line = front ++ '/' :: (name ++ '\'' :: rest) ∧
    '/' ∉ front ∧ '/' ∉ name ++ '\'' :: rest ∧ '\'' ∉ rest
  unquoted : '\'' ∉ name

/-- A line that ends in another one mentions the same name. -/
theorem Mentions.eq_of_suffix {line other name otherName : List Char} (one : Mentions line name)
    (two : Mentions other otherName) (ends : line <:+ other) : name = otherName := by
  obtain ⟨front, rest, rfl, -, -, -⟩ := one.parts
  obtain ⟨otherFront, otherRest, rfl, noSlash, single, unquoted⟩ := two.parts
  obtain ⟨more, whole⟩ := ends
  rw [← List.append_assoc] at whole
  obtain ⟨-, -, behind⟩ := (List.append_cons_inj_of_notMem noSlash single).1 whole.symm
  exact ((List.append_cons_inj_of_notMem two.unquoted unquoted).1 behind).1.symm

section Lines

variable {table other line otherLine : String}

theorem isCall_requireLine (named : IsNameText table.toList) :
    IsCall (requireLine table).toList where
  call := by
    refine ⟨"const ".toList ++ table.toList ++ "Routes = require('./".toList ++ table.toList ++
      "'".toList, by simp [requireLine, String.join_cons], ?_⟩
    simp [named.not_mem (c := ';') (by decide)]
  unbroken := by
    simp [requireLine, String.join_cons, named.not_mem (c := '\n') (by decide),
      named.not_mem (c := '\r') (by decide)]

theorem isCall_useLine (named : IsNameText table.toList) : IsCall (useLine table).toList where
  call := by
    refine ⟨"router.use('/".toList ++ table.toList ++ "', ".toList ++ table.toList ++
      "Routes".toList, by simp [useLine, String.join_cons], ?_⟩
    simp [named.not_mem (c := ';') (by decide)]
  unbroken := by
    simp [useLine, String.join_cons, named.not_mem (c := '\n') (by decide),
      named.not_mem (c := '\r') (by decide)]

theorem mentions_requireLine (named : IsNameText table.toList) :
    Mentions (requireLine table).toList table.toList where
  parts := by
    have noSlash := named.not_mem (c := '/') (by decide)
    refine ⟨"const ".toList ++ table.toList ++ "Routes = require('.".toList, ");".toList,
      by simp [requireLine, String.join_cons], ?_, ?_, by decide⟩
    · simp [noSlash]
    · simp [noSlash]
  unquoted := named.not_mem (by decide)

theorem mentions_useLine (named : IsNameText table.toList) :
    Mentions (useLine table).toList table.toList where
  parts := by
    have noSlash := named.not_mem (c := '/') (by decide)
    have unquoted := named.not_mem (c := '\'') (by decide)
    refine ⟨"router.use('".toList, ", ".toList ++ table.toList ++ "Routes);".toList,
      by simp [useLine, String.join_cons], by decide, ?_, ?_⟩
    · simp [noSlash]
    · simp [unquoted]
  unquoted := named.not_mem (by decide)

theorem isCall_of_mem_lines (named : IsNameText table.toList) (member : line ∈ lines table) :
    IsCall line.toList := by
  rcases List.mem_pair.1 member with rfl | rfl
  · exact isCall_requireLine named
  · exact isCall_useLine named

theorem mentions_of_mem_lines (named : IsNameText table.toList) (member : line ∈ lines table) :
    Mentions line.toList table.toList := by
  rcases List.mem_pair.1 member with rfl | rfl
  · exact mentions_requireLine named
  · exact mentions_useLine named

/-- The lines of a table end differently. -/
theorem apart_requireLine_useLine (table : String) :
    ¬ (requireLine table).toList <:+ (useLine table).toList ∧
      ¬ (useLine table).toList <:+ (requireLine table).toList := by
  have required : "');".toList <:+ (requireLine table).toList :=
    ⟨"const ".toList ++ table.toList ++ "Routes = require('./".toList ++ table.toList,
      by simp [requireLine, String.join_cons]⟩
  have used : "s);".toList <:+ (useLine table).toList :=
    ⟨"router.use('/".toList ++ table.toList ++ "', ".toList ++ table.toList ++ "Route".toList,
      by simp [useLine, String.join_cons]⟩
  constructor <;> intro ends
  · have same := List.suffix_of_suffix_length_le (required.trans ends) used (Nat.le_refl 3)
    revert same
    decide
  · have same := List.suffix_of_suffix_length_le (used.trans ends) required (Nat.le_refl 3)
    revert same
    decide

/-- A line of a table that ends a line of another table or of the same one is that line. -/
theorem eq_of_suffix (named : IsNameText table.toList) (otherNamed : IsNameText other.toList)
    (member : line ∈ lines table) (otherMember : otherLine ∈ lines other)
    (ends : line.toList <:+ otherLine.toList) : line = otherLine := by
  have names := (mentions_of_mem_lines named member).eq_of_suffix
    (mentions_of_mem_lines otherNamed otherMember) ends
  obtain rfl : table = other := String.toList_injective names
  rcases List.mem_pair.1 member with rfl | rfl <;> rcases List.mem_pair.1 otherMember with rfl | rfl
  · rfl
  · exact absurd ends (apart_requireLine_useLine table).1
  · exact absurd ends (apart_requireLine_useLine table).2
  · rfl

/-- Tables with a line in common are the same. -/
theorem eq_of_mem_lines (named : IsNameText table.toList) (otherNamed : IsNameText other.toList)
    (member : line ∈ lines table) (otherMember : line ∈ lines other) : table = other :=
  String.toList_injective ((mentions_of_mem_lines named member).eq_of_suffix
    (mentions_of_mem_lines otherNamed otherMember) List.suffix_rfl)

theorem occurrences_line (named : IsNameText table.toList) (otherNamed : IsNameText other.toList)
    (member : line ∈ lines table) (otherMember : otherLine ∈ lines other) :
    occurrences line.toList otherLine.toList = if line.toList = otherLine.toList then 1 else 0 :=
  (isCall_of_mem_lines named member).occurrences_call (isCall_of_mem_lines otherNamed otherMember)
    fun ends => congrArg _ (eq_of_suffix named otherNamed member otherMember ends)

end Lines

/-! ## Registration -/

/-- The number of places at which an index has a line. -/
def count (content line : String) : Nat :=
  occurrences line.toList content.toList

/-- Both lines of a table occur in an index. -/
structure Registered (content table : String) : Prop where
  required : (requireLine table).toList <:+: content.toList
  used : (useLine table).toList <:+: content.toList

theorem registered_iff {content table : String} :
    Registered content table ↔ ∀ line ∈ lines table, 0 < count content line := by
  simp only [count, occurrences_pos_iff]
  constructor
  · rintro ⟨required, used⟩ line member
    rcases List.mem_pair.1 member with rfl | rfl
    · exact required
    · exact used
  · exact fun occur => ⟨occur _ (by simp [lines]), occur _ (by simp [lines])⟩

section Registration

variable {table line : String}

/-- No line of a table is lost when anything is registered. -/
theorem le_count_patch (named : IsNameText table.toList) (member : line ∈ lines table)
    (content other : String) : count content line ≤ count (patch content other) line := by
  have call := isCall_of_mem_lines named member
  rw [count, count, patch, String.toList_ofList]
  refine Nat.le_trans (le_occurrences_ensure ?_)
    (le_occurrences_ensure (call.le_occurrences_insertUse _ _))
  rw [call.occurrences_insertRequire]
  exact Nat.le_add_right _ _

/-- The lines of a table that is registered are there once, or as often as before. Those of
other tables are there as often as before. -/
theorem count_patch {other : String} (named : IsNameText table.toList)
    (otherNamed : IsNameText other.toList) (member : line ∈ lines table) (content : String) :
    count (patch content other) line =
      if table = other then max 1 (count content line) else count content line := by
  have call := isCall_of_mem_lines named member
  have required : requireLine other ∈ lines other := by simp [lines]
  have used : useLine other ∈ lines other := by simp [lines]
  have loaded := occurrences_ensure
    (call.occurrences_insertRequire (requireLine other).toList content.toList)
    (occurrences_line named otherNamed member required)
  have mounted (text : List Char) := occurrences_ensure
    (call.occurrences_insertUse (isCall_useLine otherNamed) (fun ends =>
      congrArg _ (eq_of_suffix otherNamed named used member ends).symm) text)
    (occurrences_line named otherNamed member used)
  rw [count, patch, String.toList_ofList, patchChars, mounted, loaded]
  simp only [String.toList_inj]
  by_cases same : table = other
  · subst same
    rw [if_pos rfl, count]
    rcases List.mem_pair.1 member with rfl | rfl
    · have apart : requireLine table ≠ useLine table := fun same =>
        (apart_requireLine_useLine table).1 (same ▸ List.suffix_rfl)
      rw [if_neg apart, if_pos rfl]
    · have apart : useLine table ≠ requireLine table := fun same =>
        (apart_requireLine_useLine table).2 (same ▸ List.suffix_rfl)
      rw [if_pos rfl, if_neg apart]
  · have apart {otherLine : String} (otherMember : otherLine ∈ lines other) :
        line ≠ otherLine := by
      rintro rfl
      exact same (eq_of_mem_lines named otherNamed member otherMember)
    rw [if_neg same, if_neg (apart used), if_neg (apart required), count]

/-- Both lines of a table are put into an index that has neither. -/
theorem toList_patch_of_absent (named : IsNameText table.toList) {content : String}
    (absent : ∀ line ∈ lines table, count content line = 0) :
    (patch content table).toList =
      insertUse (useLine table).toList (insertRequire (requireLine table).toList content.toList) := by
  have required : requireLine table ∈ lines table := by simp [lines]
  have used : useLine table ∈ lines table := by simp [lines]
  have unloaded : ¬ (requireLine table).toList <:+: content.toList :=
    occurrences_eq_zero_iff.1 (absent _ required)
  -- The line that mounts the router does not come about when the other one is put in.
  have unmounted :
      ¬ (useLine table).toList <:+: insertRequire (requireLine table).toList content.toList := by
    have apart : (useLine table).toList ≠ (requireLine table).toList := fun same =>
      (apart_requireLine_useLine table).2 (same ▸ List.suffix_rfl)
    rw [← occurrences_eq_zero_iff, (isCall_useLine named).occurrences_insertRequire,
      occurrences_line named named used required, if_neg apart]
    exact absent _ used
  rw [patch, String.toList_ofList, patchChars, ensure, ensure,
    if_neg (mt Text.occursIn_iff.1 unloaded), if_neg (mt Text.occursIn_iff.1 unmounted)]

/-- Registering a table registers it. -/
theorem registered_patch (named : IsNameText table.toList) (content : String) :
    Registered (patch content table) table := by
  refine registered_iff.2 fun line member => ?_
  rw [count_patch named named member, if_pos rfl]
  exact Nat.lt_of_lt_of_le Nat.one_pos (Nat.le_max_left _ _)

/-- A table that is registered stays so when another one is registered. -/
theorem Registered.patch (named : IsNameText table.toList) {content : String}
    (registered : Registered content table) (other : String) :
    Registered (RoutesIndex.patch content other) table :=
  registered_iff.2 fun line member =>
    Nat.lt_of_lt_of_le (registered_iff.1 registered line member)
      (le_count_patch named member content other)

/-- Registering a table changes nothing exactly if the table is registered. -/
theorem patch_eq_self_iff (named : IsNameText table.toList) {content : String} :
    RoutesIndex.patch content table = content ↔ Registered content table := by
  constructor
  · intro same
    rw [← same]
    exact registered_patch named content
  · intro registered
    rw [RoutesIndex.patch, patchChars,
      ensure_of_occursIn (Text.occursIn_iff.2 registered.required),
      ensure_of_occursIn (Text.occursIn_iff.2 registered.used), String.ofList_toList]

/-- A table is not registered by registering another one. -/
theorem Registered.of_patch {other : String} (named : IsNameText table.toList)
    (otherNamed : IsNameText other.toList) (apart : table ≠ other) {content : String}
    (registered : Registered (RoutesIndex.patch content other) table) :
    Registered content table := by
  refine registered_iff.2 fun line member => ?_
  have occurs := registered_iff.1 registered line member
  rwa [count_patch named otherNamed member, if_neg apart] at occurs

end Registration

end RoutesIndex
end SchemaScaffold
