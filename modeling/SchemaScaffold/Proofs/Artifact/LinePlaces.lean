import SchemaScaffold.Proofs.Artifact.RoutesIndex

/-!
# Places of registered lines

Where the lines of a table are put into an index. The line that loads the router comes behind the
first declaration of the router, or on top, and the line that mounts it comes behind that one, in
front of an export that ends the index or at the end. All else stays as it is, but for the line
break behind the export.
-/

namespace SchemaScaffold
namespace RoutesIndex

open Text (StandsFirst occurrences occurrences_eq_zero_iff splitAtFirst_eq_none_iff
  standsFirst_of_splitAtFirst)

/-- What follows an export at the end of a content is one text. -/
theorem ending_unique {before front ending breaks : List Char} (few : AtMostOneBreak ending)
    (other : AtMostOneBreak breaks)
    (same : before ++ (exportLine ++ ending) = front ++ (exportLine ++ breaks)) :
    ending = breaks := by
  have last (text : List Char) : (text ++ exportLine).getLast? = some ';' := by
    rw [List.getLast?_append]
    rfl
  rw [← List.append_assoc, ← List.append_assoc] at same
  have kept := congrArg dropLastBreak same
  rw [dropLastBreak_of_atMostOneBreak (last before) (by decide) (by decide) few,
    dropLastBreak_of_atMostOneBreak (last front) (by decide) (by decide) other] at kept
  rwa [kept, List.append_cancel_left_eq] at same

/-- A text that ends in a call, but for line breaks. -/
def EndsCall (text : List Char) : Prop :=
  ∃ front ending, text = front ++ (')' :: ';' :: ending) ∧ ∀ c ∈ ending, c = '\n' ∨ c = '\r'

/-- An export does not begin in a call. -/
theorem beforeExport?_append {left : List Char} (ends : EndsCall left) (right : List Char) :
    beforeExport? (left ++ right) = (beforeExport? right).map (left ++ ·) := by
  ext before
  simp only [Option.map_eq_some_iff, beforeExport?_eq_some_iff]
  constructor
  · rintro ⟨ending, few, whole⟩
    rcases List.append_eq_append_iff.1 whole with ⟨middle, rfl, rest⟩ | ⟨middle, shape, rest⟩
    · exact ⟨middle, ⟨ending, few, rest⟩, rfl⟩
    · cases middle with
      | nil => exact ⟨[], ⟨ending, few, by simpa using rest.symm⟩, by simpa using shape⟩
      | cons first others =>
        -- The export would begin with the end of the call.
        obtain ⟨rfl, -⟩ : first = 'm' ∧ others ++ right = exportLine.tail ++ ending :=
          List.cons_eq_cons.1 rest.symm
        have noClose : ')' ∉ 'm' :: others := by
          intro member
          have inside : ')' ∈ exportLine ++ ending := by
            rw [rest]
            exact List.mem_append_left right member
          rcases List.mem_append.1 inside with exported | broken
          · revert exported
            decide
          · rcases few.isBreak _ broken with same | same <;> simp at same
        obtain ⟨front, breaks, rfl, isBreak⟩ := ends
        rcases List.append_eq_append_iff.1 shape with ⟨more, -, last⟩ | ⟨more, -, last⟩
        · have member : 'm' ∈ ')' :: ';' :: breaks := by simp [last]
          simp only [List.mem_cons] at member
          rcases member with same | same | broken
          · simp at same
          · simp at same
          · rcases isBreak _ broken with same | same <;> simp at same
        · exact absurd (by simp [last]) noClose
  · rintro ⟨inner, ⟨ending, few, rfl⟩, rfl⟩
    exact ⟨ending, few, by simp⟩

theorem lineBreak_mem (text : List Char) :
    (lineBreak text).1 ∈ [[], ['\n'], ['\r', '\n']] := by
  unfold lineBreak
  split <;> simp

theorem declaration_ne_nil : declaration ≠ [] := by
  decide

/-- What is in front of the place of a line that loads a router: nothing, or all up to the line
break behind the first declaration of the router. -/
inductive IsLoadPlace (content : List Char) : List Char → Prop where
  | top (absent : ¬ declaration <:+: content) : IsLoadPlace content []
  | behind (front ending : List Char) (first : StandsFirst declaration front content)
      (isEnding : ending ∈ [[], ['\n'], ['\r', '\n']]) :
      IsLoadPlace content (front ++ declaration ++ ending)

/-- A line break is put behind a declaration that has none. -/
def gap (before : List Char) : List Char :=
  if declaration.isSuffixOf before then ['\n'] else []

theorem gap_top : gap [] = [] := by
  decide

theorem gap_behind (front : List Char) {ending : List Char}
    (isEnding : ending ∈ [[], ['\n'], ['\r', '\n']]) :
    ending ++ gap (front ++ declaration ++ ending) =
      if ending.isEmpty then ['\n'] else ending := by
  have apart {last : Char} (other : last ≠ ';') (text : List Char) :
      declaration.isSuffixOf (text ++ [last]) = false := by
    rw [← Bool.not_eq_true, List.isSuffixOf_iff_suffix]
    rintro ⟨start, shape⟩
    have ends := congrArg List.getLast? shape
    rw [List.getLast?_append, List.getLast?_concat] at ends
    exact other (Option.some.inj ends).symm
  simp only [List.mem_cons, List.not_mem_nil, or_false] at isEnding
  rcases isEnding with rfl | rfl | rfl
  · simp [gap]
  · rw [gap, apart (by decide)]
    rfl
  · have shape : front ++ declaration ++ ['\r', '\n'] =
        (front ++ declaration ++ ['\r']) ++ ['\n'] := by simp
    rw [gap, shape, apart (by decide)]
    rfl

/-- A line is put at its place, with a line break behind it. -/
theorem exists_insertRequire (line content : List Char) :
    ∃ before after, content = before ++ after ∧ IsLoadPlace content before ∧
      insertRequire line content = before ++ gap before ++ line ++ '\n' :: after := by
  unfold insertRequire
  split
  · next absent =>
    exact ⟨[], content, rfl, .top (splitAtFirst_eq_none_iff.1 absent), by simp [gap_top]⟩
  · next front found split =>
    obtain ⟨whole, rest, rfl⟩ := Text.splitAtFirst_eq_some split
    dsimp only
    rw [List.drop_left]
    have isEnding := lineBreak_mem rest
    refine ⟨front ++ declaration ++ (lineBreak rest).1, (lineBreak rest).2, ?_,
      .behind front _ (standsFirst_of_splitAtFirst declaration_ne_nil split) isEnding, ?_⟩
    · rw [whole, List.append_assoc _ _ (lineBreak rest).2, lineBreak_append, List.append_assoc]
    · rw [← gap_behind front isEnding]
      simp only [List.append_assoc]

theorem IsLoadPlace.endsCall {content before : List Char} (place : IsLoadPlace content before) :
    before = [] ∨ EndsCall before := by
  cases place with
  | top => exact .inl rfl
  | behind front ending first isEnding =>
    have shape : declaration = "const router = express.Router(".toList ++ [')', ';'] := by decide
    refine .inr ⟨front ++ "const router = express.Router(".toList, ending, ?_, ?_⟩
    · rw [shape]
      simp only [List.append_assoc, List.cons_append, List.nil_append]
    · simp only [List.mem_cons, List.not_mem_nil, or_false] at isEnding
      rcases isEnding with rfl | rfl | rfl <;> simp

/-- The parts of an index around the lines of a table. -/
structure Layout where
  /-- What stays in front of the line that loads the router. -/
  before : List Char
  /-- What stays behind it and in front of the line that mounts the router. -/
  between : List Char
  /-- What follows the export at the end of the index, if that is its end. -/
  ending : Option (List Char)
  few : ∀ breaks ∈ ending, AtMostOneBreak breaks

namespace Layout

/-- The index without the lines. -/
def source (layout : Layout) : List Char :=
  layout.before ++ (layout.between ++ layout.ending.elim [] (exportLine ++ ·))

/-- The line that mounts a router and what is behind it; one line feed follows the export. -/
def mounted (line : List Char) : Option (List Char) → List Char
  | none => '\n' :: (line ++ ['\n'])
  | some _ => line ++ '\n' :: '\n' :: (exportLine ++ ['\n'])

/-- The index with the lines, and with the line breaks that are put around them. -/
def result (layout : Layout) (loading mounting : List Char) : List Char :=
  layout.before ++ gap layout.before ++ loading ++
    '\n' :: (layout.between ++ mounted mounting layout.ending)

end Layout

theorem IsCall.endsCall {line : List Char} (call : IsCall line) (front : List Char) :
    EndsCall (front ++ line ++ ['\n']) := by
  obtain ⟨start, rfl, -⟩ := call.call
  exact ⟨front ++ start, ['\n'], by simp, by simp⟩

/-- Behind lines that end in calls a line is put in front of the export at the end of what follows,
or behind it. -/
theorem exists_insertUse {left : List Char} (line right : List Char) (ends : EndsCall left) :
    ∃ between ending, right = between ++ Option.elim ending [] (exportLine ++ ·) ∧
      (∀ breaks ∈ ending, AtMostOneBreak breaks) ∧
      (ending = none → beforeExport? right = none) ∧
      insertUse line (left ++ right) = left ++ (between ++ Layout.mounted line ending) := by
  unfold insertUse
  rw [beforeExport?_append ends]
  cases found : beforeExport? right with
  | none => exact ⟨right, none, by simp, by simp, fun _ => rfl, by simp [Layout.mounted]⟩
  | some between =>
    obtain ⟨ending, few, rfl⟩ := beforeExport?_eq_some_iff.1 found
    exact ⟨between, some ending, rfl, by simpa using few, by simp, by simp [Layout.mounted]⟩

/-- An index has become another one by putting the lines of a table into it: the line that loads the
router at its place, with a line break behind it, and behind that the line that mounts the router,
in front of an export that ends the index but for at most one line break, or at the end. -/
structure IsPutIn (layout : Layout) (table content patched : String) : Prop where
  source : layout.source = content.toList
  result : layout.result (requireLine table).toList (useLine table).toList = patched.toList
  place : IsLoadPlace content.toList layout.before
  exported : ∀ front breaks, AtMostOneBreak breaks →
    content.toList = front ++ (exportLine ++ breaks) → layout.ending = some breaks
  once : ∀ line ∈ lines table, count patched line = 1

/-- The lines of a table of which an index has none are put in by registering it. Without them and
the line breaks around them the index is what it was, but for one line feed behind its export. -/
theorem lines_are_put_in_order {content table : String} (named : IsNameText table.toList)
    (unloaded : ¬ (requireLine table).toList <:+: content.toList)
    (unmounted : ¬ (useLine table).toList <:+: content.toList) :
    ∃ layout, IsPutIn layout table content (patch content table) := by
  have absent : ∀ line ∈ lines table, count content line = 0 := by
    intro line member
    refine occurrences_eq_zero_iff.2 ?_
    rcases List.mem_pair.1 member with rfl | rfl
    · exact unloaded
    · exact unmounted
  obtain ⟨before, after, whole, place, loaded⟩ :=
    exists_insertRequire (requireLine table).toList content.toList
  have ends := (isCall_requireLine named).endsCall (before ++ gap before)
  obtain ⟨between, ending, rest, few, last, mounted⟩ :=
    exists_insertUse (useLine table).toList after ends
  refine ⟨⟨before, between, ending, few⟩, ?_, ?_, place, ?_, ?_⟩
  · rw [Layout.source, ← rest, ← whole]
  · rw [toList_patch_of_absent named absent, loaded]
    simpa [Layout.result] using mounted.symm
  · intro front breaks atMost shape
    have exported : beforeExport? content.toList = some front :=
      beforeExport?_eq_some_iff.2 ⟨breaks, atMost, shape⟩
    cases ending with
    | none =>
      have nothing : beforeExport? content.toList = none := by
        rw [whole]
        rcases place.endsCall with rfl | call
        · exact last rfl
        · rw [beforeExport?_append call, last rfl]
          rfl
      rw [nothing] at exported
      simp at exported
    | some found =>
      rw [whole, rest, Option.elim_some, ← List.append_assoc] at shape
      exact congrArg some (ending_unique (few found rfl) atMost shape)
  · intro line member
    rw [count_patch named named member, if_pos rfl, absent line member]
    rfl

/-- An index whose declaration and export stand side by side on a line. -/
def singleLine : String :=
  "const router = express.Router();module.exports = router;\r\n"

/-- Both lines are put between a declaration and an export on one line. -/
theorem lines_part_singleLine :
    IsNameText "users".toList ∧ ¬ (requireLine "users").toList <:+: singleLine.toList ∧
      ¬ (useLine "users").toList <:+: singleLine.toList ∧
      ∃ layout, IsPutIn layout "users" singleLine (patch singleLine "users") := by
  have named : IsNameText "users".toList := by decide
  have unloaded : ¬ (requireLine "users").toList <:+: singleLine.toList := by
    rw [← Text.occursIn_iff]
    decide
  have unmounted : ¬ (useLine "users").toList <:+: singleLine.toList := by
    rw [← Text.occursIn_iff]
    decide
  exact ⟨named, unloaded, unmounted, lines_are_put_in_order named unloaded unmounted⟩

end RoutesIndex
end SchemaScaffold
