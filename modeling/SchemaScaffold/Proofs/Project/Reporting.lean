import SchemaScaffold.Proofs.Project.Steps

/-!
# What runs report

The parts of a run report what became of the files that they were to make. The report of a
sequence of parts tells what has changed and what was there, as the reports of its parts do.
-/

namespace SchemaScaffold
namespace Project

open Disk (Grows)
open Disk.Path (IsInside join names)

theorem mem_written_ofResults {results : List (String × WriteResult)} {path : String} :
    path ∈ (Outcome.ofResults results).written ↔ (path, WriteResult.written) ∈ results := by
  simp [Outcome.ofResults]

theorem written_ofResults_append (first second : List (String × WriteResult)) :
    (Outcome.ofResults (first ++ second)).written =
      (Outcome.ofResults first).written ++ (Outcome.ofResults second).written := by
  simp [Outcome.ofResults]

/-- Each result is sorted as one or the other. -/
theorem length_ofResults (results : List (String × WriteResult)) :
    (Outcome.ofResults results).written.length + (Outcome.ofResults results).skipped.length =
      results.length := by
  induction results with
  | nil => rfl
  | cons result rest ih =>
    obtain ⟨path, outcome⟩ := result
    cases outcome <;> simp [Outcome.ofResults] at ih ⊢ <;> omega

section Reports

variable (root : String) (schema : Schema)

/-- Where a project is reached without detours, a report tells exactly what was there before. -/
structure IsExact (results : List (String × WriteResult)) (before after : Disk) : Prop where
  /-- Nothing was at the paths that were written. -/
  empty : ∀ path, (path, .written) ∈ results → before.node? (before.destination path) = none
  /-- What was skipped had been there, or had been written before. -/
  skipped : ∀ front path back, results = front ++ (path, .skipped) :: back →
    before.node? (before.destination path) ≠ none ∨ (path, .written) ∈ front
  /-- Whatever comes to be at a path of the project was written there. -/
  emerged : ∀ path ∈ allPaths schema, after.node? (before.destination (join root path)) ≠ none →
    before.node? (before.destination (join root path)) ≠ none ∨
      (join root path, .written) ∈ results

/-- What a part of a run reports, if files at some paths may be changed without a report. -/
structure Reports (changing : List String) (results : List (String × WriteResult))
    (before after : Disk) : Prop where
  grows : Grows before after
  tree : KeepsTree before after
  changed : ∀ place, after.file? place ≠ before.file? place →
    (∃ path, (path, .written) ∈ results ∧ place = before.destination path) ∨
      ∃ path ∈ changing, place = before.destination (join root path)
  there : ∀ result ∈ results, after.hasEntry result.1 = true
  unseen : ∀ path, (path, .written) ∈ results → before.hasEntry path = false
  nodup : (Outcome.ofResults results).written.Nodup
  known : ∀ result ∈ results, ∃ path ∈ allPaths schema, result.1 = join root path
  exact : before.IsTree → before.Direct root → IsExact root schema results before after

end Reports

variable {root : String} {schema : Schema} {changing : List String}
  {results more : List (String × WriteResult)} {before middle after : Disk}

theorem IsExact.trans (grows : Grows before middle)
    (known : ∀ result ∈ more, ∃ path ∈ allPaths schema, result.1 = join root path)
    (first : IsExact root schema results before middle)
    (second : IsExact root schema more middle after) :
    IsExact root schema (results ++ more) before after where
  empty path member := by
    rcases List.mem_append.1 member with early | late
    · exact first.empty path early
    · have later := second.empty path late
      rw [grows.destination] at later
      by_contra standing
      exact grows.occupied standing later
  skipped front path back shape := by
    rcases List.append_eq_append_iff.1 shape with ⟨inside, split, rest⟩ | ⟨inside, split, rest⟩
    · -- The skipped path is one of the second part.
      have late := second.skipped inside path back rest
      rw [grows.destination] at late
      rcases late with standing | written
      · obtain ⟨inner, output, rfl⟩ := known (path, .skipped) (by simp [rest])
        rcases first.emerged inner output standing with older | early
        · exact .inl older
        · exact .inr (by simp [split, early])
      · exact .inr (by simp [split, written])
    · cases inside with
      | nil =>
        rw [List.nil_append] at rest
        rw [List.append_nil] at split
        subst split
        have late := second.skipped [] path back rest.symm
        rw [grows.destination] at late
        obtain ⟨inner, output, rfl⟩ := known (path, .skipped) (by simp [← rest])
        exact first.emerged inner output (late.resolve_right (by simp))
      | cons result tail =>
        obtain ⟨rfl, -⟩ := List.cons_eq_cons.1 rest
        exact first.skipped front path tail split
  emerged path output standing := by
    have late := second.emerged path output
    rw [grows.destination] at late
    rcases late standing with early | written
    · exact (first.emerged path output early).imp_right (List.mem_append_left _)
    · exact .inr (List.mem_append_right _ written)

namespace Reports

theorem nil (disk : Disk) : Reports root schema changing [] disk disk where
  grows := Grows.refl disk
  tree := fun tree => tree
  changed _ differs := absurd rfl differs
  there := by simp
  unseen := by simp
  nodup := List.nodup_nil
  known := by simp
  exact _ _ := ⟨by simp, by simp, fun _ _ standing => .inl standing⟩

/-- Reports of two parts of a run are put together. -/
theorem trans (first : Reports root schema changing results before middle)
    (second : Reports root schema changing more middle after) :
    Reports root schema changing (results ++ more) before after where
  grows := first.grows.trans second.grows
  tree tree := second.tree (first.tree tree)
  changed place differs := by
    by_cases same : after.file? place = middle.file? place
    · rw [same] at differs
      refine (first.changed place differs).imp_left ?_
      rintro ⟨path, written, here⟩
      exact ⟨path, List.mem_append_left _ written, here⟩
    · have late := second.changed place same
      simp only [first.grows.destination] at late
      refine late.imp_left ?_
      rintro ⟨path, written, here⟩
      exact ⟨path, List.mem_append_right _ written, here⟩
  there result member := by
    rcases List.mem_append.1 member with early | late
    · exact second.grows.hasEntry (first.there result early)
    · exact second.there result late
  unseen path written := by
    rcases List.mem_append.1 written with early | late
    · exact first.unseen path early
    · by_contra seen
      have later := first.grows.hasEntry (by simpa using seen)
      simp [second.unseen path late] at later
  nodup := by
    rw [written_ofResults_append, List.nodup_append]
    refine ⟨first.nodup, second.nodup, ?_⟩
    rintro path early _ late rfl
    have seen := first.there _ (mem_written_ofResults.1 early)
    simp [second.unseen path (mem_written_ofResults.1 late)] at seen
  known result member :=
    (List.mem_append.1 member).elim (first.known result) (second.known result)
  exact tree direct :=
    (first.exact tree direct).trans first.grows second.known
      (second.exact (first.tree tree) (direct.grows first.grows))

end Reports

section Places

variable {path other text : String} (inside : IsInside path) (further : names path ≠ [])

include inside further

/-- A careful write that succeeds writes exactly if nothing was there. Behind a detour it does not
see what is there. -/
theorem written_iff (tree : before.IsTree) {result : WriteResult}
    (run : execute (writeFile (join root path) text .skip) before = (.ok result, after)) :
    result = .written ↔
      ¬ before.Direct root ∨ before.node? (before.destination (join root path)) = none := by
  rw [execute_writeFile_skip] at run
  split at run
  · next found =>
    obtain ⟨rfl, rfl⟩ : WriteResult.skipped = result ∧ before = after := by simpa using run
    have direct := Disk.direct_of_hasEntry tree inside further found
    simpa [direct] using inside.node?_of_hasEntry further found
  · next missing =>
    refine iff_of_true (execute_put_eq_ok.1 run).1 ?_
    by_cases direct : before.Direct root
    · obtain rfl := (execute_put_eq_ok.1 run).1
      exact .inr (node?_of_put inside tree direct missing run)
    · exact .inl direct

/-- A careful write leaves no detour. -/
theorem direct_of_writeFile (tree : before.IsTree) {result : WriteResult}
    (run : execute (writeFile (join root path) text .skip) before = (.ok result, after)) :
    after.IsTree ∧ after.Direct root := by
  have stillTree := (keepsTree_writeFile_skip _ _).of_execute run tree
  exact ⟨stillTree, Disk.direct_of_hasEntry stillTree inside further (hasEntry_of_writeFile run)⟩

/-- When a write leaves no detour, there is nothing at another place inside the project if there
was nothing before and it is not on the way. -/
theorem node?_of_touched_eq_none_iff (touched : Touched (join root other) text before after)
    (direct : after.Direct root) (otherInside : IsInside other)
    (apart : ¬ names path <+: names other) :
    after.node? (before.destination (join root path)) = none ↔
      before.node? (before.destination (join root path)) = none ∧
        before.destination (join root path) ∉ before.wayOf root := by
  have notBelow : ¬ before.destination (join root path) <+:
      before.destination (join root other) :=
    fun below => apart ((inside.destination_prefix_iff otherInside before root).1 below)
  constructor
  · intro empty
    refine ⟨by_contra fun standing => touched.grows.occupied standing empty, fun onWay => ?_⟩
    rw [← touched.grows.destination] at empty
    rw [← touched.grows.destination, ← touched.grows.wayOf] at onWay
    exact inside.node?_of_mem_wayOf further direct onWay empty
  · rintro ⟨empty, offWay⟩
    have off : before.destination (join root path) ∉ before.wayOf (join root other) := fun onWay =>
      (otherInside.mem_wayOf_join onWay).elim offWay fun ⟨_, above⟩ => notBelow above
    have elsewhere :
        before.destination (join root path) ≠ before.destination (join root other) := by
      intro same
      rw [same] at notBelow
      exact notBelow List.prefix_rfl
    rw [touched.node?_of_not_mem off elsewhere, empty]

end Places

/-- Paths of a project with the same names are one path. -/
theorem eq_of_names_eq (named : ∀ table ∈ schema.tables, IsNamed table) {path other : String}
    (output : path ∈ allPaths schema) (otherOutput : other ∈ allPaths schema)
    (same : names path = names other) : path = other := by
  have mixed {table : Table} {file : TemplateFile} {path : String}
      (tableMember : table ∈ schema.tables) (member : file ∈ tableTemplates)
      (fixed : path ∈ fixedPaths)
      (same : names (tablePath table file) = names path) : tablePath table file = path := by
    obtain ⟨rfl, rfl, index⟩ := names_tablePath_fixed (named table tableMember) member fixed same
    exact tablePath_of_index index
  rcases mem_allPaths_iff.1 output with ⟨table, tableMember, file, member, rfl⟩ | fixed <;>
    rcases mem_allPaths_iff.1 otherOutput with ⟨further, furtherMember, template, isTemplate, rfl⟩ |
      otherFixed
  · exact (tablePath_eq_iff (named table tableMember) (named further furtherMember) member
      isTemplate).2 ((names_tablePath_eq_iff (named table tableMember)
        (named further furtherMember) member isTemplate).1 same)
  · exact mixed tableMember member otherFixed same
  · exact (mixed furtherMember isTemplate fixed same.symm).symm
  · exact eq_of_fixed fixed otherFixed same

section Named

variable (named : ∀ table ∈ schema.tables, IsNamed table)

include named

/-- What comes to be at a path of a project while another one is written is at that one. -/
theorem eq_of_emerged {path other text : String} (output : path ∈ allPaths schema)
    (otherOutput : other ∈ allPaths schema)
    (touched : Touched (join root other) text before after) (direct : before.Direct root)
    (empty : before.node? (before.destination (join root path)) = none)
    (standing : after.node? (before.destination (join root path)) ≠ none) : path = other := by
  by_contra apart
  obtain ⟨inside, further⟩ := isInside_of_mem_allPaths named output
  obtain ⟨otherInside, -⟩ := isInside_of_mem_allPaths named otherOutput
  rw [touched.node?_eq direct inside further otherInside fun below => apart
    (eq_of_names_eq named output otherOutput (names_eq_of_isAbove named output otherOutput below))]
    at standing
  exact standing empty

/-- A careful write reports what it does. -/
theorem reports_writeFile_skip {path text : String} (output : path ∈ allPaths schema)
    {result : WriteResult}
    (run : execute (writeFile (join root path) text .skip) before = (.ok result, after)) :
    Reports root schema changing [(join root path, result)] before after := by
  have touched := (respects_writeFile_skip _ text).of_execute run
  have tree := (keepsTree_writeFile_skip _ text).of_execute run
  have seen := hasEntry_of_writeFile run
  obtain ⟨inside, further⟩ := isInside_of_mem_allPaths named output
  rw [execute_writeFile_skip] at run
  split at run
  · next found =>
    obtain ⟨rfl, rfl⟩ : WriteResult.skipped = result ∧ before = after := by simpa using run
    have standing := inside.node?_of_hasEntry further found
    refine ⟨touched.grows, tree, fun _ differs => absurd rfl differs, by simpa using seen,
      by simp, by simp [Outcome.ofResults], by simpa using ⟨path, output, rfl⟩, fun _ _ => ?_⟩
    refine ⟨by simp, fun front other back shape => ?_, fun _ _ standing => .inl standing⟩
    have member : (other, WriteResult.skipped) ∈ [(join root path, WriteResult.skipped)] := by
      simp [shape]
    obtain rfl : other = join root path := by simpa using member
    exact .inl standing
  · next missing =>
    obtain rfl := (execute_put_eq_ok.1 run).1
    refine ⟨touched.grows, tree, fun place differs => .inl ⟨join root path, by simp, ?_⟩,
      by simpa using seen, by simpa using missing, by simp [Outcome.ofResults],
      by simpa using ⟨path, output, rfl⟩, fun isTree direct => ?_⟩
    · by_contra apart
      exact differs (touched.file?_of_ne apart)
    · have empty := node?_of_put inside isTree direct missing run
      refine ⟨by simpa using empty, fun front other back shape => ?_, fun other otherOutput => ?_⟩
      · have member : (other, WriteResult.skipped) ∈ [(join root path, WriteResult.written)] := by
          simp [shape]
        simp at member
      · intro standing
        by_cases older : before.node? (before.destination (join root other)) = none
        · obtain rfl := eq_of_emerged named otherOutput output touched direct older standing
          exact .inr (by simp)
        · exact .inl older

section Behind

variable {first text : String} {result : WriteResult} {later : List (String × WriteResult)}
  (tree : before.IsTree) (output : first ∈ allPaths schema)
  (run : execute (writeFile (join root first) text .skip) before = (.ok result, middle))
  (report : Reports root schema changing later middle after)

include tree output run report

/-- Once the first write has been made, the report is exact. -/
theorem exact_of_first : IsExact root schema later middle after := by
  obtain ⟨inside, further⟩ := isInside_of_mem_allPaths named output
  obtain ⟨stillTree, direct⟩ := direct_of_writeFile inside further tree run
  exact report.exact stillTree direct

/-- Nothing was at the paths that are written but for the first one behind a detour. -/
theorem node?_of_written {path : String}
    (written : (path, .written) ∈ (join root first, result) :: later) :
    before.node? (before.destination path) = none ∨
      ¬ before.Direct root ∧ path = join root first := by
  obtain ⟨inside, further⟩ := isInside_of_mem_allPaths named output
  rcases List.mem_cons.1 written with here | late
  · obtain ⟨rfl, rfl⟩ := Prod.mk.inj here
    exact ((written_iff inside further tree run).1 rfl).symm.imp_right fun detour => ⟨detour, rfl⟩
  · have grows := ((respects_writeFile_skip _ text).of_execute run).grows
    have empty := (exact_of_first named tree output run report).empty path late
    rw [grows.destination] at empty
    exact .inl (by_contra fun standing => grows.occupied standing empty)

/-- What was skipped had been there or had been written before, or a directory was made there on the
way behind a detour. -/
theorem node?_of_skipped {front back : List (String × WriteResult)} {path : String}
    (shape : (join root first, result) :: later = front ++ (path, .skipped) :: back) :
    before.node? (before.destination path) ≠ none ∨ (path, .written) ∈ front ∨
      ¬ before.Direct root ∧ before.destination path ∈ before.wayOf root := by
  obtain ⟨inside, further⟩ := isInside_of_mem_allPaths named output
  have touched := (respects_writeFile_skip _ text).of_execute run
  have written := written_iff inside further tree run
  obtain ⟨stillTree, direct⟩ := direct_of_writeFile inside further tree run
  cases front with
  | nil =>
    obtain ⟨here, -⟩ := List.cons_eq_cons.1 shape
    obtain ⟨rfl, rfl⟩ := Prod.mk.inj here
    exact .inl fun empty => absurd (written.2 (.inr empty)) (by simp)
  | cons head front =>
    obtain ⟨rfl, rest⟩ := List.cons_eq_cons.1 shape
    rcases (exact_of_first named tree output run report).skipped front path back rest with
      standing | early
    · obtain ⟨other, otherOutput, rfl⟩ := report.known (path, .skipped) (by simp [rest])
      obtain ⟨otherInside, otherFurther⟩ := isInside_of_mem_allPaths named otherOutput
      rw [touched.grows.destination] at standing
      by_cases above : names other <+: names first
      · -- The path is that of the first write.
        obtain rfl := eq_of_names_eq named otherOutput output
          (names_eq_of_isAbove named otherOutput output above)
        by_cases made : result = .written
        · exact .inr (.inl (by simp [made]))
        · exact .inl fun empty => made (written.2 (.inr empty))
      · by_cases empty : before.node? (before.destination (join root other)) = none
        · have onWay : before.destination (join root other) ∈ before.wayOf root := by
            by_contra offWay
            exact standing ((node?_of_touched_eq_none_iff otherInside otherFurther touched direct
              inside above).2 ⟨empty, offWay⟩)
          refine .inr (.inr ⟨fun wasDirect => ?_, onWay⟩)
          exact otherInside.node?_of_mem_wayOf otherFurther wasDirect onWay empty
        · exact .inl empty
    · exact .inr (.inl (List.mem_cons_of_mem _ early))

end Behind

end Named

/-- Parts of a run that report one after another report together. -/
theorem reports_mapM {α β : Type} {program : α → Run (StateM Disk) β}
    {reported : β → List (String × WriteResult)} {list : List α}
    (each : ∀ a ∈ list, ∀ {disk last : Disk} {b : β}, execute (program a) disk = (.ok b, last) →
      Reports root schema changing (reported b) disk last)
    {answers : List β} (run : execute (list.mapM program) before = (.ok answers, after)) :
    Reports root schema changing (answers.flatMap reported) before after := by
  induction list generalizing before answers with
  | nil =>
    obtain ⟨rfl, rfl⟩ : [] = answers ∧ before = after := by simpa using run
    exact .nil before
  | cons a rest ih =>
    obtain ⟨b, others, middle, own, later, rfl⟩ := execute_mapM_cons_eq_ok.1 run
    exact (each a List.mem_cons_self own).trans
      (ih (fun other member => each other (List.mem_cons_of_mem _ member)) later)

end Project
end SchemaScaffold
