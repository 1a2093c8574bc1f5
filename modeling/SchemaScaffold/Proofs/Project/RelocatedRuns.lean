import SchemaScaffold.Proofs.Project.Preparation
import SchemaScaffold.Proofs.Project.Relocation

/-!
# Full runs in two roots

A full run does the same wherever its root is, if its schema and its templates are given by paths
that do not start there: it succeeds for both of two vacant roots or for neither, reports the same
files below them, and leaves the same behind in them.
-/

namespace SchemaScaffold
namespace Project

open Disk (SameInside)
open Disk.Path (join names)

/-- Two outcomes of a table are about the same files. -/
structure SameOutcome (schema : Schema) (left right : String)
    (outcome otherOutcome : TableOutcome) : Prop where
  files : List.Forall₂ (SameFile schema left right) outcome.files otherOutcome.files
  registered : outcome.registered = otherOutcome.registered

/-- Two summaries are about the same files, and about the same tables. -/
structure SameSummary (schema : Schema) (left right : String)
    (summary otherSummary : Summary) : Prop where
  written : List.Forall₂ (SamePath schema left right) summary.written otherSummary.written
  skipped : List.Forall₂ (SamePath schema left right) summary.skipped otherSummary.skipped
  patched : summary.patched = otherSummary.patched
  tables : summary.tables = otherSummary.tables
  database : summary.database = otherSummary.database

section Answers

variable {schema : Schema} {left right : String}

/-- The files that met one result are the same on both sides. -/
theorem forall₂_filter_result {files otherFiles : List (String × WriteResult)}
    (same : List.Forall₂ (SameFile schema left right) files otherFiles) (result : WriteResult) :
    List.Forall₂ (SamePath schema left right) ((files.filter (·.2 = result)).map (·.1))
      ((otherFiles.filter (·.2 = result)).map (·.1)) := by
  induction same with
  | nil => exact .nil
  | cons first others ih =>
    rw [List.filter_cons, List.filter_cons, first.2]
    split
    · exact .cons first.1 ih
    · exact ih

/-- The tables that were registered are the same on both sides. -/
theorem registered_eq {outcomes otherOutcomes : List TableOutcome}
    (same : List.Forall₂ (SameOutcome schema left right) outcomes otherOutcomes)
    (tables : List String) :
    ((tables.zip outcomes).filter (·.2.registered)).map (·.1) =
      ((tables.zip otherOutcomes).filter (·.2.registered)).map (·.1) := by
  induction same generalizing tables with
  | nil => rfl
  | cons first others ih =>
    cases tables with
    | nil => rfl
    | cons table tables =>
      rw [List.zip_cons_cons, List.zip_cons_cons, List.filter_cons, List.filter_cons]
      dsimp only
      rw [first.registered]
      split
      · rw [List.map_cons, List.map_cons, ih]
      · exact ih tables

theorem forall₂_flatMap_files {outcomes otherOutcomes : List TableOutcome}
    (same : List.Forall₂ (SameOutcome schema left right) outcomes otherOutcomes) :
    List.Forall₂ (SameFile schema left right) (outcomes.flatMap (·.files))
      (otherOutcomes.flatMap (·.files)) := by
  induction same with
  | nil => exact .nil
  | cons first others ih =>
    rw [List.flatMap_cons, List.flatMap_cons]
    exact List.rel_append first.files ih

theorem sameSummary_summarize {outcomes otherOutcomes : List TableOutcome}
    {documents otherDocuments : List (String × WriteResult)}
    (tables : List.Forall₂ (SameOutcome schema left right) outcomes otherOutcomes)
    (others : List.Forall₂ (SameFile schema left right) documents otherDocuments)
    (name : String) :
    SameSummary schema left right (FullRun.summarize schema name outcomes documents)
      (FullRun.summarize schema name otherOutcomes otherDocuments) := by
  have files := List.rel_append (forall₂_flatMap_files tables) others
  exact ⟨forall₂_filter_result files .written, forall₂_filter_result files .skipped,
    registered_eq tables _, rfl, rfl⟩

end Answers

section Runs

variable {start : Disk} {schema : Schema} {left right : String}
  (named : ∀ table ∈ schema.tables, IsNamed table)
  (leftRoom : HasRoom left schema) (rightRoom : HasRoom right schema)

include named leftRoom rightRoom

section Tables

variable {directory : String} (templatesThere : ∀ file ∈ tableTemplates ++ [poolTemplate],
    start.isFile (join directory file.template) = true)
  {table : Table} (member : table ∈ schema.tables)

include templatesThere member

theorem parallel_makeTableFiles :
    Parallel (Relocated start schema left right) (List.Forall₂ (SameFile schema left right))
      (makeTableFiles left directory table) (makeTableFiles right directory table) := by
  have pool : poolTemplate ∈ tableTemplates ++ [poolTemplate] :=
    List.mem_append_right _ List.mem_cons_self
  have each : ∀ file ∈ tableTemplates,
      Parallel (Relocated start schema left right) (SameFile schema left right)
        (makeFile left directory (Template.entityTokens table.entityNames) file)
        (makeFile right directory (Template.entityTokens table.entityNames) file) := by
    intro file isTemplate
    have output : tablePath table file ∈ outputs schema :=
      List.mem_append_left _ (List.mem_flatMap.2 ⟨table, member, List.mem_map_of_mem isTemplate⟩)
    have either := List.mem_append_left [poolTemplate] isTemplate
    exact parallel_makeFile named leftRoom rightRoom output either (templatesThere file either) rfl
  refine Parallel.bind (Parallel.mapM each) fun own otherOwn sameOwn => ?_
  refine Parallel.bind (parallel_makeFile named leftRoom rightRoom
    (List.mem_append_right _ List.mem_cons_self) pool (templatesThere _ pool) rfl) ?_
  exact fun shared otherShared same => Parallel.pure (List.rel_append sameOwn (.cons same .nil))

theorem parallel_generateTable (directoryThere : start.isDirectory directory = true) :
    Parallel (Relocated start schema left right) (SameOutcome schema left right)
      (generateTable left directory table) (generateTable right directory table) := by
  refine Parallel.bind (parallel_requireTemplates directoryThere) fun _ _ _ => ?_
  refine Parallel.bind (parallel_makeTableFiles named leftRoom rightRoom templatesThere member) ?_
  intro files otherFiles sameFiles
  refine Parallel.bind (parallel_updateRoutes named leftRoom rightRoom table.name) ?_
  intro registered otherRegistered same
  exact Parallel.pure ⟨sameFiles, same⟩

end Tables

omit named leftRoom rightRoom in
theorem parallel_renderPostman (api : ApiSettings) :
    Parallel (Relocated start schema left right) (· = ·) (renderPostman schema api)
      (renderPostman schema api) := by
  refine Parallel.of_readsOnly (fun disk => ?_) fun first second _ => ?_
  · rw [execute_renderPostman]
  · rw [execute_renderPostman, execute_renderPostman]

/-- The documents are written alike for two configurations that differ in their roots alone. -/
theorem parallel_writeDocuments (config : Config) (name : String) :
    Parallel (Relocated start schema left right) (List.Forall₂ (SameFile schema left right))
      (writeDocuments { config with projectRoot := left } schema name)
      (writeDocuments { config with projectRoot := right } schema name) := by
  have document {path : String} (isDocument : path ∈ documentPaths) (text : String) :
      Parallel (Relocated start schema left right) (SameFile schema left right)
        (writeDocument left path text) (writeDocument right path text) :=
    parallel_writeDocument named leftRoom rightRoom isDocument text
  refine Parallel.bind (document (by simp [documentPaths]) _) fun readme _ sameReadme => ?_
  refine Parallel.bind (document (by simp [documentPaths]) _) fun openApi _ sameOpenApi => ?_
  refine Parallel.bind (parallel_renderPostman _) ?_
  rintro collection _ rfl
  refine Parallel.bind (document (by simp [documentPaths]) _) fun postman _ samePostman => ?_
  refine Parallel.bind (document (by simp [documentPaths]) _) fun env _ sameEnv => ?_
  exact Parallel.pure
    (.cons sameReadme (.cons sameOpenApi (.cons samePostman (.cons sameEnv .nil))))

end Runs

namespace FullRun

/-- The same run for another root. -/
def withRoot (run : FullRun) (root : String) : FullRun :=
  { run with config := { run.config with projectRoot := root } }

/-- The paths of a run's inputs do not start at its root. -/
structure InputsApart (run : FullRun) : Prop where
  given : run.sqlPath ≠ none
  templates : Disk.Path.isAbsolute run.config.templatesDir = true

variable {run : FullRun}

theorem InputsApart.templates_eq (apart : run.InputsApart) (root : String) :
    (run.withRoot root).templates = run.config.templatesDir :=
  Disk.Path.join_of_isAbsolute apart.templates root

theorem InputsApart.input_eq (apart : run.InputsApart) (root : String) :
    (run.withRoot root).input = run.input := by
  obtain ⟨path, given⟩ := Option.ne_none_iff_exists'.1 apart.given
  simp [input, withRoot, inputPath, given]

/-- The inputs are prepared without looking at the root. -/
theorem InputsApart.prepare_eq (apart : run.InputsApart) (left right : String) :
    (run.withRoot left).prepare = (run.withRoot right).prepare := by
  have templates := (apart.templates_eq left).trans (apart.templates_eq right).symm
  have input := (apart.input_eq left).trans (apart.input_eq right).symm
  simp only [prepare, templates, input]
  rfl

/-- Files are produced alike in both roots. -/
theorem InputsApart.parallel_produce (apart : run.InputsApart) {start : Disk} {left right : String}
    {schema : Schema} {name : String} (prepared : (run.withRoot left).Prepared start schema name)
    (leftRoom : HasRoom left schema) (rightRoom : HasRoom right schema) :
    Parallel (Relocated start schema left right) (SameSummary schema left right)
      ((run.withRoot left).produce schema name) ((run.withRoot right).produce schema name) := by
  have named := prepared.isNamed
  have directory := prepared.directory
  have templates := prepared.templates
  rw [apart.templates_eq] at directory templates
  unfold produce
  rw [apart.templates_eq, apart.templates_eq]
  refine Parallel.bind (Parallel.mapM fun table member =>
    parallel_generateTable named leftRoom rightRoom templates member directory) ?_
  intro outcomes otherOutcomes sameOutcomes
  refine Parallel.bind (parallel_writeDocuments named leftRoom rightRoom run.config name) ?_
  intro documents otherDocuments sameDocuments
  exact Parallel.pure (sameSummary_summarize sameOutcomes sameDocuments name)

/-- A run does the same in two vacant roots with room for its outputs. -/
theorem InputsApart.agree (apart : run.InputsApart) {start : Disk} {left right : String}
    (leftVacant : start.IsVacant left) (rightVacant : start.IsVacant right)
    (room : ∀ schema name, (run.withRoot left).Prepared start schema name →
      HasRoom left schema ∧ HasRoom right schema) :
    Agree (fun summary otherSummary => ∃ schema name,
        (run.withRoot left).Prepared start schema name ∧
          SameSummary schema left right summary otherSummary)
      (execute (run.withRoot left).program start).1
      (execute (run.withRoot right).program start).1 ∧
    SameInside (execute (run.withRoot left).program start).2 (start.destination left)
      (execute (run.withRoot right).program start).2 (start.destination right) := by
  have same : SameInside start (start.destination left) start (start.destination right) :=
    fun inner strict => by
      rw [leftVacant.node?_eq_none strict, rightVacant.node?_eq_none strict]
  rw [program_eq, program_eq, execute_bind, execute_bind, apart.prepare_eq left right]
  cases preparing : execute (run.withRoot right).prepare start with
  | mk answer middle =>
    obtain rfl := ((run.withRoot right).readsOnly_prepare.of_execute preparing)
    cases answer with
    | error cause => exact ⟨trivial, same⟩
    | ok inputs =>
      obtain ⟨schema, name⟩ := inputs
      rw [← apart.prepare_eq left right] at preparing
      obtain ⟨-, prepared⟩ := execute_prepare_eq_ok.1 preparing
      obtain ⟨leftRoom, rightRoom⟩ := room schema name prepared
      have both : Relocated start schema left right start start :=
        ⟨⟨.inr leftVacant, .inr rightVacant, same⟩, (chains_changesOnly _ _).refl start,
          (chains_changesOnly _ _).refl start⟩
      obtain ⟨agree, after⟩ :=
        apart.parallel_produce prepared leftRoom rightRoom start start both
      constructor
      · exact agree.imp fun _ _ same => ⟨schema, name, prepared, same⟩
      · have inside := after.twins.same
        rwa [after.leftChanges.1.destination, after.rightChanges.1.destination] at inside

end FullRun

end Project
end SchemaScaffold
