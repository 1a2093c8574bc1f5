import SchemaScaffold.Proofs.Project.History
import SchemaScaffold.Proofs.Project.Preconditions
import SchemaScaffold.Proofs.Project.Reporting

/-!
# Runs of a single kind

The run for the collection of requests and the run for the frame of a project do all or nothing.
All inputs are read before the first file is written, so that a fault among them leaves the disk as
it is; a run that succeeds changes the files that it reports and no others.
-/

namespace SchemaScaffold
namespace Project

open Disk (Grows SameFiles)
open Disk.Path (IsInside join names)

/-- A file that cannot be put leaves all files as they are. -/
theorem sameFiles_of_put {path text : String} {disk after : Disk} {cause : Failure}
    (run : execute (put path text) disk = (.error cause, after)) : SameFiles disk after := by
  have furnished := execute_createParent_furnished path disk
  rcases execute_bind_eq_error.1 run with early | ⟨_, middle, created, late⟩
  · rw [early] at furnished
    exact furnished.sameFiles
  · rw [created] at furnished
    rcases execute_bind_eq_error.1 late with unwritten | ⟨_, _, _, done⟩
    · rw [execute_overwrite] at unwritten
      cases written : middle.write path text with
      | error fault =>
        obtain ⟨-, rfl⟩ : Failure.disk fault = cause ∧ middle = after := by
          simpa [written] using unwritten
        exact furnished.sameFiles
      | ok last => simp [written] at unwritten
    · simp at done

theorem sameFiles_of_writeDocument {root path text : String} {disk after : Disk} {cause : Failure}
    (run : execute (writeDocument root path text) disk = (.error cause, after)) :
    SameFiles disk after := by
  rcases execute_bind_eq_error.1 run with unwritten | ⟨_, _, _, done⟩
  · rw [execute_writeFile_overwrite] at unwritten
    exact sameFiles_of_put unwritten
  · simp at done

theorem sameFiles_of_generatePostman {config : Config} {sqlPath : Option String}
    {disk after : Disk} {cause : Failure}
    (run : execute (generatePostman config sqlPath) disk = (.error cause, after)) :
    SameFiles disk after := by
  rcases execute_bind_eq_error.1 run with unloaded | ⟨schema, loaded, loads, rest⟩
  · rw [(readsOnly_loadSchema _ _).of_execute unloaded]
    exact fun _ => rfl
  · rw [(readsOnly_loadSchema _ _).of_execute loads]
    rcases execute_bind_eq_error.1 rest with unrendered | ⟨text, rendered, renders, rest⟩
    · rw [(readsOnly_renderPostman _ _).of_execute unrendered]
      exact fun _ => rfl
    · rw [(readsOnly_renderPostman _ _).of_execute renders]
      rcases execute_bind_eq_error.1 rest with unwritten | ⟨_, _, _, done⟩
      · exact sameFiles_of_writeDocument unwritten
      · simp at done

theorem changesOnly_generatePostman (config : Config) (sqlPath : Option String) :
    Respects (ChangesOnly config.projectRoot [postmanPath]) (generatePostman config sqlPath) :=
  respects_generatePostman (chains_changesOnly _ _) (fun text disk =>
    (respects_writeFile_overwrite _ text disk).changesOnly (List.mem_singleton.2 rfl)) sqlPath

/-- Why a template cannot be loaded, if it cannot. -/
def templateFault? (disk : Disk) (directory : String) (file : TemplateFile) : Option Failure :=
  if lacksTemplate disk directory file then some (.templateMissing (join directory file.template))
  else
    match textAt disk (join directory file.template) with
    | .ok _ => none
    | .error cause => some cause

section Templates

variable {disk : Disk} {directory : String}

/-- A template is missing, or it is a file that is no text or cannot be read. -/
theorem templateFault?_eq_some {file : TemplateFile} {cause : Failure} :
    templateFault? disk directory file = some cause ↔
      disk.isFile (join directory file.template) = false ∧
          cause = .templateMissing (join directory file.template) ∨
        disk.isFile (join directory file.template) = true ∧
          ∃ fault, cause = .disk fault ∧
            textAt disk (join directory file.template) = .error (.disk fault) := by
  unfold templateFault? lacksTemplate
  cases isFile : disk.isFile (join directory file.template) with
  | false => simp [eq_comm]
  | true =>
    cases text : textAt disk (join directory file.template) with
    | ok content => simp
    | error other =>
      obtain ⟨fault, rfl⟩ := exists_fault_of_textAt text
      simp [eq_comm]

theorem execute_loadTemplate (file : TemplateFile) :
    execute (loadTemplate directory file.template) disk =
      (match templateFault? disk directory file with
        | some cause => .error cause
        | none => textAt disk (join directory file.template), disk) := by
  unfold loadTemplate templateFault? lacksTemplate
  rw [execute_bind, execute_requireTemplate]
  cases disk.isFile (join directory file.template) with
  | false => rfl
  | true =>
    simp only [if_true, execute_readText, Bool.not_true, Bool.false_eq_true, if_false]
    cases textAt disk (join directory file.template) <;> rfl

theorem exists_textAt_of_templateFault? {file : TemplateFile}
    (sound : templateFault? disk directory file = none) :
    ∃ text, textAt disk (join directory file.template) = .ok text := by
  unfold templateFault? at sound
  split at sound
  · simp at sound
  · split at sound
    · next text given => exact ⟨text, given⟩
    · simp at sound

/-- All templates are loaded, or the first one that cannot be loaded gives the cause. -/
theorem execute_loadTemplates (disk : Disk) (directory : String) (files : List TemplateFile) :
    (files.findSome? (templateFault? disk directory) = none ∧
        ∃ texts, execute (files.mapM fun file => loadTemplate directory file.template) disk =
          (.ok texts, disk)) ∨
      ∃ cause, files.findSome? (templateFault? disk directory) = some cause ∧
        execute (files.mapM fun file => loadTemplate directory file.template) disk =
          (.error cause, disk) := by
  induction files with
  | nil => exact .inl ⟨rfl, [], rfl⟩
  | cons file rest ih =>
    simp only [List.findSome?_cons, List.mapM_cons, execute_bind, execute_loadTemplate]
    cases fault : templateFault? disk directory file with
    | some cause => exact .inr ⟨cause, rfl, rfl⟩
    | none =>
      obtain ⟨text, given⟩ := exists_textAt_of_templateFault? fault
      rw [given]
      rcases ih with ⟨sound, texts, loads⟩ | ⟨cause, later, fails⟩
      · exact .inl ⟨sound, text :: texts, by simp [loads]⟩
      · exact .inr ⟨cause, later, by simp [fails]⟩

end Templates

section FrameFaults

variable {config : Config} {disk : Disk}

/-- A run for the frame fails without the directory of the templates. -/
theorem execute_generateBase_of_missing
    (missing : disk.isDirectory config.baseTemplatesPath = false) :
    execute (generateBase config) disk =
      (.error (.templatesNotFound config.baseTemplatesPath), disk) := by
  simp [generateBase, generateFrame, execute_bind, execute_requireTemplates, missing]

variable (found : disk.isDirectory config.baseTemplatesPath = true)

include found

/-- A run for the frame fails with the first template that cannot be loaded. -/
theorem execute_generateBase_of_fault {cause : Failure}
    (fault : baseTemplates.findSome? (templateFault? disk config.baseTemplatesPath) =
      some cause) : execute (generateBase config) disk = (.error cause, disk) := by
  rcases execute_loadTemplates disk config.baseTemplatesPath baseTemplates with
    ⟨sound, -⟩ | ⟨other, first, fails⟩
  · simp [sound] at fault
  · obtain rfl : other = cause := Option.some.inj (first.symm.trans fault)
    simp only [generateBase, generateFrame, execute_bind, execute_requireTemplates, found,
      if_true, fails]

/-- Once the templates are loaded, a run for the frame fails only because of a write. -/
theorem isWriteFault_of_generateBase
    (sound : baseTemplates.findSome? (templateFault? disk config.baseTemplatesPath) = none)
    {cause : Failure} {after : Disk}
    (run : execute (generateBase config) disk = (.error cause, after)) : IsWriteFault cause := by
  rcases execute_loadTemplates disk config.baseTemplatesPath baseTemplates with
    ⟨-, texts, loads⟩ | ⟨other, fault, -⟩
  · have copies : FailsOnly IsWriteFault
        ((baseTemplates.zip texts).mapM (copyFile config.projectRoot)) :=
      FailsOnly.mapM (fun pair => FailsOnly.bind (failsOnly_writeFile_skip _ _) fun _ =>
        FailsOnly.pure _) _
    rcases execute_bind_eq_error.1 run with failing | ⟨_, _, _, done⟩
    · simp only [generateFrame, execute_bind, execute_requireTemplates, found, if_true, loads]
        at failing
      exact copies _ _ _ failing
    · simp at done
  · simp [sound] at fault

end FrameFaults

/-- A run for the frame takes a file to be missing: there is nothing at its place, and no directory
has to be made there on the way to the root. Behind a detour the first file is not seen. -/
def SeemsMissing (root : String) (disk : Disk) (file : TemplateFile) : Prop :=
  file = serverTemplate ∧ ¬ disk.Direct root ∨
    disk.node? (disk.destination (join root file.destination)) = none ∧
      disk.destination (join root file.destination) ∉ disk.wayOf root

instance (root : String) (disk : Disk) (file : TemplateFile) :
    Decidable (SeemsMissing root disk file) :=
  inferInstanceAs (Decidable (_ ∨ _))

section SeemsMissing

variable {root : String} {before after : Disk} {file other : TemplateFile}

theorem further_of_mem_baseTemplates (member : file ∈ baseTemplates) :
    names file.destination ≠ [] :=
  (isInside_of_mem_fixedPaths _ (List.mem_append_right _ (List.mem_map_of_mem member))).2

/-- No file of the frame lies above another one. -/
theorem not_isAbove_of_mem_baseTemplates : ∀ file ∈ baseTemplates, ∀ other ∈ baseTemplates,
    file ≠ other → ¬ names file.destination <+: names other.destination := by
  decide +kernel

theorem destination_baseTemplate_ne (member : file ∈ baseTemplates)
    (otherMember : other ∈ baseTemplates) (apart : file ≠ other) (disk : Disk) (root : String) :
    disk.destination (join root file.destination) ≠
      disk.destination (join root other.destination) := by
  rw [(isInside_of_mem_baseTemplates file member).destination_join,
    (isInside_of_mem_baseTemplates other otherMember).destination_join]
  intro same
  have above : names file.destination <+: names other.destination :=
    List.append_cancel_left same ▸ List.prefix_rfl
  exact not_isAbove_of_mem_baseTemplates file member other otherMember apart above

/-- Without detours a file seems to be missing exactly if there is nothing at its place. -/
theorem seemsMissing_iff (direct : before.Direct root) (member : file ∈ baseTemplates) :
    SeemsMissing root before file ↔
      before.node? (before.destination (join root file.destination)) = none := by
  have inside := isInside_of_mem_baseTemplates file member
  constructor
  · rintro (⟨-, detour⟩ | ⟨empty, -⟩)
    · exact absurd direct detour
    · exact empty
  · exact fun empty => .inr ⟨empty, fun onWay =>
      inside.node?_of_mem_wayOf (further_of_mem_baseTemplates member) direct onWay empty⟩

/-- The first file is written exactly if it seems to be missing. -/
theorem written_iff_seemsMissing (tree : before.IsTree) {text : String} {result : WriteResult}
    (run : execute (writeFile (join root serverTemplate.destination) text .skip) before =
      (.ok result, after)) : result = .written ↔ SeemsMissing root before serverTemplate := by
  have member : serverTemplate ∈ baseTemplates := List.mem_cons_self
  rw [written_iff (isInside_of_mem_baseTemplates _ member) (further_of_mem_baseTemplates member)
    tree run]
  by_cases direct : before.Direct root
  · simp [direct, seemsMissing_iff direct member]
  · exact iff_of_true (.inl direct) (.inl ⟨rfl, direct⟩)

/-- A file seems to be missing exactly if there is nothing at its place once the first file is
written. -/
theorem seemsMissing_iff_of_touched {text : String}
    (touched : Touched (join root serverTemplate.destination) text before after)
    (direct : after.Direct root) (member : file ∈ baseTemplates) (later : file ≠ serverTemplate) :
    SeemsMissing root before file ↔
      after.node? (before.destination (join root file.destination)) = none := by
  have first : serverTemplate ∈ baseTemplates := List.mem_cons_self
  rw [node?_of_touched_eq_none_iff (isInside_of_mem_baseTemplates file member)
    (further_of_mem_baseTemplates member) touched direct (isInside_of_mem_baseTemplates _ first)
    (not_isAbove_of_mem_baseTemplates file member _ first later)]
  exact or_iff_right fun ⟨same, _⟩ => later same

end SeemsMissing

/-- What a sequence of careful writes does if it makes the files that have a property. -/
structure Copies (root : String) (isMade : TemplateFile → Prop) [DecidablePred isMade]
    (pairs : List (TemplateFile × String)) (results : List (String × WriteResult))
    (before after : Disk) : Prop where
  results : results = pairs.map fun pair =>
    (join root pair.1.destination, if isMade pair.1 then .written else .skipped)
  made : ∀ pair ∈ pairs, isMade pair.1 →
    after.file? (before.destination (join root pair.1.destination)) = some pair.2.toUTF8
  kept : ∀ place, (∀ pair ∈ pairs, isMade pair.1 →
    place ≠ before.destination (join root pair.1.destination)) →
      after.file? place = before.file? place

section Copies

variable {root : String} {isMade : TemplateFile → Prop} [DecidablePred isMade]
  {pair : TemplateFile × String} {pairs : List (TemplateFile × String)}
  {results : List (String × WriteResult)} {before middle after : Disk}

theorem Copies.cons {outcome : WriteResult}
    (own : execute (writeFile (join root pair.1.destination) pair.2 .skip) before =
      (.ok outcome, middle)) (made : outcome = .written ↔ isMade pair.1)
    (apart : ∀ other ∈ pairs, before.destination (join root pair.1.destination) ≠
      before.destination (join root other.1.destination))
    (rest : Copies root isMade pairs results middle after) :
    Copies root isMade (pair :: pairs) ((join root pair.1.destination, outcome) :: results)
      before after := by
  have touched := (respects_writeFile_skip _ _).of_execute own
  have destination := touched.grows.destination
  rw [execute_writeFile_skip] at own
  refine ⟨?_, fun other member isOther => ?_, fun place off => ?_⟩
  · rw [List.map_cons, ← rest.results]
    cases outcome <;> simp_all
  · rcases List.mem_cons.1 member with rfl | later
    · rw [rest.kept _ fun further isFurther _ => by
        rw [destination]
        exact apart further isFurther]
      split at own
      · obtain ⟨rfl, -⟩ : WriteResult.skipped = outcome ∧ before = middle := by simpa using own
        simp [isOther] at made
      · exact file?_of_put own
    · rw [← destination]
      exact rest.made other later isOther
  · obtain ⟨offFirst, offRest⟩ := List.forall_mem_cons.1 off
    rw [rest.kept place fun other member isOther => by
      rw [destination]
      exact offRest other member isOther]
    split at own
    · obtain ⟨-, rfl⟩ : WriteResult.skipped = outcome ∧ before = middle := by simpa using own
      rfl
    · exact touched.file?_of_ne (offFirst (made.1 (execute_put_eq_ok.1 own).1))

/-- Careful writes of different files of the frame, in a project that is reached without detours,
make those at whose places there is nothing. -/
theorem copies_of_direct (tree : before.IsTree) (direct : before.Direct root)
    (base : ∀ pair ∈ pairs, pair.1 ∈ baseTemplates) (nodup : (pairs.map (·.1)).Nodup)
    (empty : ∀ pair ∈ pairs, isMade pair.1 ↔
      before.node? (before.destination (join root pair.1.destination)) = none)
    (run : execute (pairs.mapM (copyFile root)) before = (.ok results, after)) :
    Copies root isMade pairs results before after := by
  induction pairs generalizing before results with
  | nil =>
    obtain ⟨rfl, rfl⟩ : [] = results ∧ before = after := by simpa using run
    exact ⟨rfl, by simp, fun _ _ => rfl⟩
  | cons pair rest ih =>
    obtain ⟨result, others, middle, own, later, rfl⟩ := execute_mapM_cons_eq_ok.1 run
    obtain ⟨outcome, written, rfl⟩ := execute_copyFile_eq_ok own
    obtain ⟨baseFirst, baseRest⟩ := List.forall_mem_cons.1 base
    obtain ⟨emptyFirst, emptyRest⟩ := List.forall_mem_cons.1 empty
    obtain ⟨fresh, nodupRest⟩ := List.nodup_cons.1 nodup
    have touched := (respects_writeFile_skip _ _).of_execute written
    have apart (other : TemplateFile × String) (member : other ∈ rest) : pair.1 ≠ other.1 :=
      fun same => fresh (List.mem_map.2 ⟨other, member, same.symm⟩)
    have laterEmpty : ∀ other ∈ rest, isMade other.1 ↔
        middle.node? (middle.destination (join root other.1.destination)) = none := by
      intro other member
      have isBase := baseRest other member
      rw [emptyRest other member, touched.grows.destination,
        touched.node?_eq direct (isInside_of_mem_baseTemplates _ isBase)
          (further_of_mem_baseTemplates isBase) (isInside_of_mem_baseTemplates _ baseFirst)
          (not_isAbove_of_mem_baseTemplates _ isBase _ baseFirst (apart other member).symm)]
    have made : outcome = .written ↔ isMade pair.1 := by
      rw [written_iff (isInside_of_mem_baseTemplates _ baseFirst)
        (further_of_mem_baseTemplates baseFirst) tree written, emptyFirst]
      exact or_iff_right fun detour => detour direct
    refine Copies.cons written made
      (fun other member => destination_baseTemplate_ne baseFirst (baseRest other member)
        (apart other member) before root) ?_
    exact ih ((keepsTree_writeFile_skip _ _).of_execute written tree)
      (direct.grows touched.grows) baseRest nodupRest laterEmpty later

/-- Careful writes of the frame make the files that seem to be missing. -/
theorem copies_of_frame (tree : before.IsTree) (files : pairs.map (·.1) = baseTemplates)
    (run : execute (pairs.mapM (copyFile root)) before = (.ok results, after)) :
    Copies root (SeemsMissing root before) pairs results before after := by
  have base (pair : TemplateFile × String) (member : pair ∈ pairs) : pair.1 ∈ baseTemplates :=
    files ▸ List.mem_map_of_mem member
  have nodup : (pairs.map (·.1)).Nodup := files ▸ by decide
  cases pairs with
  | nil => simp [baseTemplates] at files
  | cons pair rest =>
    obtain ⟨file, text⟩ := pair
    obtain rfl : file = serverTemplate := (List.cons_eq_cons.1 files).1
    obtain ⟨result, others, middle, own, later, rfl⟩ := execute_mapM_cons_eq_ok.1 run
    obtain ⟨outcome, written, rfl⟩ := execute_copyFile_eq_ok own
    obtain ⟨first, baseRest⟩ := List.forall_mem_cons.1 base
    obtain ⟨fresh, nodupRest⟩ := List.nodup_cons.1 nodup
    have touched := (respects_writeFile_skip _ _).of_execute written
    -- The first write leaves no detour for the others.
    obtain ⟨treeLater, direct⟩ := direct_of_writeFile (isInside_of_mem_baseTemplates _ first)
      (further_of_mem_baseTemplates first) tree written
    have apart (other : TemplateFile × String) (member : other ∈ rest) :
        other.1 ≠ serverTemplate :=
      fun same => fresh (List.mem_map.2 ⟨other, member, same⟩)
    refine Copies.cons written (written_iff_seemsMissing tree written)
      (fun other member => destination_baseTemplate_ne first (baseRest other member)
        (apart other member).symm before root) ?_
    refine copies_of_direct treeLater direct baseRest nodupRest (fun other member => ?_) later
    rw [touched.grows.destination]
    exact seemsMissing_iff_of_touched touched direct (baseRest other member) (apart other member)

end Copies

theorem ofResults_map {α : Type} (p : α → Prop) [DecidablePred p] (path : α → String)
    (list : List α) :
    Outcome.ofResults (list.map fun a => (path a, if p a then .written else .skipped)) =
      ⟨(list.filter fun a => p a).map path, (list.filter fun a => ¬ p a).map path⟩ := by
  induction list with
  | nil => rfl
  | cons a rest ih =>
    simp only [Outcome.ofResults, Outcome.mk.injEq] at ih ⊢
    by_cases holds : p a <;> simp [holds, ih]

/-! ## Runs of a single kind -/

/-- What a run for the frame leaves and reports. -/
structure IsFramed (config : Config) (before after : Disk) (summary : Summary) : Prop where
  /-- The files that are written are those that seemed to be missing, in order. -/
  written : summary.written = (baseTemplates.filter fun file =>
    SeemsMissing config.projectRoot before file).map (join config.projectRoot ·.destination)
  /-- All others are skipped, in order. -/
  skipped : summary.skipped = (baseTemplates.filter fun file =>
    ¬ SeemsMissing config.projectRoot before file).map (join config.projectRoot ·.destination)
  /-- What is written is the text of the template, as it is. -/
  made : ∀ file ∈ baseTemplates, SeemsMissing config.projectRoot before file →
    ∃ text, textAt before (join config.baseTemplatesPath file.template) = .ok text ∧
      after.file? (before.destination (join config.projectRoot file.destination)) =
        some text.toUTF8
  /-- No other file is changed. -/
  kept : ∀ place, (∀ file ∈ baseTemplates, SeemsMissing config.projectRoot before file →
    place ≠ before.destination (join config.projectRoot file.destination)) →
      after.file? place = before.file? place
  /-- Files that are skipped are not changed. -/
  untouched : ∀ file ∈ baseTemplates, ¬ SeemsMissing config.projectRoot before file →
    after.file? (before.destination (join config.projectRoot file.destination)) =
      before.file? (before.destination (join config.projectRoot file.destination))
  /-- Where the project is reached without detours, files seem to be missing that are. -/
  seen : before.Direct config.projectRoot → ∀ file ∈ baseTemplates,
    (SeemsMissing config.projectRoot before file ↔
      before.node? (before.destination (join config.projectRoot file.destination)) = none)

/-- A run for the frame that succeeds makes the files that seem to be missing. -/
theorem isFramed_of_generateBase {config : Config} {before after : Disk} {summary : Summary}
    (tree : before.IsTree) (run : execute (generateBase config) before = (.ok summary, after)) :
    IsFramed config before after summary := by
  obtain ⟨loaded, results, files, given, copied, written, skipped⟩ := exists_execute_copyFile run
  have copies := copies_of_frame tree files copied
  have sorted := ofResults_map (SeemsMissing config.projectRoot before)
    (join config.projectRoot ·.destination) baseTemplates
  have listed : results = baseTemplates.map fun file => (join config.projectRoot file.destination,
      if SeemsMissing config.projectRoot before file then .written else .skipped) := by
    rw [copies.results, ← files, List.map_map, files]
    rfl
  rw [← listed] at sorted
  have pairOf {file : TemplateFile} (member : file ∈ baseTemplates) :
      ∃ pair ∈ baseTemplates.zip loaded, pair.1 = file :=
    List.mem_map.1 (files.symm ▸ member)
  have kept (place : Location) (off : ∀ file ∈ baseTemplates,
      SeemsMissing config.projectRoot before file →
        place ≠ before.destination (join config.projectRoot file.destination)) :
      after.file? place = before.file? place :=
    copies.kept place fun pair member => off pair.1
      (List.of_mem_zip (a := pair.1) (b := pair.2) member).1
  refine ⟨by rw [written, sorted], by rw [skipped, sorted], fun file member missing => ?_, kept,
    fun file member present => kept _ fun other otherMember missing => ?_,
    fun direct file member => seemsMissing_iff direct member⟩
  · obtain ⟨pair, isPair, rfl⟩ := pairOf member
    exact ⟨pair.2, given pair isPair, copies.made pair isPair missing⟩
  · refine destination_baseTemplate_ne member otherMember ?_ before config.projectRoot
    rintro rfl
    exact present missing

/-- Runs of a single kind do all or nothing. One for the collection of requests changes at most the
collection, and no file if it fails. One for the frame of a project fails before it writes if the
directory of its templates is not there or one of them cannot be loaded, the first of which is the
cause, and it fails otherwise only because of a write. If it succeeds, it makes the files that seem
to be missing from their templates as they are, reports all files in order, and changes no other
ones. Files that seem to be missing are missing if the root is reached without detours. -/
theorem standalone_runs_all_or_nothing (config : Config) (sqlPath : Option String) (disk : Disk) :
    (∀ cause after, execute (generatePostman config sqlPath) disk = (.error cause, after) →
        SameFiles disk after) ∧
      (∀ summary after, execute (generatePostman config sqlPath) disk = (.ok summary, after) →
        ChangesOnly config.projectRoot [postmanPath] disk after) ∧
      (disk.isDirectory config.baseTemplatesPath = false →
        execute (generateBase config) disk =
          (.error (.templatesNotFound config.baseTemplatesPath), disk)) ∧
      (disk.isDirectory config.baseTemplatesPath = true →
        ∀ cause, baseTemplates.findSome? (templateFault? disk config.baseTemplatesPath) =
          some cause → execute (generateBase config) disk = (.error cause, disk)) ∧
      (∀ file cause, templateFault? disk config.baseTemplatesPath file = some cause ↔
        disk.isFile (join config.baseTemplatesPath file.template) = false ∧
            cause = .templateMissing (join config.baseTemplatesPath file.template) ∨
          disk.isFile (join config.baseTemplatesPath file.template) = true ∧
            ∃ fault, cause = .disk fault ∧
              textAt disk (join config.baseTemplatesPath file.template) = .error (.disk fault)) ∧
      (disk.isDirectory config.baseTemplatesPath = true →
        baseTemplates.findSome? (templateFault? disk config.baseTemplatesPath) = none →
          ∀ cause after, execute (generateBase config) disk = (.error cause, after) →
            IsWriteFault cause) ∧
      ∀ summary after, disk.IsTree → execute (generateBase config) disk = (.ok summary, after) →
        IsFramed config disk after summary :=
  ⟨fun _ _ run => sameFiles_of_generatePostman run,
    fun _ _ run => (changesOnly_generatePostman config sqlPath).of_execute run,
    execute_generateBase_of_missing,
    fun found _ fault => execute_generateBase_of_fault found fault,
    fun _ _ => templateFault?_eq_some,
    fun found sound _ _ run => isWriteFault_of_generateBase found sound run,
    fun _ _ tree run => isFramed_of_generateBase tree run⟩

/-- The frame of a project with templates of its own. -/
def frameConfig (root : String) : Config where
  projectRoot := root
  baseTemplatesDir := "/tpl"

/-- A working directory that is given a frame keeps its server. -/
theorem server_skipped : serverDisk.IsTree ∧ serverDisk.Direct "." ∧
    ∃ summary after, execute (generateBase (frameConfig ".")) serverDisk = (.ok summary, after) ∧
      IsFramed (frameConfig ".") serverDisk after summary ∧ summary.skipped = ["./server.js"] := by
  have tree : serverDisk.IsTree := by decide
  have member : "." ∈ frameRoots := List.mem_cons_self
  obtain ⟨summary, after, run⟩ := exists_execute_frame (frameConfig ".") member rfl
  obtain ⟨-, -, -, -, -, -, framed⟩ :=
    standalone_runs_all_or_nothing (frameConfig ".") none serverDisk
  refine ⟨tree, by decide, summary, after, run, framed summary after tree run, ?_⟩
  rw [(framed summary after tree run).skipped]
  decide +kernel

/-- Behind a detour the server was there, and yet the run replaces it and reports it as written. -/
theorem server_replaced : serverDisk.IsTree ∧
    serverDisk.destination (join "new/.." serverTemplate.destination) = ["server.js"] ∧
    serverDisk.file? ["server.js"] = some "mine".toUTF8 ∧
    ∃ summary after,
      execute (generateBase (frameConfig "new/..")) serverDisk = (.ok summary, after) ∧
      join "new/.." serverTemplate.destination ∈ summary.written ∧
      after.file? ["server.js"] ≠ some "mine".toUTF8 := by
  have tree : serverDisk.IsTree := by decide
  have member : "new/.." ∈ frameRoots := by simp [frameRoots]
  obtain ⟨summary, after, run⟩ := exists_execute_frame (frameConfig "new/..") member rfl
  have framed := isFramed_of_generateBase tree run
  have missing : SeemsMissing (frameConfig "new/..").projectRoot serverDisk serverTemplate :=
    .inl ⟨rfl, by decide⟩
  refine ⟨tree, by decide, rfl, summary, after, run, ?_, ?_⟩
  · rw [framed.written]
    exact List.mem_map_of_mem
      (List.mem_filter.2 ⟨List.mem_cons_self, decide_eq_true missing⟩)
  · obtain ⟨text, given, there⟩ := framed.made serverTemplate List.mem_cons_self missing
    have theirs : textAt serverDisk (join (frameConfig "new/..").baseTemplatesPath
        serverTemplate.template) = .ok "theirs" := textAt_of_read (by rfl)
    obtain rfl := Except.ok.inj (theirs.symm.trans given)
    have here : serverDisk.destination
        (join (frameConfig "new/..").projectRoot serverTemplate.destination) = ["server.js"] := by
      decide
    rw [← here, there]
    decide

end Project
end SchemaScaffold
