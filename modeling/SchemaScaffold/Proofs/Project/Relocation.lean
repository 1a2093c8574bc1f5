import Mathlib.Data.List.Forall2
import SchemaScaffold.Proofs.Disk.Twins
import SchemaScaffold.Proofs.Project.Production

/-!
# Relocation of runs

A full run writes into twin directories alike. Two runs that differ in their roots alone are run
side by side: each part of them succeeds in both or in neither, answers with the same paths below
the two roots, and leaves twin directories behind. The templates, which lie outside of both, are
read as they were before.
-/

namespace SchemaScaffold
namespace Project

open Disk (SameInside Twins)
open Disk.Path (Fits IsEntry join names)

/-- The system allows the paths of all outputs in a directory, unless one of their names is too long
anyway. -/
def HasRoom (root : String) (schema : Schema) : Prop :=
  ∀ path ∈ outputs schema, (∀ name ∈ names path, name.utf8ByteSize ≤ Disk.maxNameSize) →
    (join root path).utf8ByteSize < Disk.maxPathSize

theorem isEntry_of_mem_fixedPaths : ∀ path ∈ fixedPaths, IsEntry path := by
  have ends : ∀ path ∈ fixedPaths, Disk.Path.endsWithSlash path = false ∧
      '\x00' ∉ path.toList := by decide +kernel
  intro path fixed
  obtain ⟨inside, further⟩ := isInside_of_mem_fixedPaths path fixed
  exact ⟨inside, further, (ends path fixed).1, (ends path fixed).2⟩

/-- A path fits a directory in which the longest fixed path is allowed, if the system allows it
there and what is in front of its last name is no longer than that path. -/
theorem fits_of_room {root path : String} (entry : IsEntry path) (nonempty : root ≠ "")
    (room : (join root "").utf8ByteSize + postmanPath.utf8ByteSize < Disk.maxPathSize)
    (size : path.utf8ByteSize ≤ ((names path).getLast entry.further).utf8ByteSize + 1 +
      postmanPath.utf8ByteSize)
    (whole : (∀ name ∈ names path, name.utf8ByteSize ≤ Disk.maxNameSize) →
      (join root path).utf8ByteSize < Disk.maxPathSize) : Fits root path := by
  refine ⟨whole, fun parent found => ?_⟩
  obtain ⟨other, same, -, -, -, text⟩ :=
    entry.exists_parent_join entry.further entry.noSlash nonempty
  obtain rfl : other = parent := Option.some.inj (same.symm.trans found)
  rcases text with rfl | ⟨behind, text, last⟩
  · decide
  · have characters := congrArg (fun chars => (String.ofList chars).utf8ByteSize) text
    simp only [String.ofList_append, String.ofList_toList, String.utf8ByteSize_append,
      Disk.Path.utf8ByteSize_join entry.relative] at characters
    omega

section Outputs

variable {schema : Schema} (named : ∀ table ∈ schema.tables, IsNamed table) {path : String}
  (output : path ∈ outputs schema)

include named output

theorem isEntry_of_mem_outputs : IsEntry path := by
  rcases List.mem_append.1 output with own | shared
  · obtain ⟨inside, further⟩ := isInside_of_mem_outputs named output
    obtain ⟨table, member, made⟩ := List.mem_flatMap.1 own
    obtain ⟨file, isTemplate, rfl⟩ := List.mem_map.1 made
    obtain ⟨place, pair⟩ := exists_place isTemplate
    have known : ∀ place ∈ tablePlaces, '\x00' ∉ place.folder.toList ∧
        '\x00' ∉ place.ending.toList := by decide
    obtain ⟨folder, ending⟩ := known place (List.of_mem_zip pair).2
    have word := (isNameText_word (named table member) pair).not_mem (c := '\x00') (by decide)
    have text := tablePath_eq (named table member) pair
    refine ⟨inside, further, ?_, ?_⟩
    · have last := (ending_of_mem_zip pair).2.2
      simp [text, Disk.Path.endsWithSlash, TablePlace.name, List.getLast?_append,
        List.getLast?_cons, last]
    · simp [text, TablePlace.name, folder, ending, word]
  · exact isEntry_of_mem_fixedPaths path (List.mem_append_left _ shared)

/-- What is in front of the last name of an output is no longer than the longest shared path. -/
theorem utf8ByteSize_output (further : names path ≠ []) :
    path.utf8ByteSize ≤ ((names path).getLast further).utf8ByteSize + 1 +
      postmanPath.utf8ByteSize := by
  rcases List.mem_append.1 output with own | shared
  · obtain ⟨table, member, made⟩ := List.mem_flatMap.1 own
    obtain ⟨file, isTemplate, rfl⟩ := List.mem_map.1 made
    obtain ⟨place, pair⟩ := exists_place isTemplate
    have folders : ∀ place ∈ tablePlaces,
        (place.folder ++ "/").utf8ByteSize ≤ 1 + postmanPath.utf8ByteSize := by decide
    have text : tablePath table file = place.folder ++ "/" ++ place.name table := by
      rw [tablePath_eq (named table member) pair]
      exact String.toList_injective (by simp)
    have last : (names (tablePath table file)).getLast further = place.name table := by
      simp [names_tablePath (named table member) pair]
    rw [last, text, String.utf8ByteSize_append]
    have folder := folders place (List.of_mem_zip pair).2
    omega
  · have sizes : ∀ path ∈ sharedPaths, path.utf8ByteSize ≤ postmanPath.utf8ByteSize := by decide
    have size := sizes path shared
    omega

omit output in
/-- A root with a path that is as short as a name has room for the outputs of every schema. -/
theorem hasRoom_of_short {root : String}
    (short : (join root "").utf8ByteSize ≤ Disk.maxNameSize) : HasRoom root schema := by
  intro path output shortNames
  have entry := isEntry_of_mem_outputs named output
  have size := utf8ByteSize_output named output entry.further
  have last := shortNames _ (List.getLast_mem entry.further)
  have longest : 2 * Disk.maxNameSize + 1 + postmanPath.utf8ByteSize < Disk.maxPathSize := by decide
  rw [Disk.Path.utf8ByteSize_join entry.relative]
  omega

/-- A directory with room for the outputs fits each of them. -/
theorem HasRoom.fits {root : String} (room : HasRoom root schema) (nonempty : root ≠ "") :
    Fits root path := by
  have entry := isEntry_of_mem_outputs named output
  have shared : postmanPath ∈ sharedPaths := by simp [sharedPaths]
  have shortNames : ∀ name ∈ names postmanPath, name.utf8ByteSize ≤ Disk.maxNameSize := by
    decide
  have fits := room postmanPath (List.mem_append_right _ shared) shortNames
  rw [Disk.Path.utf8ByteSize_join
    (isEntry_of_mem_fixedPaths _ (List.mem_append_left _ shared)).relative] at fits
  exact fits_of_room entry nonempty fits (utf8ByteSize_output named output entry.further)
    (room path output)

end Outputs

/-- Two programs both answer, and their answers are related, or both fail. -/
def Agree {α β : Type} (answers : α → β → Prop) : Except Failure α → Except Failure β → Prop
  | .ok a, .ok b => answers a b
  | .error _, .error _ => True
  | _, _ => False

theorem Agree.imp {α β : Type} {answers others : α → β → Prop}
    (weaker : ∀ a b, answers a b → others a b) {one : Except Failure α} {other : Except Failure β}
    (agree : Agree answers one other) : Agree others one other := by
  cases one <;> cases other
  · trivial
  · exact agree
  · exact agree
  · exact weaker _ _ agree

/-- Two programs that are run side by side on related disks agree and leave related disks. -/
def Parallel {α β : Type} (related : Disk → Disk → Prop) (answers : α → β → Prop)
    (left : Run (StateM Disk) α) (right : Run (StateM Disk) β) : Prop :=
  ∀ first second, related first second →
    Agree answers (execute left first).1 (execute right second).1 ∧
      related (execute left first).2 (execute right second).2

namespace Parallel

variable {α β γ δ : Type} {related : Disk → Disk → Prop} {answers : α → β → Prop}
  {results : γ → δ → Prop}

theorem pure {a : α} {b : β} (agree : answers a b) :
    Parallel related answers (Pure.pure a) (Pure.pure b) :=
  fun _ _ start => ⟨agree, start⟩

theorem throw (cause otherCause : Failure) :
    Parallel related answers (MonadExcept.throw cause) (MonadExcept.throw otherCause) :=
  fun _ _ start => ⟨trivial, start⟩

theorem bind {left : Run (StateM Disk) α} {right : Run (StateM Disk) β}
    {next : α → Run (StateM Disk) γ} {otherNext : β → Run (StateM Disk) δ}
    (begins : Parallel related answers left right)
    (goesOn : ∀ a b, answers a b → Parallel related results (next a) (otherNext b)) :
    Parallel related results (left >>= next) (right >>= otherNext) := by
  intro first second start
  have step := begins first second start
  rw [execute_bind, execute_bind]
  cases leftRun : execute left first with
  | mk answer middle =>
    cases rightRun : execute right second with
    | mk otherAnswer otherMiddle =>
      rw [leftRun, rightRun] at step
      cases answer <;> cases otherAnswer
      · exact ⟨trivial, step.2⟩
      · exact absurd step.1 id
      · exact absurd step.1 id
      · exact goesOn _ _ step.1 middle otherMiddle step.2

theorem mapM {ε : Type} {program : ε → Run (StateM Disk) α} {otherProgram : ε → Run (StateM Disk) β}
    {list : List ε} (each : ∀ e ∈ list, Parallel related answers (program e) (otherProgram e)) :
    Parallel related (List.Forall₂ answers) (list.mapM program) (list.mapM otherProgram) := by
  induction list with
  | nil => exact pure .nil
  | cons e list ih =>
    obtain ⟨first, others⟩ := List.forall_mem_cons.1 each
    rw [List.mapM_cons, List.mapM_cons]
    refine bind first fun a b agree => bind (ih others) fun as bs agreeing => ?_
    exact pure (.cons agree agreeing)

/-- The same program that only reads, and reads the same on both disks. -/
theorem of_readsOnly {program : Run (StateM Disk) α} (reads : ReadsOnly program)
    (same : ∀ first second, related first second →
      (execute program first).1 = (execute program second).1) :
    Parallel related (· = ·) program program := by
  intro first second start
  rw [same first second start, ← reads first, ← reads second]
  refine ⟨?_, start⟩
  cases (execute program second).1 with
  | error cause => trivial
  | ok a => exact rfl

end Parallel

/-! ## Disks side by side -/

/-- Two disks on which a run has worked side by side, in directories that are twins. Both come from
one disk, from which they differ in the outputs only. -/
structure Relocated (start : Disk) (schema : Schema) (left right : String)
    (first second : Disk) : Prop where
  twins : Twins left right first second
  leftChanges : ChangesOnly left (outputs schema) start first
  rightChanges : ChangesOnly right (outputs schema) start second

/-- Disks side by side on which both roots are there. -/
structure Settled (start : Disk) (schema : Schema) (left right : String)
    (first second : Disk) : Prop where
  relocated : Relocated start schema left right first second
  leftMade : first.IsMade left
  rightMade : second.IsMade right

section Steps

variable {start : Disk} {schema : Schema} {left right : String}
  (named : ∀ table ∈ schema.tables, IsNamed table)

section Reading

variable {directory : String} (directoryThere : start.isDirectory directory = true)
  {file : TemplateFile} (isTemplate : file ∈ tableTemplates ++ [poolTemplate])
  (templateThere : start.isFile (join directory file.template) = true)

include directoryThere in
theorem parallel_requireTemplates :
    Parallel (Relocated start schema left right) (· = ·) (requireTemplates directory)
      (requireTemplates directory) := by
  refine Parallel.of_readsOnly (readsOnly_requireTemplates directory) fun first second both => ?_
  rw [execute_requireTemplates, execute_requireTemplates,
    if_pos (both.leftChanges.1.isDirectory directoryThere),
    if_pos (both.rightChanges.1.isDirectory directoryThere)]

include named isTemplate templateThere in
/-- A template is read as it was before the run. -/
theorem parallel_loadTemplate :
    Parallel (Relocated start schema left right) (· = ·) (loadTemplate directory file.template)
      (loadTemplate directory file.template) := by
  refine Parallel.of_readsOnly (readsOnly_loadTemplate directory file.template)
    fun first second both => ?_
  have loads {root : String} {disk : Disk}
      (changes : ChangesOnly root (outputs schema) start disk) :
      (execute (loadTemplate directory file.template) disk).1 =
        textAt start (join directory file.template) := by
    have there := changes.1.isFile templateThere
    have same := changes.textAt_eq templateThere fun path output =>
      destination_template_ne named output isTemplate start root directory
    rw [loadTemplate, execute_bind, execute_requireTemplate, if_pos there]
    simp only [execute_readText, same]
  rw [loads both.leftChanges, loads both.rightChanges]

end Reading

section Writing

variable (leftRoom : HasRoom left schema) (rightRoom : HasRoom right schema)
  {path : String} (output : path ∈ outputs schema)

/-- A path below the left root and the same path below the right one. -/
def SamePath (schema : Schema) (left right path otherPath : String) : Prop :=
  ∃ output ∈ outputs schema, path = join left output ∧ otherPath = join right output

/-- A file below the left root and the same file below the right one, and what became of both. -/
def SameFile (schema : Schema) (left right : String)
    (file otherFile : String × WriteResult) : Prop :=
  SamePath schema left right file.1 otherFile.1 ∧ file.2 = otherFile.2

include named output leftRoom rightRoom

/-- Both roots fit an output on which a run works side by side. -/
theorem Relocated.fits {first second : Disk}
    (both : Relocated start schema left right first second) : Fits left path ∧ Fits right path :=
  ⟨leftRoom.fits named output both.twins.leftReady.root_ne_empty,
    rightRoom.fits named output both.twins.rightReady.root_ne_empty⟩

/-- Both disks see the same at an output. -/
theorem Relocated.view_eq {first second : Disk}
    (both : Relocated start schema left right first second) :
    (first.view (join left path)).join = (second.view (join right path)).join :=
  have fits := both.fits named leftRoom rightRoom output
  both.twins.view_join (isEntry_of_mem_outputs named output) fits.1 fits.2

omit named leftRoom rightRoom in
/-- Writes to an output leave disks that are side by side if they leave twins. -/
theorem Relocated.write {first second leftAfter rightAfter : Disk} {text : String}
    (both : Relocated start schema left right first second)
    (leftTouched : Touched (join left path) text first leftAfter)
    (rightTouched : Touched (join right path) text second rightAfter)
    (twins : Twins left right leftAfter rightAfter) :
    Relocated start schema left right leftAfter rightAfter where
  twins := twins
  leftChanges := (chains_changesOnly _ _).trans both.leftChanges (leftTouched.changesOnly output)
  rightChanges :=
    (chains_changesOnly _ _).trans both.rightChanges (rightTouched.changesOnly output)

omit leftRoom rightRoom in
/-- What a text that is overwritten in roots that are there leaves behind. -/
theorem parallel_overwrite (leftRoom : HasRoom left schema) (rightRoom : HasRoom right schema)
    (text : String) :
    Parallel (Settled start schema left right) (· = ·) (overwrite (join left path) text)
      (overwrite (join right path) text) := by
  intro first second settled
  have both := settled.relocated
  have fits := both.fits named leftRoom rightRoom output
  have leftTouched := respects_overwrite (join left path) text first
  have rightTouched := respects_overwrite (join right path) text second
  suffices side : Agree (· = ·) (execute (overwrite (join left path) text) first).1
        (execute (overwrite (join right path) text) second).1 ∧
      Twins left right (execute (overwrite (join left path) text) first).2
        (execute (overwrite (join right path) text) second).2 from
    ⟨side.1, both.write output leftTouched rightTouched side.2,
      settled.leftMade.grows leftTouched.grows, settled.rightMade.grows rightTouched.grows⟩
  rw [execute_overwrite, execute_overwrite]
  rcases both.twins.write settled.leftMade settled.rightMade (isEntry_of_mem_outputs named output)
    fits.1 fits.2 text with ⟨_, _, leftWritten, rightWritten, twins⟩ | ⟨_, _, leftFails, rightFails⟩
  · rw [leftWritten, rightWritten]
    exact ⟨rfl, twins⟩
  · rw [leftFails, rightFails]
    exact ⟨trivial, both.twins⟩

/-- Making the directories around an output has the same success in both roots, and both are there
then. -/
theorem createParent_of_relocated {first second : Disk}
    (both : Relocated start schema left right first second) :
    Agree (fun _ _ => True) (execute (createParent (join left path)) first).1
        (execute (createParent (join right path)) second).1 ∧
      Settled start schema left right (execute (createParent (join left path)) first).2
        (execute (createParent (join right path)) second).2 := by
  have fits := both.fits named leftRoom rightRoom output
  obtain ⟨leftParent, rightParent, leftFound, leftNonempty, rightFound, rightNonempty, agree, twins,
    leftMade, rightMade⟩ :=
    both.twins.createDirectories (isEntry_of_mem_outputs named output) fits.1 fits.2
  have leftTouched : Touched (join left path) "" first
      (execute (createParent (join left path)) first).2 :=
    ⟨_, execute_createParent_furnished _ first, .inl rfl⟩
  have rightTouched : Touched (join right path) "" second
      (execute (createParent (join right path)) second).2 :=
    ⟨_, execute_createParent_furnished _ second, .inl rfl⟩
  rw [execute_createParent_some leftFound leftNonempty] at leftTouched ⊢
  rw [execute_createParent_some rightFound rightNonempty] at rightTouched ⊢
  have outcomes {one other : Except Disk.Fault Unit} (same : one.isOk = other.isOk) :
      Agree (fun _ _ => True) (one.mapError Failure.disk) (other.mapError Failure.disk) := by
    cases one <;> cases other <;> simp_all [Agree, Except.isOk, Except.toBool]
  exact ⟨outcomes agree, both.write output leftTouched rightTouched twins, leftMade, rightMade⟩

theorem parallel_put (text : String) :
    Parallel (Relocated start schema left right) (· = ·) (put (join left path) text)
      (put (join right path) text) := by
  intro first second both
  obtain ⟨agree, settled⟩ := createParent_of_relocated named leftRoom rightRoom output both
  have written : Parallel (Settled start schema left right) (· = ·)
      (overwrite (join left path) text >>= fun _ => pure WriteResult.written)
      (overwrite (join right path) text >>= fun _ => pure WriteResult.written) :=
    Parallel.bind (parallel_overwrite named output leftRoom rightRoom text) fun _ _ _ =>
      Parallel.pure rfl
  unfold put
  rw [execute_bind, execute_bind]
  cases leftRun : execute (createParent (join left path)) first with
  | mk answer middle =>
    cases rightRun : execute (createParent (join right path)) second with
    | mk otherAnswer otherMiddle =>
      rw [leftRun, rightRun] at agree settled
      cases answer <;> cases otherAnswer
      · exact ⟨trivial, settled.relocated⟩
      · exact absurd agree id
      · exact absurd agree id
      · have last := written middle otherMiddle settled
        exact ⟨last.1, last.2.relocated⟩

theorem parallel_writeFile_skip (text : String) :
    Parallel (Relocated start schema left right) (· = ·)
      (writeFile (join left path) text .skip) (writeFile (join right path) text .skip) := by
  intro first second both
  have entry := isEntry_of_mem_outputs named output
  have seen := both.view_eq named leftRoom rightRoom output
  have equally : first.hasEntry (join left path) = second.hasEntry (join right path) := by
    rw [Bool.eq_iff_iff, Disk.hasEntry, Disk.hasEntry, Bool.or_eq_true, Bool.or_eq_true,
      Disk.isFile_iff_view (Disk.endsWithSlash_join entry left), Disk.isDirectory_iff_view,
      Disk.isFile_iff_view (Disk.endsWithSlash_join entry right), Disk.isDirectory_iff_view, seen]
  rw [execute_writeFile_skip, execute_writeFile_skip, equally]
  split
  · exact ⟨rfl, both⟩
  · exact parallel_put named leftRoom rightRoom output text first second both

theorem parallel_writeFile_overwrite (text : String) :
    Parallel (Relocated start schema left right) (· = ·)
      (writeFile (join left path) text .overwrite)
      (writeFile (join right path) text .overwrite) := by
  intro first second both
  rw [execute_writeFile_overwrite, execute_writeFile_overwrite]
  exact parallel_put named leftRoom rightRoom output text first second both

/-- An output is read alike: both are files or neither is, and their texts are the same. -/
theorem Relocated.textAt_eq {first second : Disk}
    (both : Relocated start schema left right first second) :
    first.isFile (join left path) = second.isFile (join right path) ∧
      Agree (· = ·) (textAt first (join left path)) (textAt second (join right path)) := by
  have entry := isEntry_of_mem_outputs named output
  have leftSlash := Disk.endsWithSlash_join entry left
  have rightSlash := Disk.endsWithSlash_join entry right
  have seen := both.view_eq named leftRoom rightRoom output
  constructor
  · rw [Bool.eq_iff_iff, Disk.isFile_iff_view leftSlash, Disk.isFile_iff_view rightSlash, seen]
  · have reads (content : ByteArray) : first.read (join left path) = .ok content ↔
        second.read (join right path) = .ok content := by
      rw [Disk.read_eq_ok_iff_view leftSlash, Disk.read_eq_ok_iff_view rightSlash, seen]
    unfold textAt
    cases leftRead : first.read (join left path) with
    | ok content =>
      rw [(reads content).1 leftRead]
      dsimp only
      cases String.fromUTF8? content with
      | none => exact trivial
      | some text => exact rfl
    | error fault =>
      cases rightRead : second.read (join right path) with
      | ok content =>
        rw [(reads content).2 rightRead] at leftRead
        simp at leftRead
      | error otherFault => exact trivial

omit output in
/-- A table is registered in both indexes or in neither. -/
theorem parallel_updateRoutes (table : String) :
    Parallel (Relocated start schema left right) (· = ·)
      (updateRoutes (join left routesIndex) table)
      (updateRoutes (join right routesIndex) table) := by
  have output : routesIndex ∈ outputs schema := List.mem_append_right _ (by simp [sharedPaths])
  intro first second both
  have entry := isEntry_of_mem_outputs named output
  obtain ⟨isFile, texts⟩ := both.textAt_eq named leftRoom rightRoom output
  rw [execute_updateRoutes, execute_updateRoutes, isFile]
  split
  · next found =>
    obtain ⟨_, leftCreated, -⟩ := both.twins.leftReady.exists_made
    obtain ⟨_, rightCreated, -⟩ := both.twins.rightReady.exists_made
    have settled : Settled start schema left right first second :=
      ⟨both, Disk.isMade_of_isFile leftCreated entry (isFile.trans found),
        Disk.isMade_of_isFile rightCreated entry found⟩
    cases leftText : textAt first (join left routesIndex) <;>
      cases rightText : textAt second (join right routesIndex) <;>
      rw [leftText, rightText] at texts
    · exact ⟨trivial, both⟩
    · exact absurd texts id
    · exact absurd texts id
    · next content other =>
      obtain rfl : content = other := texts
      dsimp only
      split
      · exact ⟨rfl, both⟩
      · have written := parallel_overwrite named output leftRoom rightRoom
          (RoutesIndex.patch content table) first second settled
        rw [execute_overwrite, execute_overwrite] at written
        cases leftWritten : first.write (join left routesIndex)
            (RoutesIndex.patch content table) <;>
          cases rightWritten : second.write (join right routesIndex)
            (RoutesIndex.patch content table) <;>
          rw [leftWritten, rightWritten] at written
        · exact ⟨trivial, both⟩
        · exact absurd written.1 id
        · exact absurd written.1 id
        · exact ⟨rfl, written.2.relocated⟩
  · exact ⟨rfl, both⟩

/-- A file is made from its template in both roots. -/
theorem parallel_makeFile {directory : String} {file : TemplateFile}
    (isTemplate : file ∈ tableTemplates ++ [poolTemplate])
    (templateThere : start.isFile (join directory file.template) = true)
    {tokens : List (String × String)}
    (destination : Template.render file.destination tokens = path) :
    Parallel (Relocated start schema left right) (SameFile schema left right)
      (makeFile left directory tokens file) (makeFile right directory tokens file) := by
  unfold makeFile
  rw [destination]
  refine Parallel.bind (parallel_loadTemplate named isTemplate templateThere) ?_
  rintro template _ rfl
  refine Parallel.bind (parallel_writeFile_skip named leftRoom rightRoom output _) ?_
  rintro result _ rfl
  exact Parallel.pure ⟨⟨path, output, rfl, rfl⟩, rfl⟩

omit output in
theorem parallel_writeDocument (document : path ∈ documentPaths) (text : String) :
    Parallel (Relocated start schema left right) (SameFile schema left right)
      (writeDocument left path text) (writeDocument right path text) := by
  have output : path ∈ outputs schema :=
    List.mem_append_right _ (mem_sharedPaths_of_document document)
  refine Parallel.bind (parallel_writeFile_overwrite named leftRoom rightRoom output text) ?_
  rintro result _ rfl
  exact Parallel.pure ⟨⟨path, output, rfl, rfl⟩, rfl⟩

end Writing

end Steps

end Project
end SchemaScaffold
