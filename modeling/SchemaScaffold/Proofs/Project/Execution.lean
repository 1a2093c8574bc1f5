import SchemaScaffold.Project.Files
import SchemaScaffold.Proofs.Disk.Change
import SchemaScaffold.Proofs.Text.Bytes

/-!
# Execution of programs

Programs run on a disk of their own: each run has an answer and leaves a disk behind. A run of a
sequence is taken apart into runs of its parts, and a relation between disks that every part
respects is respected by the whole.
-/

namespace SchemaScaffold
namespace Project

/-- Run a program on a disk. -/
def execute {α : Type} (program : Run (StateM Disk) α) (disk : Disk) :
    Except Failure α × Disk :=
  (program.run.run disk).run

variable {α β : Type}

/-- A run with an answer leaves some disk. -/
theorem exists_execute_eq {program : Run (StateM Disk) α} {disk : Disk}
    {answer : Except Failure α} (run : (execute program disk).1 = answer) :
    ∃ after, execute program disk = (answer, after) :=
  ⟨_, by rw [← run]⟩

@[simp] theorem execute_pure (a : α) (disk : Disk) :
    execute (pure a) disk = (.ok a, disk) := rfl

@[simp] theorem execute_throw (cause : Failure) (disk : Disk) :
    execute (throw cause : Run (StateM Disk) α) disk = (.error cause, disk) := rfl

/-- A sequence runs its first part and goes on with what that part answers. -/
theorem execute_bind (program : Run (StateM Disk) α) (next : α → Run (StateM Disk) β)
    (disk : Disk) :
    execute (program >>= next) disk =
      match execute program disk with
      | (.ok a, middle) => execute (next a) middle
      | (.error cause, middle) => (.error cause, middle) := by
  simp only [execute, ExceptT.run_bind, StateT.run_bind, Id.run_bind]
  rcases (program.run.run disk).run with ⟨answer | answer, middle⟩ <;> rfl

/-- A sequence has an answer exactly if both of its parts have one. -/
theorem execute_bind_eq_ok {program : Run (StateM Disk) α} {next : α → Run (StateM Disk) β}
    {disk after : Disk} {b : β} :
    execute (program >>= next) disk = (.ok b, after) ↔
      ∃ a middle, execute program disk = (.ok a, middle) ∧
        execute (next a) middle = (.ok b, after) := by
  rw [execute_bind]
  rcases execute program disk with ⟨cause | a, middle⟩
  · simp
  · simp only [Prod.mk.injEq, Except.ok.injEq]
    constructor
    · exact fun run => ⟨a, middle, ⟨rfl, rfl⟩, run⟩
    · rintro ⟨_, _, ⟨rfl, rfl⟩, run⟩
      exact run

/-- A sequence fails in its first part, or in its second part after an answer of the first. -/
theorem execute_bind_eq_error {program : Run (StateM Disk) α}
    {next : α → Run (StateM Disk) β} {disk after : Disk} {cause : Failure} :
    execute (program >>= next) disk = (.error cause, after) ↔
      execute program disk = (.error cause, after) ∨
        ∃ a middle, execute program disk = (.ok a, middle) ∧
          execute (next a) middle = (.error cause, after) := by
  rw [execute_bind]
  rcases execute program disk with ⟨cause' | a, middle⟩
  · simp
  · simp only [Prod.mk.injEq, Except.ok.injEq, reduceCtorEq, false_and, false_or]
    constructor
    · exact fun run => ⟨a, middle, ⟨rfl, rfl⟩, run⟩
    · rintro ⟨_, _, ⟨rfl, rfl⟩, run⟩
      exact run

theorem execute_mapM_nil (program : α → Run (StateM Disk) β) (disk : Disk) :
    execute ([].mapM program) disk = (.ok [], disk) := rfl

/-- A program that runs for each member of a list runs for the first and then for the others. -/
theorem execute_mapM_cons_eq_ok {program : α → Run (StateM Disk) β} {a : α} {rest : List α}
    {results : List β} {disk after : Disk} :
    execute ((a :: rest).mapM program) disk = (.ok results, after) ↔
      ∃ b others middle, execute (program a) disk = (.ok b, middle) ∧
        execute (rest.mapM program) middle = (.ok others, after) ∧ results = b :: others := by
  rw [List.mapM_cons, execute_bind_eq_ok]
  constructor
  · rintro ⟨b, middle, first, later⟩
    obtain ⟨others, last, second, done⟩ := execute_bind_eq_ok.1 later
    obtain ⟨shape, rfl⟩ : .ok (b :: others) = (.ok results : Except Failure _) ∧ last = after := by
      simpa using done
    exact ⟨b, others, middle, first, second, (Except.ok.inj shape).symm⟩
  · rintro ⟨b, others, middle, first, second, rfl⟩
    exact ⟨b, middle, first, execute_bind_eq_ok.2 ⟨others, after, second, rfl⟩⟩

/-- A program that runs for each member of a list gives one answer for each. -/
theorem length_of_execute_mapM {program : α → Run (StateM Disk) β} {list : List α}
    {results : List β} {disk after : Disk}
    (run : execute (list.mapM program) disk = (.ok results, after)) :
    results.length = list.length := by
  induction list generalizing disk results with
  | nil =>
    obtain rfl : [] = results := Except.ok.inj (Prod.mk.inj run).1
    rfl
  | cons a rest ih =>
    obtain ⟨b, others, middle, -, later, rfl⟩ := execute_mapM_cons_eq_ok.1 run
    rw [List.length_cons, List.length_cons, ih later]

/-- A program that runs for each member of two lists runs for one list and then for the other. -/
theorem execute_mapM_append_eq_ok {program : α → Run (StateM Disk) β} {front back : List α}
    {results : List β} {disk after : Disk} :
    execute ((front ++ back).mapM program) disk = (.ok results, after) ↔
      ∃ early late middle, execute (front.mapM program) disk = (.ok early, middle) ∧
        execute (back.mapM program) middle = (.ok late, after) ∧ results = early ++ late := by
  induction front generalizing disk results with
  | nil =>
    constructor
    · exact fun run => ⟨[], results, disk, rfl, run, rfl⟩
    · rintro ⟨_, _, _, ⟨rfl, rfl⟩, run, rfl⟩
      exact run
  | cons a rest ih =>
    rw [List.cons_append, execute_mapM_cons_eq_ok]
    constructor
    · rintro ⟨b, others, middle, first, later, rfl⟩
      obtain ⟨early, late, last, second, third, rfl⟩ := ih.1 later
      exact ⟨b :: early, late, last,
        execute_mapM_cons_eq_ok.2 ⟨b, early, middle, first, second, rfl⟩, third, rfl⟩
    · rintro ⟨early, late, last, both, third, rfl⟩
      obtain ⟨b, others, middle, first, second, rfl⟩ := execute_mapM_cons_eq_ok.1 both
      exact ⟨b, others ++ late, middle, first, ih.2 ⟨others, late, last, second, third, rfl⟩, rfl⟩

theorem execute_ite {condition : Prop} [Decidable condition]
    (first second : Run (StateM Disk) α) (disk : Disk) :
    execute (if condition then first else second) disk =
      if condition then execute first disk else execute second disk := by
  split <;> rfl

/-- Every run of a program leads from a disk to one that it is related to. -/
def Respects (related : Disk → Disk → Prop) (program : Run (StateM Disk) α) : Prop :=
  ∀ disk, related disk (execute program disk).2

/-- A relation that can be followed along the parts of a program. -/
structure Chains (related : Disk → Disk → Prop) : Prop where
  refl : ∀ disk, related disk disk
  trans : ∀ {before middle after}, related before middle → related middle after →
    related before after

theorem Chains.and {first second : Disk → Disk → Prop} (one : Chains first)
    (two : Chains second) :
    Chains fun before after => first before after ∧ second before after where
  refl disk := ⟨one.refl disk, two.refl disk⟩
  trans early late := ⟨one.trans early.1 late.1, two.trans early.2 late.2⟩

namespace Respects

variable {related : Disk → Disk → Prop}

theorem of_execute {program : Run (StateM Disk) α} (respects : Respects related program)
    {disk after : Disk} {answer : Except Failure α}
    (run : execute program disk = (answer, after)) : related disk after := by
  have step := respects disk
  rwa [run] at step

theorem pure (chains : Chains related) (a : α) : Respects related (Pure.pure a) :=
  fun disk => chains.refl disk

theorem bind (chains : Chains related) {program : Run (StateM Disk) α}
    {next : α → Run (StateM Disk) β} (first : Respects related program)
    (second : ∀ a, Respects related (next a)) : Respects related (program >>= next) := by
  intro disk
  have start := first disk
  rw [execute_bind]
  cases run : execute program disk with
  | mk answer middle =>
    rw [run] at start
    cases answer with
    | error cause => exact start
    | ok a => exact chains.trans start (second a middle)

theorem ite {condition : Prop} [Decidable condition] {first second : Run (StateM Disk) α}
    (left : Respects related first) (right : Respects related second) :
    Respects related (if condition then first else second) := by
  split
  · exact left
  · exact right

theorem mapM (chains : Chains related) {program : α → Run (StateM Disk) β} {list : List α}
    (each : ∀ a ∈ list, Respects related (program a)) :
    Respects related (list.mapM program) := by
  induction list with
  | nil => exact pure chains []
  | cons a rest ih =>
    rw [List.mapM_cons]
    refine bind chains (each a (by simp)) fun b => ?_
    exact bind chains (ih fun other member => each other (by simp [member])) fun others =>
      pure chains _

theorem forM (chains : Chains related) {program : α → Run (StateM Disk) PUnit}
    {list : List α} (each : ∀ a ∈ list, Respects related (program a)) :
    Respects related (list.forM program) := by
  induction list with
  | nil => exact pure chains PUnit.unit
  | cons a rest ih =>
    exact bind chains (each a (by simp)) fun _ =>
      ih fun other member => each other (by simp [member])

end Respects

/-- A member of a list whose program has run for all of them had its turn in between. -/
theorem exists_execute_of_mem {related : Disk → Disk → Prop} (chains : Chains related)
    {program : α → Run (StateM Disk) β} {list : List α}
    (each : ∀ a ∈ list, Respects related (program a)) {results : List β} {disk after : Disk}
    (run : execute (list.mapM program) disk = (.ok results, after)) {a : α} (member : a ∈ list) :
    ∃ before b last, related disk before ∧ execute (program a) before = (.ok b, last) ∧
      related last after := by
  obtain ⟨front, back, rfl⟩ := List.append_of_mem member
  obtain ⟨_, _, before, early, later, -⟩ := execute_mapM_append_eq_ok.1 run
  obtain ⟨b, _, last, own, late, -⟩ := execute_mapM_cons_eq_ok.1 later
  refine ⟨before, b, last, ?_, own, ?_⟩
  · exact (Respects.mapM chains fun other inside => each other (by simp [inside])).of_execute early
  · exact (Respects.mapM chains fun other inside => each other (by simp [inside])).of_execute late

/-- What each turn makes sure of its answer holds of all answers. -/
theorem forall_of_execute_mapM {related : Disk → Disk → Prop} (chains : Chains related)
    {program : α → Run (StateM Disk) β} {list : List α}
    (each : ∀ a ∈ list, Respects related (program a)) {p : β → Prop} {disk after : Disk}
    (turn : ∀ a ∈ list, ∀ {before last : Disk} {b : β}, related disk before →
      execute (program a) before = (.ok b, last) → related last after → p b)
    {results : List β} (run : execute (list.mapM program) disk = (.ok results, after)) :
    ∀ b ∈ results, p b := by
  induction list generalizing disk results with
  | nil =>
    obtain ⟨rfl, -⟩ : [] = results ∧ disk = after := by simpa using run
    simp
  | cons a rest ih =>
    obtain ⟨eachFirst, eachRest⟩ := List.forall_mem_cons.1 each
    obtain ⟨b, others, middle, own, later, rfl⟩ := execute_mapM_cons_eq_ok.1 run
    have step := eachFirst.of_execute own
    refine List.forall_mem_cons.2 ⟨?_, ih eachRest (fun other member _ _ _ early => ?_) later⟩
    · exact turn a List.mem_cons_self (chains.refl disk) own
        ((Respects.mapM chains eachRest).of_execute later)
    · exact turn other (List.mem_cons_of_mem _ member) (chains.trans step early)

/-- What each answer lists for its member is listed by all answers together. -/
theorem flatMap_of_execute_mapM {γ : Type} {program : α → Run (StateM Disk) β} {list : List α}
    {listed : β → List γ} {expected : α → List γ}
    (each : ∀ a ∈ list, ∀ {before last : Disk} {b : β},
      execute (program a) before = (.ok b, last) → listed b = expected a)
    {results : List β} {disk after : Disk}
    (run : execute (list.mapM program) disk = (.ok results, after)) :
    results.flatMap listed = list.flatMap expected := by
  induction list generalizing disk results with
  | nil =>
    obtain ⟨rfl, -⟩ : [] = results ∧ disk = after := by simpa using run
    rfl
  | cons a rest ih =>
    obtain ⟨eachFirst, eachRest⟩ := List.forall_mem_cons.1 each
    obtain ⟨b, others, middle, own, later, rfl⟩ := execute_mapM_cons_eq_ok.1 run
    rw [List.flatMap_cons, List.flatMap_cons, eachFirst own, ih eachRest later]

theorem chains_eq : Chains (· = ·) := ⟨fun _ => rfl, fun first second => first.trans second⟩

theorem chains_grows : Chains Disk.Grows := ⟨Disk.Grows.refl, Disk.Grows.trans⟩

/-- A program that leaves the disk as it is. -/
abbrev ReadsOnly (program : Run (StateM Disk) α) : Prop :=
  Respects (· = ·) program

theorem ReadsOnly.respects {related : Disk → Disk → Prop} (chains : Chains related)
    {program : Run (StateM Disk) α} (reads : ReadsOnly program) : Respects related program := by
  intro disk
  rw [← reads disk]
  exact chains.refl disk

/-- Every failure of a program has a cause of one kind. -/
def FailsOnly (kind : Failure → Prop) (program : Run (StateM Disk) α) : Prop :=
  ∀ disk after cause, execute program disk = (.error cause, after) → kind cause

namespace FailsOnly

variable {kind : Failure → Prop}

theorem pure (a : α) : FailsOnly kind (Pure.pure a) := by
  intro disk after cause run
  simp at run

theorem bind {program : Run (StateM Disk) α} {next : α → Run (StateM Disk) β}
    (first : FailsOnly kind program) (second : ∀ a, FailsOnly kind (next a)) :
    FailsOnly kind (program >>= next) := by
  intro disk after cause run
  rcases execute_bind_eq_error.1 run with early | ⟨a, middle, -, late⟩
  · exact first disk after cause early
  · exact second a middle after cause late

theorem mapM {program : α → Run (StateM Disk) β} (each : ∀ a, FailsOnly kind (program a))
    (list : List α) : FailsOnly kind (list.mapM program) := by
  induction list with
  | nil => exact pure []
  | cons a rest ih =>
    rw [List.mapM_cons]
    exact bind (each a) fun b => bind ih fun others => pure _

theorem mono {wider : Failure → Prop} (within : ∀ cause, kind cause → wider cause)
    {program : Run (StateM Disk) α} (fails : FailsOnly kind program) : FailsOnly wider program :=
  fun disk after cause run => within cause (fails disk after cause run)

end FailsOnly

/-- On a disk a program fails as its first part does, or goes on from where that part has
succeeded and makes the disk grow. -/
def StartsWith (disk : Disk) (first : Run (StateM Disk) α) (program : Run (StateM Disk) β) :
    Prop :=
  (∃ cause after, execute first disk = (.error cause, after) ∧
      execute program disk = (.error cause, after)) ∨
    ∃ a middle, execute first disk = (.ok a, middle) ∧
      Disk.Grows middle (execute program disk).2

namespace StartsWith

variable {γ : Type} {disk : Disk} {first : Run (StateM Disk) α} {program : Run (StateM Disk) β}

theorem sequence {next : α → Run (StateM Disk) β}
    (grows : ∀ a, Respects Disk.Grows (next a)) : StartsWith disk first (first >>= next) := by
  cases run : execute first disk with
  | mk answer middle =>
    cases answer with
    | error cause =>
      exact .inl ⟨cause, middle, run, by rw [execute_bind, run]⟩
    | ok a =>
      refine .inr ⟨a, middle, run, ?_⟩
      rw [execute_bind, run]
      exact grows a middle

theorem bind (starts : StartsWith disk first program) {next : β → Run (StateM Disk) γ}
    (grows : ∀ b, Respects Disk.Grows (next b)) : StartsWith disk first (program >>= next) := by
  rcases starts with ⟨cause, after, early, whole⟩ | ⟨a, middle, early, larger⟩
  · exact .inl ⟨cause, after, early, by rw [execute_bind, whole]⟩
  · refine .inr ⟨a, middle, early, larger.trans ?_⟩
    rw [execute_bind]
    cases run : execute program disk with
    | mk answer last =>
      cases answer with
      | error cause => exact Disk.Grows.refl last
      | ok b => exact grows b last

/-- A check that passes may stand in front. -/
theorem behind {check : Run (StateM Disk) γ} {c : γ} (passes : execute check disk = (.ok c, disk))
    {next : γ → Run (StateM Disk) β} (starts : StartsWith disk first (next c)) :
    StartsWith disk first (check >>= next) := by
  have same : execute (check >>= next) disk = execute (next c) disk := by
    rw [execute_bind, passes]
  unfold StartsWith
  rw [same]
  exact starts

end StartsWith

@[simp] theorem execute_isFile (path : String) (disk : Disk) :
    execute (isFile path) disk = (.ok (disk.isFile path), disk) := rfl

@[simp] theorem execute_isDirectory (path : String) (disk : Disk) :
    execute (isDirectory path) disk = (.ok (disk.isDirectory path), disk) := rfl

/-- The text in the file to which a path leads. -/
def textAt (disk : Disk) (path : String) : Except Failure String :=
  match disk.read path with
  | .ok content =>
    match String.fromUTF8? content with
    | some text => .ok text
    | none => .error (.disk .notText)
  | .error fault => .error (.disk fault)

/-- Only files are texts. -/
theorem isFile_of_textAt {disk : Disk} {path text : String}
    (given : textAt disk path = .ok text) : disk.isFile path = true := by
  unfold textAt at given
  split at given
  · next content read => exact Disk.isFile_of_read read
  · simp at given

@[simp] theorem mapError_ok {ε ε' α : Type} (change : ε → ε') (answer : α) :
    (Except.ok answer).mapError change = .ok answer := rfl

@[simp] theorem mapError_error {ε ε' α : Type} (change : ε → ε') (fault : ε) :
    (Except.error fault : Except ε α).mapError change = .error (change fault) := rfl

/-- What was read as a text is the text. -/
theorem textAt_of_read {disk : Disk} {path text : String}
    (read : disk.read path = .ok text.toUTF8) : textAt disk path = .ok text := by
  simp only [textAt, read, Text.fromUTF8?_toUTF8]

@[simp] theorem execute_readText (path : String) (disk : Disk) :
    execute (readText path) disk = (textAt disk path, disk) := by
  unfold readText textAt
  rw [execute_bind]
  have shape : execute (onDisk (MonadDisk.read path) : Run (StateM Disk) ByteArray) disk =
      ((disk.read path).mapError Failure.disk, disk) := rfl
  rw [shape]
  cases disk.read path with
  | error fault => rfl
  | ok content =>
    simp only [mapError_ok]
    cases String.fromUTF8? content <;> rfl

theorem execute_overwrite (path text : String) (disk : Disk) :
    execute (overwrite path text) disk =
      match disk.write path text with
      | .ok after => (.ok (), after)
      | .error fault => (.error (.disk fault), disk) := by
  have shape : execute (overwrite path text) disk =
      match (MonadDisk.write path text : StateM Disk _) disk with
      | (answer, after) => (answer.mapError Failure.disk, after) := rfl
  rw [shape]
  simp only [MonadDisk.write]
  cases disk.write path text <;> rfl

theorem execute_createParent (path : String) (disk : Disk) :
    execute (createParent path) disk =
      match Disk.Path.parent? path with
      | none => (.ok (), disk)
      | some parent =>
        if parent.isEmpty then (.ok (), disk)
        else
          ((disk.createDirectories parent).1.mapError Failure.disk,
            (disk.createDirectories parent).2) := by
  unfold createParent
  rcases Disk.Path.parent? path with _ | parent
  · rfl
  · dsimp only
    cases parent.isEmpty <;> rfl

theorem execute_createParent_some {path parent : String}
    (found : Disk.Path.parent? path = some parent) (nonempty : parent ≠ "") (disk : Disk) :
    execute (createParent path) disk =
      ((disk.createDirectories parent).1.mapError Failure.disk,
        (disk.createDirectories parent).2) := by
  rw [execute_createParent, found]
  simp [nonempty]

end Project
end SchemaScaffold
