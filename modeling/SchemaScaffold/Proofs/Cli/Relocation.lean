import SchemaScaffold.Proofs.Cli.FullCommand
import SchemaScaffold.Proofs.Project.RelocatedRuns
import SchemaScaffold.Proofs.Project.Success
import SchemaScaffold.Proofs.Project.TableFiles

/-!
# The command for full runs in two roots

Where the root is makes no difference to the command for full runs. Paths on the command line start
at the working directory and not at the root, outputs are written below the root, and they are
printed as seen from there.
-/

namespace SchemaScaffold
namespace Cli

open Disk.Path (absolute isAbsolute join names)
open Project (Agree FullRun HasRoom SamePath SameSummary Summary execute outputs)

/-- A path of the command line starts at the root of the disk. -/
theorem isAbsolute_absolute (disk : Disk) (path : String) :
    isAbsolute (absolute (here disk) path) = true := by
  have joined (front back : String) (rooted : isAbsolute front = true) :
      isAbsolute (join front back) = true := by
    cases whole : isAbsolute back with
    | true => rw [Disk.Path.join_of_isAbsolute whole, whole]
    | false => rw [Disk.Path.isAbsolute_join whole, rooted]
  have folded (names : List String) (front : String) (rooted : isAbsolute front = true) :
      isAbsolute (names.foldl join front) = true := by
    induction names generalizing front with
    | nil => exact rooted
    | cons name names ih => exact ih _ (joined front name rooted)
  have place : isAbsolute (here disk) = true := by simp [here, isAbsolute]
  unfold absolute
  dsimp only
  split
  · refine joined _ _ (folded _ _ ?_)
    split_ifs <;> first | exact place | rfl
  · refine folded _ _ ?_
    split_ifs <;> first | exact place | rfl

/-- An output is printed by its names, wherever the root is. -/
theorem relativeTo_eq {schema : Schema} (named : ∀ table ∈ schema.tables, Project.IsNamed table)
    {left right path otherPath : String} (leftNonempty : left ≠ "") (rightNonempty : right ≠ "")
    (same : SamePath schema left right path otherPath) :
    Disk.Path.relativeTo left path = Disk.Path.relativeTo right otherPath := by
  obtain ⟨output, member, rfl, rfl⟩ := same
  have inside := (Project.isInside_of_mem_outputs named member).1
  rw [inside.relativeTo_join leftNonempty, inside.relativeTo_join rightNonempty]

theorem fullLines_eq {schema : Schema} (named : ∀ table ∈ schema.tables, Project.IsNamed table)
    {left right : String} (leftNonempty : left ≠ "") (rightNonempty : right ≠ "")
    {summary otherSummary : Summary} (same : SameSummary schema left right summary otherSummary) :
    fullLines left summary = fullLines right otherSummary := by
  have lines (word : String) {paths otherPaths : List String}
      (alike : List.Forall₂ (SamePath schema left right) paths otherPaths) :
      paths.map (fun path => word ++ Disk.Path.relativeTo left path) =
        otherPaths.map fun path => word ++ Disk.Path.relativeTo right path := by
    induction alike with
    | nil => rfl
    | cons first others ih =>
      rw [List.map_cons, List.map_cons, ih, relativeTo_eq named leftNonempty rightNonempty first]
  simp only [fullLines, summaryLines, lines _ same.written, lines _ same.skipped, same.patched,
    same.tables]

/-- Runs that agree on the lines to print end with the same code and print the same. -/
theorem concluded_eq {left right : String} {result otherResult : Except Failure Summary × Disk}
    (agree : Agree (fun summary otherSummary =>
      fullLines left summary = fullLines right otherSummary) result.1 otherResult.1)
    (console : Console) :
    (concluded left console result).1.1 = (concluded right console otherResult).1.1 ∧
      (concluded left console result).1.2.output =
        (concluded right console otherResult).1.2.output := by
  obtain ⟨answer, after⟩ := result
  obtain ⟨otherAnswer, otherAfter⟩ := otherResult
  cases answer <;> cases otherAnswer
  · simp only [concluded, failed, and_self]
  · exact absurd agree id
  · exact absurd agree id
  · next summary otherSummary =>
    have lines : fullLines left summary = fullLines right otherSummary := agree
    simp only [concluded, lines, and_self]

theorem concluded_disk (root : String) (console : Console)
    (result : Except Failure Summary × Disk) : (concluded root console result).2 = result.2 := by
  obtain ⟨answer, after⟩ := result
  cases answer <;> rfl

/-- A command line for a full run in some root. -/
def wordsFor (root : String) : List String :=
  ["full", "/schema.sql", "--root", root, "--templates", "/tpl", "--database", "shop"]

/-- Any word without a dash in front can be the root. -/
theorem ofWords_wordsFor {root : String} (plain : Word.ofText root = .plain root)
    (nonempty : root ≠ "") : Command.ofWords (wordsFor root) =
      .ok (.full (some "/schema.sql") ⟨some root, none⟩ (some "/tpl") (some "shop")) := by
  have full : Word.ofText "full" = .plain "full" := by decide
  have script : Word.ofText "/schema.sql" = .plain "/schema.sql" := by decide
  have rootOption : Word.ofText "--root" = .long "--root" none := by decide
  have templatesOption : Word.ofText "--templates" = .long "--templates" none := by decide
  have templates : Word.ofText "/tpl" = .plain "/tpl" := by decide
  have databaseOption : Word.ofText "--database" = .long "--database" none := by decide
  have database : Word.ofText "shop" = .plain "shop" := by decide
  simp [wordsFor, Command.ofWords, Command.readWords, full, Command.readNamed, Command.readers,
    Command.readFull, Command.projectPaths, Matches.ofWords, script, rootOption, plain, nonempty,
    templatesOption, templates, databaseOption, database, Matches.addScript, Matches.addValue,
    Word.isValue, ValueKind.accepts, Matches.projectOptions, Matches.value?, List.lookup_cons, bind,
    Except.bind, pure, Except.pure]

/-- A console on which nothing has been said. -/
def silentConsole : Console := ⟨[], "", ""⟩

/-- The run in the empty working directory, with the name of its database given. -/
def namedRun : FullRun :=
  commandedRun Project.sharingDisk {} "." "/schema.sql" "/tpl" "shop" silentConsole

theorem textAt_sharingDisk :
    Project.textAt Project.sharingDisk (absolute (here Project.sharingDisk) "/schema.sql") =
      .ok Project.sharingSql := by
  have path : absolute (here Project.sharingDisk) "/schema.sql" = "/schema.sql" := by decide
  rw [path]
  exact Project.textAt_of_read rfl

/-- The name of the database is the one that the schema declares, so that the run succeeds. -/
theorem exists_execute_namedRun :
    ∃ summary after, execute namedRun.program Project.sharingDisk = (.ok summary, after) := by
  obtain ⟨summary, after, run⟩ := Project.exists_execute_sharingRun
  obtain ⟨schema, name, prepared, produced⟩ := FullRun.execute_program_eq_ok.1 run
  have config : namedRun.config = Project.sharingRun.config := by decide
  have input : namedRun.input = Project.sharingRun.input := by decide
  have declared : (Sql.parse Project.sharingSql).database = some "shop" := by
    rw [Project.parse_sharingSql]
    rfl
  obtain ⟨sql, text, visible, parsed⟩ := prepared.text
  have given : Project.textAt Project.sharingDisk Project.sharingRun.input =
      .ok Project.sharingSql := Project.textAt_of_read rfl
  obtain rfl : Project.sharingSql = sql := Except.ok.inj (given.symm.trans text)
  have named : Project.chosenName (some "shop") schema.database (answerOn silentConsole).1 =
      .ok name := by
    have chosen := prepared.named
    rw [← parsed, declared] at chosen
    exact chosen
  have templates : namedRun.templates = Project.sharingRun.templates := by
    rw [FullRun.templates, FullRun.templates, config]
  have root : namedRun.root = Project.sharingRun.root := by
    rw [FullRun.root, FullRun.root, config]
  have same : namedRun.produce schema name = Project.sharingRun.produce schema name := by
    rw [FullRun.produce, FullRun.produce, config, templates, root]
  refine ⟨summary, after, FullRun.execute_program_eq_ok.2 ⟨schema, name, ?_, ?_⟩⟩
  · refine ⟨by rw [input]; exact prepared.input, by rw [templates]; exact prepared.directory,
      ⟨Project.sharingSql, by rw [input]; exact given, visible, parsed⟩, prepared.tables, named, ?_⟩
    rw [templates]
    exact prepared.templates
  · rw [same]
    exact produced

/-- The command line succeeds in the working directory. -/
theorem code_sharingDisk : (runOn (wordsFor ".") silentConsole Project.sharingDisk).1.1 = 0 := by
  obtain ⟨summary, after, run⟩ := exists_execute_namedRun
  rw [namedRun] at run
  rw [runOn_full (ofWords_wordsFor (by decide) (by decide)), loadedConfig]
  dsimp only
  rw [run]
  rfl

/-- The working directory is empty, and there is nothing yet beside it. -/
theorem isVacant_sharingDisk : Project.sharingDisk.IsVacant "." ∧
    Project.sharingDisk.IsVacant "../new" ∧ Project.sharingDisk.IsVacant "new" :=
  ⟨Disk.isVacant_of_nodes (by decide) (by decide), Disk.isVacant_of_nodes (by decide) (by decide),
    Disk.isVacant_of_nodes (by decide) (by decide)⟩

/-- The inputs of a run that a command line asks for do not start at its root. -/
theorem inputsApart_commandedRun (disk : Disk) (loaded : Config)
    (root sql templates database : String) (console : Console) :
    (commandedRun disk loaded root sql templates database console).InputsApart :=
  ⟨by simp [commandedRun], isAbsolute_absolute disk templates⟩

theorem withRoot_commandedRun (disk : Disk) (loaded : Config)
    (root other sql templates database : String) (console : Console) :
    (commandedRun disk loaded root sql templates database console).withRoot other =
      commandedRun disk loaded other sql templates database console := rfl

/-- A command line for a full run that names the schema, the templates and the database ends with
the same code, prints the same and makes the same files for any two roots that will be empty once
they are made and have room for the outputs. -/
theorem full_command_is_relocatable {words otherWords : List String}
    {sql templates database left right : String} {config : Option String}
    (asked : Command.ofWords words =
      .ok (.full (some sql) ⟨some left, config⟩ (some templates) (some database)))
    (otherAsked : Command.ofWords otherWords =
      .ok (.full (some sql) ⟨some right, config⟩ (some templates) (some database)))
    (console : Console) {disk : Disk} (leftVacant : disk.IsVacant left)
    (rightVacant : disk.IsVacant right)
    (room : ∀ text, Project.textAt disk (absolute (here disk) sql) = .ok text →
      HasRoom left (Sql.parse text) ∧ HasRoom right (Sql.parse text)) :
    (runOn words console disk).1.1 = (runOn otherWords console disk).1.1 ∧
      (runOn words console disk).1.2.output = (runOn otherWords console disk).1.2.output ∧
      ∀ inner ≠ [], (runOn words console disk).2.file? (disk.destination left ++ inner) =
        (runOn otherWords console disk).2.file? (disk.destination right ++ inner) := by
  rw [runOn_full asked, runOn_full otherAsked]
  cases loadedConfig disk config with
  | error message =>
    refine ⟨rfl, rfl, fun inner strict => ?_⟩
    simp only [Disk.file?, leftVacant.node?_eq_none strict, rightVacant.node?_eq_none strict]
  | ok loaded =>
    obtain ⟨agree, inside⟩ := (inputsApart_commandedRun disk loaded left sql templates database
      console).agree leftVacant rightVacant fun schema name prepared => by
        obtain ⟨text, given, -, rfl⟩ := prepared.text
        exact room text given
    rw [withRoot_commandedRun, withRoot_commandedRun] at agree inside
    have sameLines := agree.imp fun summary otherSummary reported => by
      obtain ⟨schema, name, prepared, same⟩ := reported
      exact fullLines_eq prepared.isNamed (Disk.IsReady.root_ne_empty (.inr leftVacant))
        (Disk.IsReady.root_ne_empty (.inr rightVacant)) same
    dsimp only
    generalize execute (commandedRun disk loaded left sql templates database console).program
      disk = result at sameLines inside ⊢
    generalize execute (commandedRun disk loaded right sql templates database console).program
      disk = otherResult at sameLines inside ⊢
    have printedLines := concluded_eq sameLines console
    refine ⟨printedLines.1, printedLines.2, fun inner strict => ?_⟩
    rw [concluded_disk, concluded_disk, Disk.file?, Disk.file?, inside inner strict]

/-- The empty working directory and a directory that is still to be made beside it. -/
theorem roots_of_sharingDisk_agree :
    Project.sharingDisk.IsVacant "." ∧ Project.sharingDisk.IsVacant "../new" ∧
      (runOn (wordsFor "../new") silentConsole Project.sharingDisk).1.1 = 0 ∧
      (runOn (wordsFor ".") silentConsole Project.sharingDisk).1.2.output =
        (runOn (wordsFor "../new") silentConsole Project.sharingDisk).1.2.output ∧
      ∀ inner ≠ [], (runOn (wordsFor ".") silentConsole Project.sharingDisk).2.file?
          (Project.sharingDisk.destination "." ++ inner) =
        (runOn (wordsFor "../new") silentConsole Project.sharingDisk).2.file?
          (Project.sharingDisk.destination "../new" ++ inner) := by
  obtain ⟨here, beside, -⟩ := isVacant_sharingDisk
  obtain ⟨codes, same⟩ := full_command_is_relocatable
    (ofWords_wordsFor (by decide) (by decide)) (ofWords_wordsFor (by decide) (by decide))
    silentConsole here beside fun text _ => by
      have named : ∀ table ∈ (Sql.parse text).tables, Project.IsNamed table := fun _ member =>
        Project.isNamed_of_mem_parse member
      exact ⟨Project.hasRoom_of_short named (by decide), Project.hasRoom_of_short named (by decide)⟩
  exact ⟨here, beside, codes.symm.trans code_sharingDisk, same⟩

/-- A path of many steps that stay in place, to a directory. -/
def windingRoot (steps : Nat) : String :=
  String.ofList ((List.replicate steps ['.', '/']).flatten ++ "new".toList)

theorem toList_windingRoot_succ (steps : Nat) :
    (windingRoot (steps + 1)).toList = '.' :: '/' :: (windingRoot steps).toList := by
  simp [windingRoot, List.replicate_succ]

theorem utf8ByteSize_windingRoot (steps : Nat) :
    (windingRoot steps).utf8ByteSize = 2 * steps + 3 := by
  induction steps with
  | zero => rfl
  | succ steps ih =>
    have text : windingRoot (steps + 1) = "./" ++ windingRoot steps :=
      String.toList_injective (by simp [toList_windingRoot_succ])
    have dot : "./".utf8ByteSize = 2 := rfl
    rw [text, String.utf8ByteSize_append, ih, dot]
    omega

theorem windingRoot_ne_empty (steps : Nat) : windingRoot steps ≠ "" := by
  intro empty
  have size := utf8ByteSize_windingRoot steps
  rw [empty] at size
  simp at size

theorem nul_not_mem_windingRoot (steps : Nat) : '\x00' ∉ (windingRoot steps).toList := by
  induction steps with
  | zero => decide
  | succ steps ih => simp [toList_windingRoot_succ, ih]

theorem names_windingRoot (steps : Nat) :
    names (windingRoot steps) = List.replicate steps "." ++ ["new"] := by
  induction steps with
  | zero => rfl
  | succ steps ih =>
    have text : windingRoot (steps + 1) =
        String.ofList (['.'] ++ '/' :: (windingRoot steps).toList) :=
      String.toList_injective (by simp [toList_windingRoot_succ])
    have dot : names (String.ofList ['.']) = ["."] := by decide
    rw [text, Disk.Path.names_slash, dot, String.ofList_toList, ih, List.replicate_succ]
    rfl

/-- However many steps there are, the directory is the one to which the last name leads. -/
theorem isVacant_windingRoot {steps : Nat} (short : 2 * steps + 3 < Disk.maxPathSize) :
    Project.sharingDisk.IsVacant (windingRoot steps) := by
  have relative : isAbsolute (windingRoot steps) = false := by
    cases steps with
    | zero => rfl
    | succ steps => simp [isAbsolute, toList_windingRoot_succ]
  have origin : Project.sharingDisk.origin (windingRoot steps) = ["out"] := by
    rw [Disk.origin, relative]
    rfl
  have along (place : Location) (count : Nat) :
      Disk.createAlong Project.sharingDisk place (List.replicate count "." ++ ["new"]) =
        Disk.createAlong Project.sharingDisk place ["new"] := by
    induction count with
    | zero => rfl
    | succ count ih => rw [List.replicate_succ, List.cons_append, Disk.createAlong_dot, ih]
  have arrives (place : Location) (count : Nat) :
      Disk.arrival place (List.replicate count "." ++ ["new"]) = Disk.arrival place ["new"] := by
    induction count with
    | zero => rfl
    | succ count ih => rw [List.replicate_succ, List.cons_append, Disk.arrival_cons,
        Disk.follow_dot, ih]
  have started : Project.sharingDisk.start (windingRoot steps) = .ok ["out"] := by
    rw [← origin]
    exact Disk.start_eq_ok_iff.2
      ⟨nul_not_mem_windingRoot steps, windingRoot_ne_empty steps, by rwa [utf8ByteSize_windingRoot]⟩
  obtain ⟨made, created, empty⟩ := isVacant_sharingDisk.2.2
  refine ⟨made, ?_, ?_⟩
  · rw [← created, Disk.createDirectories, started, names_windingRoot]
    exact along _ _
  · rw [Disk.destination, origin, names_windingRoot, arrives]
    exact empty

theorem ofText_windingRoot (steps : Nat) :
    Word.ofText (windingRoot steps) = .plain (windingRoot steps) := by
  cases steps with
  | zero => decide
  | succ steps => simp [Word.ofText, toList_windingRoot_succ]

section Fails

variable {root : String} (plain : Word.ofText root = .plain root) (nonempty : root ≠ "")

include plain nonempty

theorem code_of_fails {disk : Disk} (fails : ∀ summary after, execute
      (commandedRun disk {} root "/schema.sql" "/tpl" "shop" silentConsole).program disk ≠
        (.ok summary, after)) : (runOn (wordsFor root) silentConsole disk).1.1 = 1 := by
  rw [runOn_full (ofWords_wordsFor plain nonempty), loadedConfig]
  cases run : execute (commandedRun disk {} root "/schema.sql" "/tpl" "shop"
      silentConsole).program disk with
  | mk answer after =>
    cases answer with
    | error cause =>
      dsimp only
      rw [run]
      rfl
    | ok summary => exact absurd run (fails summary after)

/-- A command line fails for a root that leaves no room for a document. -/
theorem code_of_overlong (long : Disk.maxPathSize ≤ root.utf8ByteSize + 38) (disk : Disk) :
    (runOn (wordsFor root) silentConsole disk).1.1 = 1 := by
  have document : Project.postmanPath.utf8ByteSize = 38 := by decide
  have joined : root.utf8ByteSize ≤ (join root "").utf8ByteSize := by
    rw [join, Disk.Path.isAbsolute_empty, if_neg (by simp)]
    split <;> simp [String.join_cons]
  refine code_of_fails plain nonempty fun summary after run => ?_
  have size := Project.room_of_succeeds run
  have relative : isAbsolute Project.postmanPath = false := by decide
  rw [Disk.Path.utf8ByteSize_join relative, document] at size
  have here : (commandedRun disk {} root "/schema.sql" "/tpl" "shop" silentConsole).root =
    root := rfl
  rw [here] at size
  omega

/-- A command line fails for a root whose path leads through the place of a document. -/
theorem code_of_passing {disk : Disk} (tree : disk.IsTree) {path : String}
    (document : path ∈ Project.documentPaths)
    (passes : disk.destination (join root path) ∈ disk.wayOf root) :
    (runOn (wordsFor root) silentConsole disk).1.1 = 1 :=
  code_of_fails plain nonempty fun _ _ run =>
    Project.not_mem_wayOf_of_succeeds run tree document passes

end Fails

/-- A root that leaves no room for the outputs: the same command line succeeds for the empty
working directory, and fails for a directory in it if the path has four thousand characters. -/
theorem winding_root_fails :
    Project.sharingDisk.IsVacant "." ∧ Project.sharingDisk.IsVacant (windingRoot 2044) ∧
      (runOn (wordsFor ".") silentConsole Project.sharingDisk).1.1 = 0 ∧
      (runOn (wordsFor (windingRoot 2044)) silentConsole Project.sharingDisk).1.1 = 1 := by
  refine ⟨isVacant_sharingDisk.1, isVacant_windingRoot (by simp [Disk.maxPathSize]),
    code_sharingDisk, ?_⟩
  have long : Disk.maxPathSize ≤ (windingRoot 2044).utf8ByteSize + 38 := by
    rw [utf8ByteSize_windingRoot]
    simp [Disk.maxPathSize]
  exact code_of_overlong (ofText_windingRoot 2044) (windingRoot_ne_empty 2044) long _

/-- A root through a place inside itself, which is not empty once it is made: a directory stands
where the run is to write a document. -/
theorem passing_root_fails :
    ¬ Project.sharingDisk.IsVacant "new/README.md/.." ∧
      (runOn (wordsFor ".") silentConsole Project.sharingDisk).1.1 = 0 ∧
      (runOn (wordsFor "new/README.md/..") silentConsole Project.sharingDisk).1.1 = 1 := by
  have passes : Project.sharingDisk.destination (join "new/README.md/.." Project.readmePath) ∈
      Project.sharingDisk.wayOf "new/README.md/.." := by decide
  refine ⟨fun vacant => ?_, code_sharingDisk, ?_⟩
  · have place : Project.sharingDisk.destination (join "new/README.md/.." Project.readmePath) =
        Project.sharingDisk.destination "new/README.md/.." ++ names Project.readmePath := by decide
    rw [place] at passes
    exact vacant.not_mem_wayOf Project.isTree_sharingDisk (by decide) passes
  · exact code_of_passing (by decide) (by decide) Project.isTree_sharingDisk
      (List.mem_cons_self) passes

end Cli
end SchemaScaffold
