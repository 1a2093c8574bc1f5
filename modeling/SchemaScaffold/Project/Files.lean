import SchemaScaffold.Disk.Access
import SchemaScaffold.Failure

/-!
# Files of a project

Reading and writing the files of a project, with a choice of what happens to files that are
there already.
-/

namespace SchemaScaffold
namespace Project

/-- Programs that work on a disk and may fail. -/
abbrev Run (m : Type → Type) := ExceptT Failure m

variable {m : Type → Type} [Monad m] [MonadDisk m]

/-- Take over the outcome of an operation on files. -/
def onDisk {α : Type} (operation : m (Except Disk.Fault α)) : Run m α :=
  ExceptT.mk ((Except.mapError Failure.disk ·) <$> operation)

/-- Whether a path leads to a file. -/
def isFile (path : String) : Run m Bool :=
  ExceptT.lift (MonadDisk.isFile path)

/-- Whether a path leads to a directory. -/
def isDirectory (path : String) : Run m Bool :=
  ExceptT.lift (MonadDisk.isDirectory path)

/-- The text in a file. -/
def readText (path : String) : Run m String := do
  match String.fromUTF8? (← onDisk (MonadDisk.read path)) with
  | some text => return text
  | none => throw (.disk .notText)

/-- Put a text into a file. -/
def overwrite (path text : String) : Run m Unit :=
  onDisk (MonadDisk.write path text)

/-- What happens to a file that is there already. -/
inductive WritePolicy where
  | overwrite
  | skip
  | fail
deriving DecidableEq, Repr

/-- What became of a file. -/
inductive WriteResult where
  | written
  | skipped
deriving DecidableEq, Repr

/-- Create the directory that a path leads into. -/
def createParent (path : String) : Run m Unit :=
  match Disk.Path.parent? path with
  | some parent =>
    if parent.isEmpty then pure () else onDisk (MonadDisk.createDirectories parent)
  | none => pure ()

/-- Write a file and the directories on the way to it. -/
def writeFile (path text : String) (policy : WritePolicy) : Run m WriteResult := do
  let found := (← isFile path) || (← isDirectory path)
  match policy, found with
  | .skip, true => return .skipped
  | .fail, true => throw (.alreadyExists path)
  | _, _ =>
    createParent path
    overwrite path text
    return .written

/-- The files that were written and those that were left alone. -/
structure Outcome where
  written : List String
  skipped : List String
deriving DecidableEq, Repr

/-- Sort paths by what became of them. -/
def Outcome.ofResults (results : List (String × WriteResult)) : Outcome where
  written := (results.filter (·.2 = .written)).map (·.1)
  skipped := (results.filter (·.2 = .skipped)).map (·.1)

end Project
end SchemaScaffold
