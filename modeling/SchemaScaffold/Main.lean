import SchemaScaffold.Cli.Run

/-!
# The program

The commands on the files of the machine and on its console.
-/

namespace SchemaScaffold

/-- The number of a failure of the system, and what it says. Some operations give the number
with its sign changed. -/
def numberOf? : IO.Error → Option (Nat × String)
  | .alreadyExists _ code details | .otherError code details | .resourceBusy code details
  | .unsatisfiedConstraints code details | .illegalOperation code details
  | .interrupted _ code details | .noFileOrDirectory _ code details
  | .invalidArgument _ code details | .permissionDenied _ code details
  | .resourceExhausted _ code details | .inappropriateType _ code details
  | .noSuchThing _ code details =>
    some (if 2147483648 ≤ code.toNat then 4294967296 - code.toNat else code.toNat, details)
  | _ => none

/-- The failures that a disk knows, by the numbers of the system. -/
def knownFaults : List (Nat × Disk.Fault) :=
  [(2, .noSuchEntry), (17, .exists), (20, .notDirectory), (21, .isDirectory), (36, .nameTooLong)]

/-- The cause of a failed operation on files. -/
def faultOf (error : IO.Error) : Disk.Fault :=
  match numberOf? error with
  | none => .other (toString error)
  | some (number, details) =>
    let words := String.ofList (Text.capitalize details.toList)
    (knownFaults.lookup number).getD
      (.other (String.join [words, " (os error ", String.ofList (Text.decimal number), ")"]))

/-- Run an operation on files and take its failure as an answer. -/
def answering {α : Type} (operation : IO α) : IO (Except Disk.Fault α) := do
  match ← operation.toBaseIO with
  | .ok value => return .ok value
  | .error error => return .error (faultOf error)

/-- What stands at a path, if anything. -/
def typeAt (path : String) : IO (Option IO.FS.FileType) := do
  try
    let metadata ← (← IO.FS.realPath path).metadata
    return some metadata.type
  catch _ => return none

instance : MonadDisk IO where
  isFile path := do
    match ← typeAt path with
    | some .file => return true
    | _ => return false
  isDirectory path := do
    match ← typeAt path with
    | some .dir => return true
    | _ => return false
  read path := answering (IO.FS.readBinFile path)
  write path text := answering (IO.FS.writeFile path text)
  createDirectories path := answering (IO.FS.createDirAll path)
  workingDirectory := do return (← IO.currentDir).toString

instance : MonadConsole IO where
  print text := do
    let output ← IO.getStdout
    output.putStr text
    output.flush
  printError line := IO.eprintln line
  readLine := do answering (← IO.getStdin).getLine
  readAll := do
    match ← answering (← IO.getStdin).readBinToEnd with
    | .error fault => return .error fault
    | .ok bytes =>
      match String.fromUTF8? bytes with
      | some text => return .ok text
      | none => return .error .notText

end SchemaScaffold

def main (words : List String) : IO UInt32 :=
  SchemaScaffold.Cli.run words
