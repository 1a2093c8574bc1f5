import SchemaScaffold.Disk.Basic

/-!
# Access to disks

What a program asks of the disk that it works on. Programs are written for any monad that gives
this access, so that they run on the machine's own files and on a `Disk` alike.
-/

namespace SchemaScaffold

/-- Monads in which files can be read and written. -/
class MonadDisk (m : Type → Type) where
  /-- Whether a path leads to a file. -/
  isFile (path : String) : m Bool
  /-- Whether a path leads to a directory. -/
  isDirectory (path : String) : m Bool
  /-- The content of a file. -/
  read (path : String) : m (Except Disk.Fault ByteArray)
  /-- Put a text into a file, in place of what the file held. -/
  write (path text : String) : m (Except Disk.Fault Unit)
  /-- Create a directory and all directories on the way to it. -/
  createDirectories (path : String) : m (Except Disk.Fault Unit)
  /-- The absolute path of the directory from which relative paths start. -/
  workingDirectory : m String

/-- Programs on a disk of their own. -/
instance : MonadDisk (StateM Disk) where
  isFile path disk := (disk.isFile path, disk)
  isDirectory path disk := (disk.isDirectory path, disk)
  read path disk := (disk.read path, disk)
  write path text disk :=
    match disk.write path text with
    | .ok changed => (.ok (), changed)
    | .error fault => (.error fault, disk)
  createDirectories path disk := disk.createDirectories path
  workingDirectory disk := ("/" ++ String.intercalate "/" disk.workingDirectory, disk)

/-- Programs that keep a state of their own besides. -/
instance {m : Type → Type} {σ : Type} [Monad m] [MonadDisk m] : MonadDisk (StateT σ m) where
  isFile path := StateT.lift (MonadDisk.isFile path)
  isDirectory path := StateT.lift (MonadDisk.isDirectory path)
  read path := StateT.lift (MonadDisk.read path)
  write path text := StateT.lift (MonadDisk.write path text)
  createDirectories path := StateT.lift (MonadDisk.createDirectories path)
  workingDirectory := StateT.lift MonadDisk.workingDirectory

end SchemaScaffold
