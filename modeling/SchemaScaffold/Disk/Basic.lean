import SchemaScaffold.Disk.Path

/-!
# Disks

A tree of directories and files, and the operations on it: looking up, reading, writing and
creating directories. Paths are followed name by name from the root or from the working
directory.
-/

namespace SchemaScaffold

/-- A place on a disk: the names that lead to it from the root. -/
abbrev Location := List String

/-- What can stand at a place. -/
inductive Disk.Node where
  | directory
  | file (content : ByteArray)

/-- The nodes of a tree, and the directory from which relative paths start. -/
structure Disk where
  workingDirectory : Location
  nodes : List (Location × Disk.Node)

namespace Disk

/-- Why an operation on files fails. -/
inductive Fault where
  | noSuchEntry
  | exists
  | notDirectory
  | isDirectory
  | nameTooLong
  | nulInPath
  | notText
  /-- Any other failure, in the words of the system. -/
  | other (message : String)
deriving DecidableEq, Repr

/-- The failure in words. -/
def Fault.message : Fault → String
  | .noSuchEntry => "No such file or directory (os error 2)"
  | .exists => "File exists (os error 17)"
  | .notDirectory => "Not a directory (os error 20)"
  | .isDirectory => "Is a directory (os error 21)"
  | .nameTooLong => "File name too long (os error 36)"
  | .nulInPath => "file name contained an unexpected NUL byte"
  | .notText => "stream did not contain valid UTF-8"
  | .other message => message

/-- What stands at a place. The root is always a directory. -/
def node? (disk : Disk) (location : Location) : Option Node :=
  if location = [] then some .directory else disk.nodes.lookup location

/-- Nodes with one of them set, in place if there is one already. -/
def setNode (location : Location) (node : Node) :
    List (Location × Node) → List (Location × Node)
  | [] => [(location, node)]
  | (place, old) :: rest =>
    if place = location then (place, node) :: rest
    else (place, old) :: setNode location node rest

/-- The disk with a node set at a place. -/
def set (disk : Disk) (location : Location) (node : Node) : Disk :=
  { disk with nodes := setNode location node disk.nodes }

/-- Where a path leads. -/
inductive Target where
  | directory (location : Location)
  | file (location : Location) (content : ByteArray)
  /-- Nothing is there, but the directory around it is. -/
  | absent (location : Location)

/-- The longest name that a node can have, in bytes. -/
def maxNameSize : Nat := 255

/-- The shortest path that is too long, in bytes. -/
def maxPathSize : Nat := 4096

/-- Follow names from a directory. -/
def walk (disk : Disk) : Location → List String → Except Fault Target
  | place, [] => .ok (.directory place)
  | place, name :: rest =>
    if name = "." then walk disk place rest
    else if name = ".." then walk disk place.dropLast rest
    else if maxNameSize < name.utf8ByteSize then .error .nameTooLong
    else
      let next := place ++ [name]
      match disk.node? next with
      | some .directory => walk disk next rest
      | some (.file content) =>
        if rest.isEmpty then .ok (.file next content) else .error .notDirectory
      | none => if rest.isEmpty then .ok (.absent next) else .error .noSuchEntry

/-- The directory in which a path starts, unless the path cannot be followed at all. -/
def start (disk : Disk) (path : String) : Except Fault Location :=
  if path.toList.contains '\x00' then .error .nulInPath
  else if path.isEmpty then .error .noSuchEntry
  else if maxPathSize ≤ path.utf8ByteSize then .error .nameTooLong
  else .ok (if Path.isAbsolute path then [] else disk.workingDirectory)

/-- Follow a path. -/
def locate (disk : Disk) (path : String) : Except Fault Target := do
  walk disk (← start disk path) (Path.names path)

/-- A path leads to a file; no slash may stand behind a file. -/
def isFile (disk : Disk) (path : String) : Bool :=
  match disk.locate path with
  | .ok (.file ..) => !Path.endsWithSlash path
  | _ => false

/-- A path leads to a directory. -/
def isDirectory (disk : Disk) (path : String) : Bool :=
  match disk.locate path with
  | .ok (.directory _) => true
  | _ => false

/-- A path leads to something. -/
def hasEntry (disk : Disk) (path : String) : Bool :=
  disk.isFile path || disk.isDirectory path

/-- The content of a file. -/
def read (disk : Disk) (path : String) : Except Fault ByteArray := do
  match ← disk.locate path with
  | .directory _ => throw .isDirectory
  | .absent _ => throw .noSuchEntry
  | .file _ content => if Path.endsWithSlash path then throw .notDirectory else return content

/-- Put a text into a file, in place of what the file held. -/
def write (disk : Disk) (path text : String) : Except Fault Disk := do
  match ← disk.locate path with
  | .directory _ => throw .isDirectory
  | .absent location | .file location _ =>
    if Path.endsWithSlash path then throw .isDirectory
    return disk.set location (.file text.toUTF8)

/-- Follow names from a directory and create those that are absent. What was created before a
failure stays. -/
def createAlong : Disk → Location → List String → Except Fault Unit × Disk
  | disk, _, [] => (.ok (), disk)
  | disk, place, name :: rest =>
    if name = "." then createAlong disk place rest
    else if name = ".." then createAlong disk place.dropLast rest
    else if maxNameSize < name.utf8ByteSize then (.error .nameTooLong, disk)
    else
      let next := place ++ [name]
      match disk.node? next with
      | some .directory => createAlong disk next rest
      | some (.file _) => (.error (if rest.isEmpty then .exists else .notDirectory), disk)
      | none => createAlong (disk.set next .directory) next rest

/-- Create a directory and all directories on the way to it. -/
def createDirectories (disk : Disk) (path : String) : Except Fault Unit × Disk :=
  match disk.start path with
  | .error fault => (.error fault, disk)
  | .ok place => createAlong disk place (Path.names path)

theorem lookup_setNode_self (location : Location) (node : Node)
    (nodes : List (Location × Node)) :
    (setNode location node nodes).lookup location = some node := by
  induction nodes with
  | nil => simp [setNode]
  | cons head rest ih =>
    obtain ⟨place, old⟩ := head
    by_cases same : place = location
    · simp [setNode, same]
    · have apart : (location == place) = false := by simpa using Ne.symm same
      simp [setNode, same, List.lookup_cons, apart, ih]

theorem lookup_setNode_of_ne {location other : Location} (apart : other ≠ location)
    (node : Node) (nodes : List (Location × Node)) :
    (setNode location node nodes).lookup other = nodes.lookup other := by
  have unequal : (other == location) = false := by simpa using apart
  induction nodes with
  | nil => simp [setNode, List.lookup_cons, unequal]
  | cons head rest ih =>
    obtain ⟨place, old⟩ := head
    by_cases same : place = location
    · subst same
      simp [setNode, List.lookup_cons, unequal]
    · simp only [setNode, same, if_false, List.lookup_cons, ih]

theorem node?_set_self {disk : Disk} {location : Location} (inside : location ≠ [])
    (node : Node) : (disk.set location node).node? location = some node := by
  simp [node?, set, inside, lookup_setNode_self]

theorem node?_set_of_ne {disk : Disk} {location other : Location} (apart : other ≠ location)
    (node : Node) : (disk.set location node).node? other = disk.node? other := by
  simp [node?, set, lookup_setNode_of_ne apart]

end Disk
end SchemaScaffold
