import SchemaScaffold.Text.Split

/-!
# Path texts

Paths as texts with slashes between names. Two texts may lead to the same place; they are
compared by their components.
-/

namespace SchemaScaffold
namespace Disk
namespace Path

/-- Whether a path starts at the root of the disk. -/
def isAbsolute (path : String) : Bool :=
  path.toList.head? == some '/'

def endsWithSlash (path : String) : Bool :=
  path.toList.getLast? == some '/'

/-- The path of `path` as seen from `base`. -/
def join (base path : String) : String :=
  if isAbsolute path then path
  else if base.isEmpty || endsWithSlash base then base ++ path
  else String.join [base, "/", path]

/-- The pieces of a path between slashes. -/
def pieces (path : String) : List String :=
  (Text.splitOn '/' path.toList).map String.ofList

/-- The names on the way that a path describes. -/
def names (path : String) : List String :=
  (pieces path).filter (· != "")

/-- The names of a path without those that stay in place, but for one that a relative path
starts with; an absolute path starts with a slash. -/
def components (path : String) : List String :=
  match names path with
  | [] => if isAbsolute path then ["/"] else []
  | first :: rest =>
    let moving := rest.filter (· != ".")
    if isAbsolute path then "/" :: (if first = "." then moving else first :: moving)
    else first :: moving

/-- Pieces, last one first, without those at the end that lead nowhere. -/
def dropFiller : List String → List String
  | [] => []
  | [first] => [first]
  | piece :: before =>
    if piece = "" || piece = "." then dropFiller before else piece :: before

/-- The path without its last component, if it has one. -/
def parent? (path : String) : Option String :=
  match dropFiller (pieces path).reverse with
  | [] => none
  | [first] => if first = "" then none else some ""
  | _ :: before =>
    let kept := dropFiller before
    if kept = [""] then some "/" else some (String.intercalate "/" kept.reverse)

/-- A path as seen from a place above it; any other path as it is. -/
def relativeTo (place path : String) : String :=
  if (components place).isPrefixOf (components path) then
    String.intercalate "/" ((components path).drop (components place).length)
  else path

/-- The absolute path of a path that is seen from a place. Names that stay in place are left
out, and a slash at the end is kept. -/
def absolute (place path : String) : String :=
  let moving := (components path).filter fun name => name != "." && name != "/"
  let start :=
    if !isAbsolute path then place
    else if "//".toList.isPrefixOf path.toList && !"///".toList.isPrefixOf path.toList then "//"
    else "/"
  let whole := moving.foldl join start
  if endsWithSlash path then join whole "" else whole

theorem join_of_isAbsolute {path : String} (whole : isAbsolute path = true) (base : String) :
    join base path = path := by
  simp [join, whole]

end Path
end Disk
end SchemaScaffold
