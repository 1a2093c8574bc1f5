import SchemaScaffold.Text.Search

/-!
# Routes index

The module that mounts one router for each table. A table is registered by two lines, one that
loads its router and one that mounts it; lines that are there already are left alone.
-/

namespace SchemaScaffold
namespace RoutesIndex

/-- The line that loads the router of a table. -/
def requireLine (table : String) : String :=
  String.join ["const ", table, "Routes = require('./", table, "');"]

/-- The line that mounts the router of a table. -/
def useLine (table : String) : String :=
  String.join ["router.use('/", table, "', ", table, "Routes);"]

/-- The declaration behind which routers are loaded. -/
def declaration : List Char :=
  "const router = express.Router();".toList

/-- The statement before which routers are mounted. -/
def exportLine : List Char :=
  "module.exports = router;".toList

/-- Read a line break of either kind, if there is one. -/
def lineBreak : List Char → List Char × List Char
  | '\r' :: '\n' :: rest => (['\r', '\n'], rest)
  | '\n' :: rest => (['\n'], rest)
  | rest => ([], rest)

/-- Put a line behind the first declaration of the router, or on top without one. -/
def insertRequire (line content : List Char) : List Char :=
  match Text.splitAtFirst declaration content with
  | none => line ++ '\n' :: content
  | some (before, found) =>
    let (ending, tail) := lineBreak (found.drop declaration.length)
    before ++ declaration ++ (if ending.isEmpty then ['\n'] else ending) ++ line ++ '\n' :: tail

/-- A text without a line feed and a carriage return at its end. -/
def dropLastBreak (content : List Char) : List Char :=
  let withoutFeed := if content.getLast? = some '\n' then content.dropLast else content
  if withoutFeed.getLast? = some '\r' then withoutFeed.dropLast else withoutFeed

/-- The text before an export that ends the content, but for one line break. -/
def beforeExport? (content : List Char) : Option (List Char) :=
  let trimmed := dropLastBreak content
  if exportLine.isSuffixOf trimmed then
    some (trimmed.take (trimmed.length - exportLine.length))
  else none

/-- Put a line before the export that ends the content, or at the end without one. -/
def insertUse (line content : List Char) : List Char :=
  match beforeExport? content with
  | some before => before ++ line ++ '\n' :: '\n' :: (exportLine ++ ['\n'])
  | none => content ++ '\n' :: (line ++ ['\n'])

/-- Insert a line unless it occurs in the content. -/
def ensure (insert : List Char → List Char → List Char) (line content : List Char) : List Char :=
  if Text.occursIn line content then content else insert line content

/-- Register a table in the characters of an index. -/
def patchChars (table : String) (content : List Char) : List Char :=
  ensure insertUse (useLine table).toList
    (ensure insertRequire (requireLine table).toList content)

/-- Register a table. -/
def patch (content table : String) : String :=
  String.ofList (patchChars table content.toList)

theorem ensure_of_occursIn {insert : List Char → List Char → List Char}
    {line content : List Char} (present : Text.occursIn line content = true) :
    ensure insert line content = content := by
  simp [ensure, present]

end RoutesIndex
end SchemaScaffold
