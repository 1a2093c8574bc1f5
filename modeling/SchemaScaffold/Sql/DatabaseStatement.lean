import SchemaScaffold.Sql.Words
import SchemaScaffold.Text.CharClass

/-!
# Database statements

The name of the database that a text creates or, failing that, the one it uses.
-/

namespace SchemaScaffold
namespace Sql
namespace DatabaseStatement

open Text

/-- Read `IF NOT EXISTS` and the blanks behind it. -/
def guardClause (text : List Char) : Option (List Char) :=
  ((keyword "IF".toList text).bind (spacedKeyword "NOT")).bind fun rest =>
    (spacedKeyword "EXISTS" rest).bind blanks

/-- Read `CREATE DATABASE` and a name. -/
def readCreate : Matcher String := fun text =>
  ((keyword "CREATE".toList text).bind (spacedKeyword "DATABASE")).bind fun rest =>
    (blanks rest).bind fun start =>
      (((guardClause start).bind quotedName).or (quotedName start)).map fun (name, after) =>
        (String.ofList name, after)

/-- Read `USE` and a name. -/
def readUse : Matcher String := fun text =>
  ((keyword "USE".toList text).bind spacedName).map fun (name, after) =>
    (String.ofList name, after)

/-- The first `USE` that no word character precedes. -/
def firstUse : Option Char → List Char → Option String
  | _, [] => none
  | before, c :: rest =>
    match if before.any isWordChar then none else readUse (c :: rest) with
    | some (name, _) => some name
    | none => firstUse (some c) rest

/-- The database that a text names. -/
def name? (text : List Char) : Option String :=
  (firstMatch readCreate text).or (firstUse none text)

@[simp] theorem name?_nil : name? [] = none := rfl

end DatabaseStatement
end Sql
end SchemaScaffold
