import SchemaScaffold.Text.LetterCase
import SchemaScaffold.Text.Split

/-!
# Entity names

The names that code uses for the rows of a table: the singular of the table's name, written
in words run together with capitals.
-/

namespace SchemaScaffold

/-- The names derived from one table name. -/
structure EntityNames where
  table : String
  singular : String
  /-- The singular with every word capitalized. -/
  pascal : String
  /-- The same with a small first letter. -/
  camel : String
deriving DecidableEq, Repr

namespace EntityNames

/-- Singular of a noun, by its ending: `ies` becomes `y`, `ses` and other `s` lose what made
the plural, and `ss` is no plural. -/
def singularChars (noun : List Char) : List Char :=
  if "ies".toList.isSuffixOf noun then noun.take (noun.length - 3) ++ ['y']
  else if "ses".toList.isSuffixOf noun then noun.take (noun.length - 2)
  else if "s".toList.isSuffixOf noun && !"ss".toList.isSuffixOf noun then
    noun.take (noun.length - 1)
  else noun

/-- The words between underscores, each capitalized, run together. -/
def pascalChars (text : List Char) : List Char :=
  (Text.splitOn '_' text).flatMap Text.capitalize

/-- The words run together, the first letter small. -/
def camelChars (text : List Char) : List Char :=
  Text.uncapitalize (pascalChars text)

/-- Singular of a noun. -/
def singularize (noun : String) : String :=
  String.ofList (singularChars noun.toList)

/-- Words between underscores written as `PascalCase`. -/
def toPascalCase (text : String) : String :=
  String.ofList (pascalChars text.toList)

/-- Words between underscores written as `camelCase`. -/
def toCamelCase (text : String) : String :=
  String.ofList (camelChars text.toList)

/-- All names of a table's entity. -/
def ofTable (table : String) : EntityNames where
  table
  singular := singularize table
  pascal := toPascalCase (singularize table)
  camel := toCamelCase (singularize table)

@[simp] theorem ofTable_table (table : String) : (ofTable table).table = table := rfl

@[simp] theorem pascalChars_nil : pascalChars [] = [] := rfl

end EntityNames
end SchemaScaffold
