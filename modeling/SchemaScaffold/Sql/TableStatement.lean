import SchemaScaffold.Sql.Words

/-!
# Table statements

Statements of the form `CREATE TABLE name ( body ) ENGINE`, found anywhere in a text. The body
is the shortest that closes before an engine clause, and no semicolon is in it.
-/

namespace SchemaScaffold
namespace Sql

open Text

/-- One statement that creates a table. -/
structure TableStatement where
  /-- The table's name, without backticks. -/
  name : String
  /-- The text between the outer parentheses. -/
  body : String
deriving DecidableEq, Repr

namespace TableStatement

/-- Read `CREATE TABLE`. -/
def opening (text : List Char) : Option (List Char) :=
  (keyword "CREATE".toList text).bind (spacedKeyword "TABLE")

/-- Read the engine clause behind optional blanks. -/
def engineClause (text : List Char) : Option (List Char) :=
  keyword "ENGINE".toList (trimLeft text)

/-- Read the shortest body that a parenthesis and an engine clause close. -/
def readBody : List Char → Option (List Char × List Char)
  | [] => none
  | c :: rest =>
    if c = ';' then none
    else
      match if c = ')' then engineClause rest else none with
      | some after => some ([], after)
      | none => (readBody rest).map fun (inside, after) => (c :: inside, after)

/-- Read an opening parenthesis behind optional blanks, then a body. -/
def parenthesizedBody (text : List Char) : Option (List Char × List Char) :=
  match trimLeft text with
  | '(' :: rest => readBody rest
  | _ => none

/-- Read a name and a body. -/
def nameAndBody (text : List Char) : Option (TableStatement × List Char) :=
  (spacedName text).bind fun (name, rest) =>
    (parenthesizedBody rest).map fun (inside, after) =>
      (⟨String.ofList name, String.ofList inside⟩, after)

/-- Read a whole statement, with `IF NOT EXISTS` before the name if that leads to one. -/
def read : Matcher TableStatement := fun text =>
  (opening text).bind fun rest =>
    ((ifNotExists rest).bind nameAndBody).or (nameAndBody rest)

/-- Read the statement up to its name. -/
def readName : Matcher String := fun text =>
  (opening text).bind fun rest =>
    (((ifNotExists rest).bind spacedName).or (spacedName rest)).map fun (name, after) =>
      (String.ofList name, after)

/-- All statements of a text, in order. -/
def all (text : List Char) : List TableStatement :=
  scan read text

/-- The names that statements of a text create, each at its first occurrence, whether or not
a body can be read. -/
def names (text : List Char) : List String :=
  firstOccurrences [] (scan readName text)

theorem readBody_no_semicolon {text inside after : List Char}
    (found : readBody text = some (inside, after)) : ';' ∉ inside := by
  induction text generalizing inside with
  | nil => simp [readBody] at found
  | cons c rest ih =>
    simp only [readBody] at found
    split at found
    · simp at found
    · next noSemicolon =>
      split at found
      · simp only [Option.some.injEq, Prod.mk.injEq] at found
        simp [← found.1]
      · obtain ⟨⟨tail, remaining⟩, foundTail, equality⟩ := Option.map_eq_some_iff.1 found
        simp only [Prod.mk.injEq] at equality
        obtain ⟨rfl, rfl⟩ := equality
        simp only [List.mem_cons, not_or]
        exact ⟨fun equal => noSemicolon equal.symm, ih foundTail⟩

end TableStatement
end Sql
end SchemaScaffold
