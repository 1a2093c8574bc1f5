import SchemaScaffold.Disk.Basic

/-!
# Consoles

What a program reads from its user and writes back.
-/

namespace SchemaScaffold

/-- Monads in which a program talks to its user. -/
class MonadConsole (m : Type → Type) where
  /-- Print a text as it is. -/
  print (text : String) : m Unit
  /-- Print a line about a failure. -/
  printError (line : String) : m Unit
  /-- Read a line with its end, or nothing at the end of the input. -/
  readLine : m (Except Disk.Fault String)
  /-- Read all of the input. -/
  readAll : m (Except Disk.Fault String)

/-- What is left of the input, and what has been printed. -/
structure Console where
  input : List Char
  output : String := ""
  errors : String := ""

namespace Console

/-- The first line of a text with its end, and what follows it. -/
def splitLine : List Char → List Char × List Char
  | [] => ([], [])
  | c :: rest =>
    if c = '\n' then ([c], rest)
    else
      let (line, after) := splitLine rest
      (c :: line, after)

/-- Programs that keep a console as their state. -/
instance {m : Type → Type} [Monad m] : MonadConsole (StateT Console m) where
  print text := modify fun console => { console with output := console.output ++ text }
  printError line := modify fun console =>
    { console with errors := String.join [console.errors, line, "\n"] }
  readLine := modifyGet fun console =>
    let (line, rest) := splitLine console.input
    (.ok (String.ofList line), { console with input := rest })
  readAll := modifyGet fun console =>
    (.ok (String.ofList console.input), { console with input := [] })

theorem splitLine_append (text : List Char) :
    (splitLine text).1 ++ (splitLine text).2 = text := by
  induction text with
  | nil => rfl
  | cons c rest ih =>
    simp only [splitLine]
    split
    · simp
    · simp [ih]

end Console
end SchemaScaffold
