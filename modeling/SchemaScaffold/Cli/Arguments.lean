import SchemaScaffold.Schema.Format
import SchemaScaffold.Text.Split

/-!
# Command-line arguments

The commands that a command line can ask for, and how they are read from its words.
-/

namespace SchemaScaffold
namespace Cli

/-- Where the project is that a command writes into. -/
structure ProjectOptions where
  root : Option String
  config : Option String
deriving DecidableEq, Repr

/-- What a command line asks for. -/
inductive Command where
  /-- Generate all files of a project. -/
  | full (sql : Option String) (project : ProjectOptions) (templates database : Option String)
  /-- Generate the collection of requests. -/
  | postman (sql : Option String) (project : ProjectOptions)
  /-- Generate the frame of a project. -/
  | base (project : ProjectOptions) (templates : Option String)
  /-- Print a schema. -/
  | parse (sql : Option String) (withReport : Bool) (format : OutputFormat)
  /-- Print the version of the program. -/
  | version
  /-- Print how the program is used. -/
  | help
deriving DecidableEq, Repr

/-- Why a command line is malformed. -/
inductive UsageFault where
  | missingCommand
  | unknownCommand (word : String)
  | unexpectedArgument (word : String)
  | repeatedArgument (word : String)
  | missingValue (option : String)
  | invalidValue (option value : String)
deriving DecidableEq, Repr

/-- The fault in words. -/
def UsageFault.message : UsageFault → String
  | .missingCommand => "a command is required"
  | .unknownCommand word => String.join ["unrecognized command '", word, "'"]
  | .unexpectedArgument word => String.join ["unexpected argument '", word, "' found"]
  | .repeatedArgument word =>
    String.join ["the argument '", word, "' cannot be used multiple times"]
  | .missingValue option => String.join ["a value is required for '", option, "'"]
  | .invalidValue option value =>
    String.join ["invalid value '", value, "' for '", option, "'"]

/-- What a word of a command line looks like. -/
inductive Word where
  /-- Two dashes: all further words are plain. -/
  | separator
  /-- A long option, with the value behind an equals sign if there is one. -/
  | long (name : String) (value : Option String)
  /-- Letters behind one dash. -/
  | short (letters : List Char)
  | plain (text : String)
deriving DecidableEq, Repr

/-- Take a word apart. A dash alone is a plain word. -/
def Word.ofText (text : String) : Word :=
  match text.toList with
  | ['-', '-'] => .separator
  | '-' :: '-' :: rest =>
    let name := String.ofList ('-' :: '-' :: rest.takeWhile (· != '='))
    match rest.dropWhile (· != '=') with
    | _ :: value => .long name (some (String.ofList value))
    | [] => .long name none
  | '-' :: letter :: letters => .short (letter :: letters)
  | _ => .plain text

/-- Whether a word can be the value of the option before it. -/
def Word.isValue : Word → Bool
  | plain _ => true
  | _ => false

/-- What the value of an option may be. -/
inductive ValueKind where
  /-- A path is not empty. -/
  | path
  | text
  | format
deriving DecidableEq, Repr

/-- Whether a text is a value of a kind. -/
def ValueKind.accepts : ValueKind → String → Bool
  | path, value => !value.isEmpty
  | text, _ => true
  | format, value => (OutputFormat.ofWord? value).isSome

/-- What a command knows. -/
structure Options where
  /-- Options that stand alone. -/
  flags : List String
  /-- Options with a value. -/
  valued : List (String × ValueKind)
  /-- Whether a plain word may name a script. -/
  takesScript : Bool

/-- The words of a command line by their roles. -/
structure Matches where
  flags : List String := []
  values : List (String × String) := []
  script : Option String := none
deriving DecidableEq, Repr

/-- Why the words of a command are not matched to the end. -/
inductive Interruption where
  | fault (fault : UsageFault)
  | help
deriving DecidableEq, Repr

namespace Matches

/-- Note an option that stands alone. -/
def addFlag (found : Matches) (name : String) : Except Interruption Matches :=
  if found.flags.contains name then .error (.fault (.repeatedArgument name))
  else .ok { found with flags := name :: found.flags }

/-- Note an option and its value. -/
def addValue (found : Matches) (kind : ValueKind) (name value : String) :
    Except Interruption Matches :=
  if (found.values.lookup name).isSome then .error (.fault (.repeatedArgument name))
  else if kind.accepts value then .ok { found with values := (name, value) :: found.values }
  else .error (.fault (.invalidValue name value))

/-- Note the script. -/
def addScript (options : Options) (found : Matches) (path : String) :
    Except Interruption Matches :=
  if !options.takesScript || found.script.isSome then
    .error (.fault (.unexpectedArgument path))
  else if path.isEmpty then .error (.fault (.missingValue "[SQL]"))
  else .ok { found with script := some path }

/-- Note letters behind a dash, of which `v` and `h` are known. -/
def addShort (found : Matches) : List Char → Except Interruption Matches
  | [] => .ok found
  | 'v' :: rest => do addShort (← found.addFlag "--verbose") rest
  | 'h' :: _ => .error .help
  | letter :: _ => .error (.fault (.unexpectedArgument (String.ofList ['-', letter])))

/-- Match the words behind a command. -/
def ofWords (options : Options) (found : Matches) : List String → Except Interruption Matches
  | [] => .ok found
  | text :: rest =>
    match Word.ofText text with
    | .separator => rest.foldlM (addScript options) found
    | .plain path => do ofWords options (← found.addScript options path) rest
    | .short letters => do ofWords options (← found.addShort letters) rest
    | .long name (some value) =>
      match options.valued.lookup name with
      | some kind => do ofWords options (← found.addValue kind name value) rest
      | none => .error (.fault (.unexpectedArgument text))
    | .long name none =>
      if name = "--help" then .error .help
      else if options.flags.contains name then do
        ofWords options (← found.addFlag name) rest
      else
        match options.valued.lookup name, rest with
        | none, _ => .error (.fault (.unexpectedArgument text))
        | some _, [] => .error (.fault (.missingValue name))
        | some kind, value :: more => do
          if (Word.ofText value).isValue then
            ofWords options (← found.addValue kind name value) more
          else throw (.fault (.missingValue name))

/-- The value of an option. -/
def value? (found : Matches) (name : String) : Option String :=
  found.values.lookup name

def projectOptions (found : Matches) : ProjectOptions :=
  ⟨found.value? "--root", found.value? "--config"⟩

/-- The format that is asked for. -/
def format (found : Matches) : OutputFormat :=
  ((found.value? "--format").bind OutputFormat.ofWord?).getD .json

end Matches

namespace Command

/-- The options with which a command finds its project. -/
def projectPaths : List (String × ValueKind) :=
  [("--root", .path), ("--config", .path)]

def readFull (words : List String) : Except Interruption Command := do
  let valued := projectPaths ++ [("--templates", .path), ("--database", .text)]
  let found ← Matches.ofWords ⟨["--verbose"], valued, true⟩ {} words
  return .full found.script found.projectOptions (found.value? "--templates")
    (found.value? "--database")

def readPostman (words : List String) : Except Interruption Command := do
  let found ← Matches.ofWords ⟨["--verbose"], projectPaths, true⟩ {} words
  return .postman found.script found.projectOptions

def readBase (words : List String) : Except Interruption Command := do
  let valued := projectPaths ++ [("--templates", .path)]
  let found ← Matches.ofWords ⟨["--verbose"], valued, false⟩ {} words
  return .base found.projectOptions (found.value? "--templates")

def readParse (words : List String) : Except Interruption Command := do
  let options : Options := ⟨["--verbose", "--with-report"], [("--format", .format)], true⟩
  let found ← Matches.ofWords options {} words
  return .parse found.script (found.flags.contains "--with-report") found.format

/-- The commands by name. -/
def readers : List (String × (List String → Except Interruption Command)) :=
  [("full", readFull), ("postman", readPostman), ("base", readBase), ("parse", readParse)]

/-- Read what help is asked about: nothing, or one command. -/
def readHelp (words : List String) : Except Interruption Command :=
  match words with
  | [] => .error .help
  | name :: rest =>
    if !(name = "help" || (readers.lookup name).isSome) then
      .error (.fault (.unknownCommand name))
    else
      match rest with
      | [] => .error .help
      | extra :: _ => .error (.fault (.unknownCommand extra))

/-- Read a command by its name. -/
def readNamed (name : String) (words : List String) : Except Interruption Command :=
  match readers.lookup name with
  | some read => read words
  | none => if name = "help" then readHelp words else .error (.fault (.unknownCommand name))

/-- Read the options in front of a command, and the command. -/
def readWords (found : Matches) : List String → Except Interruption Command
  | [] => .error (.fault .missingCommand)
  | text :: rest =>
    match Word.ofText text with
    | .plain name => readNamed name rest
    | .long "--version" none => .ok .version
    | .long "--help" none => .error .help
    | .long "--verbose" none => do readWords (← found.addFlag "--verbose") rest
    | .short letters =>
      let before := letters.takeWhile (· != 'V')
      do
        let noted ← found.addShort before
        if before.length < letters.length then return .version
        readWords noted rest
    | _ => .error (.fault (.unexpectedArgument text))

/-- The command that a command line asks for. -/
def ofWords (words : List String) : Except UsageFault Command :=
  match readWords {} words with
  | .ok command => .ok command
  | .error .help => .ok .help
  | .error (.fault fault) => .error fault

end Command
end Cli
end SchemaScaffold
