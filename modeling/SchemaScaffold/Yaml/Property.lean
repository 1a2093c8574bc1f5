import SchemaScaffold.Yaml.Scalar.Basic

/-!
# Reading names, tags and directives

The names of anchors, the tags of nodes, and the lines in front of a document that say how it is
to be read.
-/

namespace SchemaScaffold
namespace Yaml
namespace Property

def isNameChar (c : Char) : Bool :=
  c.isAlphanum || c == '_' || c == '-'

/-- Characters that may stand behind the name of an anchor. -/
def endsName : List Char → Bool
  | [] => true
  | c :: rest =>
    startsBlank (c :: rest) || c == '?' || c == ':' || c == ',' || c == ']' || c == '\x7d' ||
      c == '%' || c == '@' || c == '\x60'

/-- Read the name of an anchor. -/
def name : Reader (List Char) := fun text =>
  let found := text.takeWhile isNameChar
  let rest := text.dropWhile isNameChar
  if found.isEmpty || !endsName rest then .error (.missingName, rest) else .ok (found, rest)

/-- A handle that stands for the start of a tag, and the rest of the tag. -/
structure Tag where
  handle : List Char
  suffix : List Char
deriving DecidableEq, Repr

/-- Characters of tags; some are only allowed between angles. -/
def isTagChar (angles : Bool) (c : Char) : Bool :=
  isNameChar c || c == ';' || c == '/' || c == '?' || c == ':' || c == '@' || c == '&' ||
    c == '=' || c == '+' || c == '$' || c == '.' || c == '%' || c == '!' || c == '~' ||
    c == '*' || c == '\x27' || c == '(' || c == ')' ||
    (angles && (c == ',' || c == '[' || c == ']'))

/-- The bytes of a tag with its escapes resolved. -/
def tagBytes : List Char → Option (List UInt8)
  | [] => some []
  | '%' :: a :: b :: rest => do
    let value ← Text.ofDigits? 16 [a, b]
    return UInt8.ofNat value :: (← tagBytes rest)
  | c :: rest => if c = '%' then none else (tagBytes rest).map (String.utf8EncodeChar c ++ ·)

/-- Read a part of a tag. It must not be empty unless `optional` is set. -/
def tagText (angles optional : Bool) : Reader (List Char) := fun text =>
  let written := text.takeWhile (isTagChar angles)
  let rest := text.dropWhile (isTagChar angles)
  if written.isEmpty && !optional then .error (.missingTagText, rest)
  else
    match (tagBytes written).bind fun bytes => String.fromUTF8? ⟨bytes.toArray⟩ with
    | some found => .ok (found.toList, rest)
    | none => .error (.badTagEscape, text)

/-- Read a handle: a name between exclamation marks, or one mark alone. The text behind a single
mark is no part of the handle. -/
def handle (text : List Char) : List Char × List Char :=
  let found := (text.drop 1).takeWhile isNameChar
  let rest := (text.drop 1).dropWhile isNameChar
  match rest with
  | '!' :: after => ('!' :: (found ++ ['!']), after)
  | _ => (['!'], text.drop 1)

/-- What may stand behind a tag: a blank, or between brackets a comma. -/
def endTag (flow : Bool) (tag : Tag) (rest : List Char) :
    Except (Problem × List Char) (Tag × List Char) :=
  if startsBlank rest || (flow && rest.head? = some ',') then .ok (tag, rest)
  else .error (.missingBlankOrBreak, rest)

/-- Read a tag that begins with an exclamation mark. -/
def tag (flow : Bool) : Reader Tag := fun text => do
  if (text.drop 1).head? = some '<' then
    let (suffix, rest) ← tagText true false (text.drop 2)
    if rest.head? ≠ some '>' then throw (.missingAngle, rest)
    endTag flow ⟨[], suffix⟩ (rest.drop 1)
  else
    let (found, behind) := handle text
    if found = ['!'] then
      let (suffix, rest) ← tagText false true behind
      endTag flow (if suffix.isEmpty then ⟨[], ['!']⟩ else ⟨['!'], suffix⟩) rest
    else
      let (suffix, rest) ← tagText false false behind
      endTag flow ⟨found, suffix⟩ rest

/-- A line in front of a document. -/
inductive Directive where
  | version (major minor : Nat)
  | tag (handle tagPrefix : List Char)
deriving DecidableEq, Repr

/-- Read one of the two numbers of a version. -/
def versionNumber : Reader Nat := fun text =>
  let digits := text.takeWhile Char.isDigit
  let rest := text.dropWhile Char.isDigit
  if 9 < digits.length then .error (.longVersionNumber, rest)
  else
    match Text.ofDigits? 10 digits with
    | some value => .ok (value, rest)
    | none => .error (.missingVersionNumber, rest)

/-- Read the value of a directive for the version. -/
def version : Reader Directive := fun text => do
  let (major, rest) ← versionNumber (text.dropWhile isBlank)
  match rest with
  | '.' :: after =>
    let (minor, behind) ← versionNumber after
    return (.version major minor, behind)
  | _ => throw (.oddVersionCharacter, rest)

/-- Read the value of a directive for tags. -/
def tagDirective : Reader Directive := fun text => do
  let start := text.dropWhile isBlank
  let (found, rest) := handle start
  if start.head? ≠ some '!' || (found = ['!'] && rest.head?.any isNameChar) then
    throw (.missingTagMark, start)
  if !rest.head?.any isBlank then throw (.missingBlank, rest)
  let (tagPrefix, behind) ← tagText true false (rest.dropWhile isBlank)
  if !startsBlank behind then throw (.missingBlankOrBreak, behind)
  return (.tag found tagPrefix, behind)

/-- Read a directive behind its percent sign. -/
def directive : Reader Directive := fun text => do
  let word := text.takeWhile isNameChar
  let rest := text.dropWhile isNameChar
  if word.isEmpty then throw (.missingDirectiveName, rest)
  if !startsBlank rest then throw (.oddDirectiveName, rest)
  if word = "YAML".toList then version rest
  else if word = "TAG".toList then tagDirective rest
  else throw (.unknownDirective, rest)

end Property
end Yaml
end SchemaScaffold
