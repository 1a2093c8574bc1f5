import SchemaScaffold.Yaml.Style

/-!
# Faults of YAML texts

What can be wrong with a YAML text, and where.
-/

namespace SchemaScaffold
namespace Yaml

/-- A place in a text. All counts start at zero. -/
structure Mark where
  line : Nat := 0
  column : Nat := 0
  /-- Number of characters before the place. -/
  index : Nat := 0
deriving DecidableEq, Repr

namespace Mark

/-- The place behind characters that start at a place. -/
def after (mark : Mark) : List Char → Mark
  | [] => mark
  | '\r' :: '\n' :: rest => after ⟨mark.line + 1, 0, mark.index + 2⟩ rest
  | c :: rest =>
    if isBreak c then after ⟨mark.line + 1, 0, mark.index + 1⟩ rest
    else after ⟨mark.line, mark.column + 1, mark.index + 1⟩ rest

/-- The place in words. -/
def text (mark : Mark) : String :=
  String.ofList ("line ".toList ++ Text.decimal (mark.line + 1) ++
    " column ".toList ++ Text.decimal (mark.column + 1))

/-- The place is the start of the text. -/
def isStart (mark : Mark) : Bool :=
  mark.line = 0 && mark.column = 0

end Mark

/-- What is wrong. -/
inductive Problem where
  | controlCharacter
  | badEncoding
  | missingColon
  | entryNotAllowed
  | keyNotAllowed
  | valueNotAllowed
  | strayCharacter
  | missingDirectiveName
  | oddDirectiveName
  | unknownDirective
  | lineGoesOn
  | oddVersionCharacter
  | longVersionNumber
  | missingVersionNumber
  | missingTagMark
  | missingBlank
  | missingBlankOrBreak
  | missingName
  | missingAngle
  | missingTagText
  | badTagEscape
  | zeroIndentation
  | tabInIndentation
  | quoteCutOff
  | quoteNotClosed
  | unknownEscape
  | badEscapeDigits
  | badEscapeCode
  | colonInFlow
  | tabBeforeWord
  | missingDocumentStart
  | missingContent
  | unknownTagHandle
  | missingDash
  | missingKey
  | missingListEnd
  | missingRecordEnd
  | repeatedVersion
  | wrongVersion
  | repeatedTagHandle
  | unknownAnchor
deriving DecidableEq, Repr

/-- The problem in words. -/
def Problem.text : Problem → String
  | .controlCharacter => "control characters are not allowed"
  | .badEncoding => "invalid leading UTF-8 octet"
  | .missingColon => "could not find expected ':'"
  | .entryNotAllowed => "block sequence entries are not allowed in this context"
  | .keyNotAllowed => "mapping keys are not allowed in this context"
  | .valueNotAllowed => "mapping values are not allowed in this context"
  | .strayCharacter => "found character that cannot start any token"
  | .missingDirectiveName => "could not find expected directive name"
  | .oddDirectiveName => "found unexpected non-alphabetical character"
  | .unknownDirective => "found unknown directive name"
  | .lineGoesOn => "did not find expected comment or line break"
  | .oddVersionCharacter => "did not find expected digit or '.' character"
  | .longVersionNumber => "found extremely long version number"
  | .missingVersionNumber => "did not find expected version number"
  | .missingTagMark => "did not find expected '!'"
  | .missingBlank => "did not find expected whitespace"
  | .missingBlankOrBreak => "did not find expected whitespace or line break"
  | .missingName => "did not find expected alphabetic or numeric character"
  | .missingAngle => "did not find the expected '>'"
  | .missingTagText => "did not find expected tag URI"
  | .badTagEscape => "did not find URI escaped octet"
  | .zeroIndentation => "found an indentation indicator equal to 0"
  | .tabInIndentation => "found a tab character where an indentation space is expected"
  | .quoteCutOff => "found unexpected document indicator"
  | .quoteNotClosed => "found unexpected end of stream"
  | .unknownEscape => "found unknown escape character"
  | .badEscapeDigits => "did not find expected hexdecimal number"
  | .badEscapeCode => "found invalid Unicode character escape code"
  | .colonInFlow => "found unexpected ':'"
  | .tabBeforeWord => "found a tab character that violates indentation"
  | .missingDocumentStart => "did not find expected <document start>"
  | .missingContent => "did not find expected node content"
  | .unknownTagHandle => "found undefined tag handle"
  | .missingDash => "did not find expected '-' indicator"
  | .missingKey => "did not find expected key"
  | .missingListEnd => "did not find expected ',' or ']'"
  | .missingRecordEnd => "did not find expected ',' or '\x7d'"
  | .repeatedVersion => "found duplicate %YAML directive"
  | .wrongVersion => "found incompatible YAML document"
  | .repeatedTagHandle => "found duplicate %TAG directive"
  | .unknownAnchor => "unknown anchor"

/-- What was being read when a problem came up. -/
inductive Activity where
  | key
  | token
  | directive
  | versionDirective
  | tagDirective
  | anchor
  | reference
  | tag
  | blockScalar
  | quotedScalar
  | escape
  | plainScalar
  | blockNode
  | flowNode
  | node
  | blockList
  | blockRecord
  | flowList
  | flowRecord
deriving DecidableEq, Repr

/-- The activity in words. -/
def Activity.text : Activity → String
  | .key => "while scanning a simple key"
  | .token => "while scanning for the next token"
  | .directive => "while scanning a directive"
  | .versionDirective => "while scanning a %YAML directive"
  | .tagDirective => "while scanning a %TAG directive"
  | .anchor => "while scanning an anchor"
  | .reference => "while scanning an alias"
  | .tag => "while scanning a tag"
  | .blockScalar => "while scanning a block scalar"
  | .quotedScalar => "while scanning a quoted scalar"
  | .escape => "while parsing a quoted scalar"
  | .plainScalar => "while scanning a plain scalar"
  | .blockNode => "while parsing a block node"
  | .flowNode => "while parsing a flow node"
  | .node => "while parsing a node"
  | .blockList => "while parsing a block collection"
  | .blockRecord => "while parsing a block mapping"
  | .flowList => "while parsing a flow sequence"
  | .flowRecord => "while parsing a flow mapping"

/-- A problem, its place, and what was being read from which place on. -/
structure Fault where
  problem : Problem
  place : Mark
  during : Option (Activity × Mark) := none
deriving DecidableEq, Repr

/-- A place that is worth to be named, behind a comma or nothing. -/
def placeText (mark : Mark) : String :=
  if mark.isStart then "" else " at " ++ mark.text

/-- The place of a fault behind its problem. What is wrong with a text before lines are told
apart is counted in bytes. -/
def Fault.placeText (fault : Fault) : String :=
  match fault.problem with
  | .controlCharacter | .badEncoding =>
    if fault.place.index = 0 then ""
    else String.ofList (" at position ".toList ++ Text.decimal fault.place.index)
  | _ => Yaml.placeText fault.place

/-- The fault in words. -/
def Fault.message (fault : Fault) : String :=
  let problem := fault.problem.text ++ fault.placeText
  match fault.during with
  | none => problem
  | some (activity, start) =>
    let samePlace := start.line = fault.place.line ∧ start.column = fault.place.column
    String.join [problem, ", ", activity.text, if samePlace then "" else Yaml.placeText start]

end Yaml
end SchemaScaffold
