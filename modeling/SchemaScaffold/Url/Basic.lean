import SchemaScaffold.Url.Host
import SchemaScaffold.Url.Path

/-!
# Absolute addresses

The parts of an address: scheme, host, port and path. What follows a question mark or a number
sign is no part of them.
-/

namespace SchemaScaffold

/-- An absolute address. -/
structure Url where
  scheme : List Char
  host : Option Url.Host
  /-- The port, unless it is the usual one of the scheme. -/
  port : Option Nat
  /-- The segments of the path, or none if the path is no list of segments. -/
  segments : List (List Char)
deriving DecidableEq, Repr

namespace Url

/-- The kinds of schemes by how their addresses are read. -/
inductive SchemeKind where
  | file
  | web
  | other
deriving DecidableEq, Repr

/-- The schemes of the web and their usual ports. -/
def webPorts : List (List Char × Nat) :=
  [("http".toList, 80), ("https".toList, 443), ("ws".toList, 80), ("wss".toList, 443),
    ("ftp".toList, 21)]

/-- The kind of a scheme. -/
def SchemeKind.ofScheme (scheme : List Char) : SchemeKind :=
  if scheme = "file".toList then .file
  else if (webPorts.lookup scheme).isSome then .web
  else .other

def isSchemeChar (c : Char) : Bool :=
  c.isAlphanum || c == '+' || c == '-' || c == '.'

/-- Read a scheme and the colon behind it. -/
def scheme? (text : List Char) : Option (List Char × List Char) :=
  match text.head?, text.dropWhile isSchemeChar with
  | some first, ':' :: rest =>
    if first.isAlpha then some ((text.takeWhile isSchemeChar).map Char.toLower, rest) else none
  | _, _ => none

/-- Characters that end the authority; the backslash is one where it counts as a slash. -/
def endsAuthority (backslashes : Bool) (c : Char) : Bool :=
  c == '/' || c == '?' || c == '#' || (backslashes && c == '\\')

def isSlash (backslashes : Bool) (c : Char) : Bool :=
  c == '/' || (backslashes && c == '\\')

/-- A text up to the query and the fragment. -/
def beforeQuery (text : List Char) : List Char :=
  text.takeWhile fun c => c != '?' && c != '#'

/-- A text without one slash in front. -/
def dropSlash (backslashes : Bool) : List Char → List Char
  | [] => []
  | c :: rest => if isSlash backslashes c then rest else c :: rest

/-- What stands before the last at sign, and what stands behind it. -/
def splitUser (authority : List Char) : Option (List Char) × List Char :=
  if authority.contains '@' then
    let host := (authority.reverse.takeWhile (· != '@')).reverse
    (some (authority.take (authority.length - host.length - 1)), host)
  else (none, authority)

/-- Split a host from the colon and what follows it. A colon between brackets is a part of the
host. -/
def splitHost (bracketed : Bool) : List Char → List Char × List Char
  | [] => ([], [])
  | c :: rest =>
    if c = ':' && !bracketed then ([], c :: rest)
    else
      let inside := c = '[' || (bracketed && c != ']')
      let (host, after) := splitHost inside rest
      (c :: host, after)

/-- Read a port behind its colon, and what follows it before the path. -/
def port? (usual : Option Nat) : List Char → Except Fault (Option Nat × List Char)
  | ':' :: text =>
    let digits := text.takeWhile Char.isDigit
    let rest := text.dropWhile Char.isDigit
    let value := (Text.ofDigits? 10 digits).filter fun number => some number != usual
    if value.any (65535 < ·) || !(rest.isEmpty || rest.head? = some '\\') then
      .error .invalidPort
    else .ok (value, rest)
  | rest => .ok (none, rest)

/-- The segments of the path that a text begins with. -/
def pathSegments (backslashes : Bool) (text : List Char) : List (List Char) :=
  let path := beforeQuery text
  if path.isEmpty then [] else Path.ofText backslashes (dropSlash backslashes path)

/-- Read an authority and the path behind it. -/
def ofAuthority (scheme text : List Char) : Except Fault Url := do
  let web := SchemeKind.ofScheme scheme = .web
  let authority := text.takeWhile fun c => !endsAuthority web c
  let rest := text.dropWhile fun c => !endsAuthority web c
  let (user, place) := splitUser authority
  let (hostText, portText) := splitHost false place
  if user = some [] && place.isEmpty && !rest.isEmpty then throw .emptyHost
  if web && hostText.isEmpty then throw .emptyHost
  let host ← if web then Host.ofDomain hostText else Host.ofName hostText
  if hostText.isEmpty && !portText.isEmpty then throw .emptyHost
  let (port, behind) ← port? (webPorts.lookup scheme) portText
  if hostText.isEmpty && user.any (fun value => !value.isEmpty && value != [':']) then
    throw .emptyHost
  return {
    scheme
    host := if hostText.isEmpty then none else some host
    port
    segments := pathSegments web (behind ++ rest) }

/-- The address of a file on this machine. -/
def localFile (path : List Char) : Url :=
  ⟨"file".toList, none, none, Path.ofFileText (beforeQuery path)⟩

/-- Read the host of a file and the path behind it. -/
def ofFileHost (text : List Char) : Except Fault Url := do
  let hostText := text.takeWhile fun c => !endsAuthority true c
  let rest := text.dropWhile fun c => !endsAuthority true c
  if Path.isDriveLetter hostText then return localFile text
  let file := localFile (dropSlash true rest)
  if hostText.isEmpty then return file
  let host ← Host.ofDomain hostText
  if host = .name "localhost".toList || file.segments.head?.any Path.isDriveLetter then
    return file
  return { file with host := some host }

/-- Read what follows the colon in the address of a file. -/
def ofFile (text : List Char) : Except Fault Url :=
  match text with
  | a :: b :: rest =>
    if isSlash true a && isSlash true b then ofFileHost rest
    else .ok (localFile (dropSlash true text))
  | _ => .ok (localFile (dropSlash true text))

/-- A text without control characters and spaces at its ends, and without tabs and line breaks
inside. -/
def clean (text : List Char) : List Char :=
  let isEdge (c : Char) : Bool := c.toNat ≤ 0x20
  let trimmed := ((text.dropWhile isEdge).reverse.dropWhile isEdge).reverse
  trimmed.filter fun c => c != '\t' && c != '\n' && c != '\r'

/-- Read what follows the colon in an address of a scheme that is not of the web. -/
def ofOther (scheme text : List Char) : Except Fault Url :=
  match text with
  | '/' :: '/' :: rest => ofAuthority scheme rest
  | '/' :: rest => .ok ⟨scheme, none, none, Path.ofText false (beforeQuery rest)⟩
  | _ => .ok ⟨scheme, none, none, []⟩

/-- Read an absolute address. -/
def parse (text : String) : Except Fault Url :=
  match scheme? (clean text.toList) with
  | none => .error .noScheme
  | some (scheme, rest) =>
    match SchemeKind.ofScheme scheme with
    | .file => ofFile rest
    | .web => ofAuthority scheme (rest.dropWhile (isSlash true))
    | .other => ofOther scheme rest

end Url
end SchemaScaffold
