import SchemaScaffold.Config
import SchemaScaffold.Yaml.Encoding
import SchemaScaffold.Yaml.Node

/-!
# Reading configurations

A configuration is a record of known fields, any of which may be left out; others are passed
over.
-/

namespace SchemaScaffold
namespace Config

open Yaml (Node Tree Mark)

/-- What is read instead of what was expected. -/
inductive Unexpected where
  | nothing
  | bool (value : Bool)
  | integer (value : Int)
  | float (literal : List Char)
  | text (value : List Char)
  | list
  | record

/-- What is expected at a place. -/
inductive Expected where
  | text
  | path
  | port
  | field
  | config
  | api
  | env

/-- Why a document is no configuration. -/
inductive Mismatch where
  | wrongType (found : Unexpected) (expected : Expected)
  | portTooLarge (value : Nat)
  | repeatedField (name : String)

/-- A mismatch, its place, and the fields that lead there. -/
structure ReadFault where
  mismatch : Mismatch
  place : Mark
  fields : List String

def Unexpected.words : Unexpected → String
  | nothing => "unit value"
  | bool value => String.join ["boolean `", if value then "true" else "false", "`"]
  | integer (.ofNat value) => String.ofList ("integer `".toList ++ Text.decimal value ++ ['\x60'])
  | integer (.negSucc value) =>
    String.ofList ("integer `-".toList ++ Text.decimal (value + 1) ++ ['\x60'])
  | float literal => String.ofList ("floating point `".toList ++ literal ++ ['\x60'])
  | text value => String.ofList ("string \x22".toList ++ value ++ ['\x22'])
  | list => "sequence"
  | record => "map"

def Expected.words : Expected → String
  | text => "a string"
  | path => "path string"
  | port => "u16"
  | field => "field identifier"
  | config => "struct GeneratorConfig"
  | api => "struct ApiConfig"
  | env => "struct EnvDefaults"

def Mismatch.words : Mismatch → String
  | wrongType found expected =>
    String.join ["invalid type: ", found.words, ", expected ", expected.words]
  | portTooLarge value =>
    String.join ["invalid value: ", (Unexpected.integer (Int.ofNat value)).words, ", expected u16"]
  | repeatedField name => String.join ["duplicate field `", name, "`"]

/-- The fault in words. -/
def ReadFault.message (fault : ReadFault) : String :=
  let way := if fault.fields.isEmpty then "" else String.intercalate "." fault.fields ++ ": "
  String.join [way, fault.mismatch.words, Yaml.placeText fault.place]

/-- A tree and the fields that lead to the place that is read. -/
structure Position where
  tree : Tree
  fields : List String := []

namespace Position

/-- The position in a field. -/
def within (position : Position) (name : String) : Position :=
  { position with fields := position.fields ++ [name] }

def fail {α : Type} (position : Position) (place : Mark) (mismatch : Mismatch) :
    Except ReadFault α :=
  .error ⟨mismatch, place, position.fields⟩

/-- The node that a node stands for. -/
def target (position : Position) : Node → Node
  | .reference place anchor => (position.tree.anchored? anchor).getD (Node.empty place)
  | node => node

end Position

/-- What a scalar is, seen as a value of any type. -/
def unexpectedScalar (style : Yaml.Style) (text : List Char) : Unexpected :=
  if style ≠ .plain then .text text
  else
    match Yaml.Plain.meaning text with
    | .null => .nothing
    | .bool value => .bool value
    | .integer value => .integer value
    | .float => .float text
    | .text => .text text

/-- What a node is, seen as a value of any type. -/
def unexpected : Node → Unexpected
  | .scalar _ style _ text => unexpectedScalar style text
  | .list .. => .list
  | .record .. => .record
  | .reference .. => .nothing

/-- Read a text, which any scalar is. -/
def readText (position : Position) (expected : Expected) (node : Node) :
    Except ReadFault String :=
  match position.target node with
  | .scalar _ _ _ text => .ok (String.ofList text)
  | other => position.fail other.place (.wrongType (unexpected other) expected)

/-- Whether a scalar may denote a number: it is plain, or a literal block with the tag of
integers. -/
def mayBeNumber (style : Yaml.Style) (tag : Option (List Char)) : Bool :=
  style = .plain || (style = .literal && tag = some "tag:yaml.org,2002:int".toList)

/-- Read a port. -/
def readPort (position : Position) (node : Node) : Except ReadFault UInt16 :=
  match position.target node with
  | .scalar place style tag text =>
    let limit := Nat.pow 2 64
    let number := if mayBeNumber style tag then Yaml.Plain.unsigned? limit text else none
    match number with
    | some value =>
      if value < 65536 then .ok (UInt16.ofNat value)
      else position.fail place (.portTooLarge value)
    | none => position.fail place (.wrongType (unexpectedScalar style text) .port)
  | other => position.fail other.place (.wrongType (unexpected other) .port)

/-- Sets the field of a name from a node, or is none if there is no such field. -/
abbrev Setter (α : Type) := Position → String → Node → α → Option (Except ReadFault α)

/-- Set fields one after another; `seen` are the names of those that have been set. -/
def readEntries {α : Type} (position : Position) (place : Mark) (set : Setter α) :
    List String → α → List (Node × Node) → Except ReadFault α
  | _, value, [] => .ok value
  | seen, value, (key, node) :: rest => do
    let name ← readText position .field key
    match set (position.within name) name node value with
    | none => readEntries position place set seen value rest
    | some next =>
      if seen.contains name then position.fail place (.repeatedField name)
      else readEntries position place set (name :: seen) (← next) rest

/-- Read a record over a value with which its fields begin. A scalar that is not there is a
record without fields. -/
def readRecord {α : Type} (position : Position) (expected : Expected) (set : Setter α)
    (value : α) (node : Node) : Except ReadFault α :=
  match position.target node with
  | .record place entries => readEntries position place set [] value entries
  | .scalar place style _ text =>
    if style = .plain && text.isEmpty then .ok value
    else position.fail place (.wrongType (unexpectedScalar style text) expected)
  | other => position.fail other.place (.wrongType (unexpected other) expected)

def setApi : Setter ApiSettings := fun position name node api =>
  let text := readText position .text node
  match name with
  | "title" => some (text.map ({ api with title := · }))
  | "version" => some (text.map ({ api with version := · }))
  | "description" => some (text.map ({ api with description := · }))
  | "base_url" => some (text.map ({ api with baseUrl := · }))
  | "collection_name" => some (text.map ({ api with collectionName := · }))
  | "collection_description" => some (text.map ({ api with collectionDescription := · }))
  | _ => none

def setEnv : Setter EnvSettings := fun position name node env =>
  let text := readText position .text node
  let port := readPort position node
  match name with
  | "port" => some (port.map ({ env with port := · }))
  | "db_host" => some (text.map ({ env with dbHost := · }))
  | "db_port" => some (port.map ({ env with dbPort := · }))
  | "db_user" => some (text.map ({ env with dbUser := · }))
  | "db_password" => some (text.map ({ env with dbPassword := · }))
  | _ => none

def setConfig : Setter Config := fun position name node config =>
  let path := readText position .path node
  match name with
  | "project_root" => some (path.map ({ config with projectRoot := · }))
  | "templates_dir" => some (path.map ({ config with templatesDir := · }))
  | "base_templates_dir" => some (path.map ({ config with baseTemplatesDir := · }))
  | "sql_path" => some (path.map ({ config with sqlPath := · }))
  | "api" =>
    some ((readRecord position .api setApi {} node).map ({ config with api := · }))
  | "env" =>
    some ((readRecord position .env setEnv {} node).map ({ config with env := · }))
  | _ => none

/-- The configuration that a tree describes. -/
def ofTree (tree : Tree) : Except ReadFault Config :=
  readRecord { tree } .config setConfig {} tree.root

/-- What is said of a text with more than one document. -/
def severalDocuments : String :=
  "deserializing from YAML containing more than one document is not supported"

/-- The configuration in a text; what it leaves out is as it is without a configuration. The
reason for a failure is given in words. -/
def ofChars (text : List Char) : Except String Config := do
  match ← (Tree.ofText text).mapError Yaml.Fault.message with
  | .nothing => return {}
  | .one tree => (ofTree tree).mapError ReadFault.message
  | .several => throw severalDocuments

/-- The configuration in the bytes of a file. -/
def ofBytes (content : ByteArray) : Except String Config := do
  ofChars (← (Yaml.Encoding.decode content).mapError Yaml.Fault.message)

end Config
end SchemaScaffold
