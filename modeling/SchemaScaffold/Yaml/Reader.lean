import SchemaScaffold.Document
import SchemaScaffold.Yaml.Encoding
import SchemaScaffold.Yaml.Node

/-!
# Reading documents

The document that a YAML text denotes. Keys of records must be texts, no two of them the same;
values that are missing or have a tag are no documents.
-/

namespace SchemaScaffold
namespace Yaml

/-- How deep lists and records may stand in one another. -/
def maxDepth : Nat := 128

/-- An integer of 64 bits, with or without a sign, as it is written. -/
def ofInteger? : Int → Option Document
  | .ofNat value => if value < Nat.pow 2 64 then some (.natural value) else none
  | .negSucc value =>
    if value < Nat.pow 2 63 then
      some (.number (String.ofList ('-' :: Text.decimal (value + 1))))
    else none

/-- What a scalar denotes. Between quotes or in a block it is a text. -/
def ofScalar? (style : Style) (tag : Option (List Char)) (text : List Char) : Option Document :=
  if tag.isSome then none
  else if style ≠ .plain then some (.text (String.ofList text))
  else
    match Plain.meaning text with
    | .null => none
    | .bool value => some (.bool value)
    | .integer value => ofInteger? value
    | .float => some (.number (String.ofList text))
    | .text => some (.text (String.ofList text))

/-- The key that a document is. -/
def key? : Document → Option String
  | .text key => some key
  | _ => none

/-- The member that an entry denotes, by a way of reading nodes. -/
def member? (read : Node → Option Document) (entry : Node × Node) :
    Option (String × Document) := do
  return (← (read entry.1).bind key?, ← read entry.2)

namespace Tree

/-- The node that a node stands for. -/
def target? (tree : Tree) : Node → Option Node
  | .reference _ anchor => tree.anchored? anchor
  | node => some node

/-- The document that a node denotes, if lists and records stand in one another no deeper than
`depth`. -/
def document? (tree : Tree) : Nat → Node → Option Document
  | 0, node =>
    match tree.target? node with
    | some (.scalar _ style tag text) => ofScalar? style tag text
    | _ => none
  | depth + 1, node =>
    match tree.target? node with
    | some (.scalar _ style tag text) => ofScalar? style tag text
    | some (.list _ items) => (items.mapM (tree.document? depth)).map .list
    | some (.record _ entries) => do
      let members ← entries.mapM (member? (tree.document? depth))
      if (members.map (·.1)).Nodup then some (.record members) else none
    | _ => none

end Tree

/-- The document in the bytes of a text. -/
def ofBytes? (content : ByteArray) : Option Document :=
  match Encoding.decode content >>= Tree.ofText with
  | .ok (.one tree) => tree.document? maxDepth tree.root
  | _ => none

end Yaml
end SchemaScaffold
