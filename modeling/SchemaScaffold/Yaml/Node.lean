import SchemaScaffold.Yaml.Token

/-!
# Nodes

The tree that a YAML text describes. A node may be named by an anchor, and an alias stands for
the node of a name.
-/

namespace SchemaScaffold
namespace Yaml

/-- A node and the place where it begins. -/
inductive Node where
  | scalar (place : Mark) (style : Style) (tag : Option (List Char)) (text : List Char)
  | list (place : Mark) (items : List Node)
  | record (place : Mark) (entries : List (Node × Node))
  /-- Stands for the node of an anchor's number. -/
  | reference (place : Mark) (anchor : Nat)

namespace Node

/-- The place where a node begins. -/
def place : Node → Mark
  | scalar place .. | list place _ | record place _ | reference place _ => place

/-- A scalar that is not there. -/
def empty (place : Mark) (tag : Option (List Char) := none) : Node :=
  .scalar place .plain tag []

end Node

/-- A document: its root, and the nodes of anchors by their numbers. -/
structure Tree where
  root : Node
  anchors : List (Nat × Node)

namespace Tree

/-- The node that an anchor names. -/
def anchored? (tree : Tree) (anchor : Nat) : Option Node :=
  tree.anchors.lookup anchor

/-- A node with an anchor, in the order of the text. -/
structure Found where
  order : Nat
  anchor : Nat
  node : Node

/-- What is known besides the tokens. -/
structure Context where
  /-- The handles that may stand at the start of tags, and what they stand for. -/
  handles : List (List Char × List Char)
  /-- The number of each anchor's name; a name that comes again takes a new number. -/
  names : List (List Char × Nat) := []
  /-- Number of nodes that have begun. -/
  begun : Nat := 0
  found : List Found := []
  /-- The place of the end of the text. -/
  finish : Mark

/-- Readers of nodes: they take tokens from the front and may fail. -/
abbrev NodeReader (α : Type) := Context → List Token → Except Fault (α × Context × List Token)

/-- The place of the next token. -/
def nextPlace (context : Context) (tokens : List Token) : Mark :=
  match tokens with
  | [] => context.finish
  | token :: _ => token.place

/-- The kind of the next token. -/
def nextKind (tokens : List Token) : Option TokenKind :=
  tokens.head?.map (·.kind)

def fail {α : Type} (context : Context) (tokens : List Token) (problem : Problem)
    (activity : Activity) (start : Mark) : Except Fault α :=
  .error ⟨problem, nextPlace context tokens, some (activity, start)⟩

/-- An anchor and a tag, in any order. -/
structure Properties where
  anchor : Option (List Char) := none
  tag : Option Property.Tag := none

/-- Read the properties in front of a node. -/
def properties : List Token → Properties × List Token
  | ⟨.anchor name, _⟩ :: ⟨.tag tag, _⟩ :: rest => (⟨some name, some tag⟩, rest)
  | ⟨.tag tag, _⟩ :: ⟨.anchor name, _⟩ :: rest => (⟨some name, some tag⟩, rest)
  | ⟨.anchor name, _⟩ :: rest => (⟨some name, none⟩, rest)
  | ⟨.tag tag, _⟩ :: rest => (⟨none, some tag⟩, rest)
  | tokens => ({}, tokens)

/-- A tag with its handle replaced by what that stands for. -/
def fullTag? (handles : List (List Char × List Char)) (tag : Property.Tag) :
    Option (List Char) :=
  if tag.handle.isEmpty then some tag.suffix
  else (handles.lookup tag.handle).map (· ++ tag.suffix)

/-- Give a node's anchor a number. As many names as there are so far make the number of the
next, also if its name is one of them. -/
def nameAnchor (context : Context) (name : List Char) : Nat × Context :=
  let number := context.names.length
  let others := context.names.filter (·.1 != name)
  (number, { context with names := (name, number) :: others })

/-- What may stand at the place of a node. -/
structure Setting where
  /-- Collections may be written as blocks. -/
  block : Bool
  /-- A list may begin with a dash without being indented. -/
  dashes : Bool

def Setting.inBlock : Setting := ⟨true, false⟩
def Setting.inRecord : Setting := ⟨true, true⟩
def Setting.inFlow : Setting := ⟨false, false⟩

/-- Kinds of tokens that come behind a node that is not there, in a record of a block. -/
def endsMember : Option TokenKind → Bool
  | some .key | some .value | some .blockEnd => true
  | _ => false

def endsItem : Option TokenKind → Bool
  | some .entry | some .blockEnd => true
  | _ => false

def endsDashed (kind : Option TokenKind) : Bool :=
  kind == some .entry || endsMember kind

def endsFlowItem : Option TokenKind → Bool
  | some .value | some .comma | some .flowListEnd => true
  | _ => false

def endsFlowMember : Option TokenKind → Bool
  | some .value | some .comma | some .flowRecordEnd => true
  | _ => false

/-- Begin a node: count it, and give its anchor a number. The answer is its place in the order
and its number. -/
def begin (context : Context) (anchor : Option (List Char)) :
    Nat × Option Nat × Context :=
  let counted := { context with begun := context.begun + 1 }
  match anchor with
  | none => (context.begun, none, counted)
  | some name =>
    let (number, named) := nameAnchor counted name
    (context.begun, some number, named)

/-- Note a node under the number of its anchor. -/
def note (order : Nat) (number : Option Nat) (node : Node) (context : Context) : Context :=
  match number with
  | none => context
  | some anchor => { context with found := ⟨order, anchor, node⟩ :: context.found }

mutual

/-- Read a node. The fuel bounds the number of steps, here and below. -/
def readNode : Nat → Setting → NodeReader Node
  | 0, _, context, tokens => fail context tokens .missingContent .node context.finish
  | fuel + 1, setting, context, tokens =>
    match tokens with
    | ⟨.reference name, place⟩ :: rest =>
      match context.names.lookup name with
      | some number =>
        .ok (.reference place number, { context with begun := context.begun + 1 }, rest)
      | none => .error ⟨.unknownAnchor, place, none⟩
    | _ => do
      let start := nextPlace context tokens
      let (given, rest) := properties tokens
      let tag ← match given.tag with
        | none => pure none
        | some tag =>
          match fullTag? context.handles tag with
          | some full => pure (some full)
          | none => fail context tokens .unknownTagHandle .node start
      let (order, number, begun) := begin context given.anchor
      let (node, after, behind) ← readContent fuel setting start tag
        (given.anchor.isSome || given.tag.isSome) begun rest
      return (node, note order number node after, behind)

/-- Read what stands behind the properties of a node. -/
def readContent : Nat → Setting → Mark → Option (List Char) → Bool → NodeReader Node
  | 0, _, start, _, _, context, tokens => fail context tokens .missingContent .node start
  | fuel + 1, setting, start, tag, hasProperties, context, tokens =>
    let missing : Except Fault (Node × Context × List Token) :=
      if hasProperties then .ok (Node.empty start tag, context, tokens)
      else
        fail context tokens .missingContent (if setting.block then .blockNode else .flowNode) start
    match tokens with
    | ⟨.scalar style text, _⟩ :: rest => .ok (.scalar start style tag text, context, rest)
    | ⟨.flowListStart, place⟩ :: rest => do
      let (items, after, behind) ← readFlowItems fuel place true context rest
      return (.list start items, after, behind)
    | ⟨.flowRecordStart, place⟩ :: rest => do
      let (entries, after, behind) ← readFlowMembers fuel place true context rest
      return (.record start entries, after, behind)
    | ⟨.blockListStart, place⟩ :: rest =>
      if setting.block then do
        let (items, after, behind) ← readItems fuel place context rest
        return (.list start items, after, behind)
      else missing
    | ⟨.blockRecordStart, place⟩ :: rest =>
      if setting.block then do
        let (entries, after, behind) ← readMembers fuel place context rest
        return (.record start entries, after, behind)
      else missing
    | ⟨.entry, _⟩ :: _ =>
      if setting.dashes then do
        let (items, after, behind) ← readDashed fuel context tokens
        return (.list start items, after, behind)
      else missing
    | _ => missing

/-- Read a node unless the next token shows that there is none. -/
def readOptional : Nat → Setting → (Option TokenKind → Bool) → NodeReader Node
  | 0, _, _, context, tokens => fail context tokens .missingContent .node context.finish
  | fuel + 1, setting, ends, context, tokens =>
    if ends (nextKind tokens) then
      .ok (Node.empty (nextPlace context tokens),
        { context with begun := context.begun + 1 }, tokens)
    else readNode fuel setting context tokens

/-- Read the items of a list in a block. -/
def readItems : Nat → Mark → NodeReader (List Node)
  | 0, start, context, tokens => fail context tokens .missingDash .blockList start
  | fuel + 1, start, context, tokens =>
    match tokens with
    | ⟨.entry, _⟩ :: rest => do
      let (item, after, behind) ← readOptional fuel .inBlock endsItem context rest
      let (items, last, following) ← readItems fuel start after behind
      return (item :: items, last, following)
    | ⟨.blockEnd, _⟩ :: rest => .ok ([], context, rest)
    | _ => fail context tokens .missingDash .blockList start

/-- Read the items of a list that is not indented. -/
def readDashed : Nat → NodeReader (List Node)
  | 0, context, tokens => .ok ([], context, tokens)
  | fuel + 1, context, tokens =>
    match tokens with
    | ⟨.entry, _⟩ :: rest => do
      let (item, after, behind) ← readOptional fuel .inBlock endsDashed context rest
      let (items, last, following) ← readDashed fuel after behind
      return (item :: items, last, following)
    | _ => .ok ([], context, tokens)

/-- Read the members of a record in a block. -/
def readMembers : Nat → Mark → NodeReader (List (Node × Node))
  | 0, start, context, tokens => fail context tokens .missingKey .blockRecord start
  | fuel + 1, start, context, tokens =>
    match tokens with
    | ⟨.key, _⟩ :: rest => do
      let (key, after, behind) ← readOptional fuel .inRecord endsMember context rest
      let (value, next, more) ← readValue fuel .inRecord endsMember after behind
      let (entries, last, following) ← readMembers fuel start next more
      return ((key, value) :: entries, last, following)
    | ⟨.blockEnd, _⟩ :: rest => .ok ([], context, rest)
    | _ => fail context tokens .missingKey .blockRecord start

/-- Read the value behind a key; without a colon it is empty. -/
def readValue : Nat → Setting → (Option TokenKind → Bool) → NodeReader Node
  | 0, _, _, context, tokens => fail context tokens .missingContent .node context.finish
  | fuel + 1, setting, ends, context, tokens =>
    match tokens with
    | ⟨.value, _⟩ :: rest => readOptional fuel setting ends context rest
    | _ => .ok (Node.empty (nextPlace context tokens),
        { context with begun := context.begun + 1 }, tokens)

/-- Read the items of a list between brackets. -/
def readFlowItems : Nat → Mark → Bool → NodeReader (List Node)
  | 0, start, _, context, tokens => fail context tokens .missingListEnd .flowList start
  | fuel + 1, start, first, context, tokens =>
    let proceed (tokens : List Token) : Except Fault (List Node × Context × List Token) :=
      match tokens with
      | ⟨.flowListEnd, _⟩ :: rest => .ok ([], context, rest)
      | ⟨.key, place⟩ :: rest => do
        let (entry, after, behind) ← readPair fuel
          { context with begun := context.begun + 1 } rest
        let (items, last, following) ← readFlowItems fuel start false after behind
        return (.record place [entry] :: items, last, following)
      | _ => do
        let (item, after, behind) ← readNode fuel .inFlow context tokens
        let (items, last, following) ← readFlowItems fuel start false after behind
        return (item :: items, last, following)
    match first, tokens with
    | true, _ | _, ⟨.flowListEnd, _⟩ :: _ => proceed tokens
    | false, ⟨.comma, _⟩ :: rest => proceed rest
    | false, _ => fail context tokens .missingListEnd .flowList start

/-- Read a key and its value that make an item of a list. Where the key is not there, the token
behind it is passed over. -/
def readPair : Nat → NodeReader (Node × Node)
  | 0, context, tokens => fail context tokens .missingContent .node context.finish
  | fuel + 1, context, tokens => do
    let empty := Node.empty (nextPlace context tokens)
    let (key, after, behind) ←
      if endsFlowItem (nextKind tokens) then
        pure (empty, { context with begun := context.begun + 1 }, tokens.drop 1)
      else readNode fuel .inFlow context tokens
    let (value, last, following) ← readValue fuel .inFlow
      (fun kind => kind == some .comma || kind == some .flowListEnd) after behind
    return ((key, value), last, following)

/-- Read the members of a record between braces. A member without a mark for its key has no
value. -/
def readFlowMembers : Nat → Mark → Bool → NodeReader (List (Node × Node))
  | 0, start, _, context, tokens => fail context tokens .missingRecordEnd .flowRecord start
  | fuel + 1, start, first, context, tokens =>
    let proceed (tokens : List Token) :
        Except Fault (List (Node × Node) × Context × List Token) :=
      match tokens with
      | ⟨.flowRecordEnd, _⟩ :: rest => .ok ([], context, rest)
      | ⟨.key, _⟩ :: rest => do
        let (key, after, behind) ← readOptional fuel .inFlow endsFlowMember context rest
        let (value, next, more) ← readValue fuel .inFlow
          (fun kind => kind == some .comma || kind == some .flowRecordEnd) after behind
        let (entries, last, following) ← readFlowMembers fuel start false next more
        return ((key, value) :: entries, last, following)
      | _ => do
        let (key, after, behind) ← readNode fuel .inFlow context tokens
        let value := Node.empty (nextPlace after behind)
        let (entries, last, following) ← readFlowMembers fuel start false
          { after with begun := after.begun + 1 } behind
        return ((key, value) :: entries, last, following)
    match first, tokens with
    | true, _ | _, ⟨.flowRecordEnd, _⟩ :: _ => proceed tokens
    | false, ⟨.comma, _⟩ :: rest => proceed rest
    | false, _ => fail context tokens .missingRecordEnd .flowRecord start

end

/-- The handles that stand for something in every document. -/
def commonHandles : List (List Char × List Char) :=
  [(['!'], ['!']), (['!', '!'], "tag:yaml.org,2002:".toList)]

/-- Versions of the format that can be read. -/
def isKnownVersion (major minor : Nat) : Bool :=
  major = 1 && (minor = 1 || minor = 2)

/-- Read the directives in front of a document. The answer is the handles they declare. -/
def directives (versioned : Bool) (handles : List (List Char × List Char)) :
    List Token → Except Fault (List (List Char × List Char) × List Token)
  | ⟨.directive (.version major minor), place⟩ :: rest =>
    if versioned then .error ⟨.repeatedVersion, place, none⟩
    else if !isKnownVersion major minor then .error ⟨.wrongVersion, place, none⟩
    else directives true handles rest
  | ⟨.directive (.tag handle tagPrefix), place⟩ :: rest =>
    if (handles.lookup handle).isSome then .error ⟨.repeatedTagHandle, place, none⟩
    else directives versioned ((handle, tagPrefix) :: handles) rest
  | tokens => .ok (handles, tokens)

def isDirective : Option TokenKind → Bool
  | some (.directive _) => true
  | _ => false

/-- Kinds of tokens that come behind a document without content. -/
def endsDocument (kind : Option TokenKind) : Bool :=
  kind == none || kind == some .documentStart || kind == some .documentEnd || isDirective kind

/-- The nodes of anchors by number; of several with one number the last that began. -/
def anchorTable (found : List Found) : List (Nat × Node) :=
  (found.mergeSort fun first second => second.order ≤ first.order).map fun entry =>
    (entry.anchor, entry.node)

/-- Read the content of a document. -/
def readRoot (explicit : Bool) (context : Context) (tokens : List Token) :
    Except Fault (Tree × List Token) := do
  let fuel := 4 * tokens.length + 4
  let (root, after, rest) ←
    if explicit then readOptional fuel .inBlock endsDocument context tokens
    else readNode fuel .inBlock context tokens
  return (⟨root, anchorTable after.found⟩, rest)

/-- Read a document and what precedes it. `bare` documents need no mark at their start. -/
def readDocument (bare : Bool) (finish : Mark) (tokens : List Token) :
    Except Fault (Tree × List Token) := do
  let (handles, rest) ← directives false [] tokens
  let context : Context := { handles := handles ++ commonHandles, finish }
  match rest with
  | ⟨.documentStart, _⟩ :: content => readRoot true context content
  | _ =>
    if bare && !isDirective (nextKind tokens) then readRoot false context rest
    else .error ⟨.missingDocumentStart, nextPlace context rest, none⟩

def isDocumentEnd (token : Token) : Bool :=
  token.kind = .documentEnd

/-- What a text holds. -/
inductive Content where
  /-- Nothing but blanks and comments. -/
  | nothing
  | one (tree : Tree)
  | several

/-- The content of a list of tokens. -/
def ofTokens (tokens : List Token) (finish : Mark) : Except Fault Content :=
  if tokens.isEmpty then .ok .nothing
  else do
    let (tree, rest) ← readDocument true finish tokens
    let behind := rest.dropWhile isDocumentEnd
    if behind.isEmpty then return .one tree
    let _ ← readDocument false finish behind
    return .several

/-- The content of a text. -/
def ofText (text : List Char) : Except Fault Content := do
  let (tokens, finish) ← Token.ofText text
  ofTokens tokens finish

end Tree
end Yaml
end SchemaScaffold
