import SchemaScaffold.Json.Token

/-!
# Reading JSON

The value that a JSON text denotes, and access to the members that a reader expects in it.
-/

namespace SchemaScaffold
namespace Json

/-- What a JSON text denotes. -/
inductive Value where
  | null
  | bool (value : Bool)
  | number (literal : String)
  /-- A text; `none` if it has half a character in it. -/
  | text (value : Option String)
  | list (items : List Value)
  /-- Members with their keys; a key is `none` if it has half a character in it. -/
  | record (members : List (Option String × Value))

namespace Value

mutual

/-- Read a value. The fuel bounds the number of steps. -/
def readValue : Nat → List Token → Option (Value × List Token)
  | 0, _ => none
  | _ + 1, [] => none
  | fuel + 1, token :: rest =>
    match token with
    | .null => some (.null, rest)
    | .bool value => some (.bool value, rest)
    | .number literal => some (.number literal, rest)
    | .text value => some (.text value, rest)
    | .openList =>
      match rest with
      | .closeList :: after => some (.list [], after)
      | _ => (readItems fuel rest).map fun (items, after) => (.list items, after)
    | .openRecord =>
      match rest with
      | .closeRecord :: after => some (.record [], after)
      | _ => (readMembers fuel rest).map fun (members, after) => (.record members, after)
    | _ => none

/-- Read one or more values between commas and the end of their list. -/
def readItems : Nat → List Token → Option (List Value × List Token)
  | 0, _ => none
  | fuel + 1, tokens =>
    match readValue fuel tokens with
    | some (item, .comma :: rest) =>
      (readItems fuel rest).map fun (items, after) => (item :: items, after)
    | some (item, .closeList :: after) => some ([item], after)
    | _ => none

/-- Read one or more members between commas and the end of their record. -/
def readMembers : Nat → List Token → Option (List (Option String × Value) × List Token)
  | 0, _ => none
  | fuel + 1, tokens =>
    match tokens with
    | .text key :: .colon :: rest =>
      match readValue fuel rest with
      | some (value, .comma :: more) =>
        (readMembers fuel more).map fun (members, after) => ((key, value) :: members, after)
      | some (value, .closeRecord :: after) => some ([(key, value)], after)
      | _ => none
    | _ => none

end

/-- The value of a list of tokens. -/
def ofTokens? (tokens : List Token) : Option Value :=
  match readValue (2 * tokens.length + 1) tokens with
  | some (value, []) => some value
  | _ => none

/-- The value of a JSON text. -/
def ofText? (text : String) : Option Value :=
  (Token.readAll text.toList).bind ofTokens?

def asText? : Value → Option String
  | text value => value
  | _ => none

def asBool? : Value → Option Bool
  | bool value => some value
  | _ => none

def asList? : Value → Option (List Value)
  | list items => some items
  | _ => none

/-- A text that may be null. -/
def asOptionalText? : Value → Option (Option String)
  | null => some none
  | value => value.asText?.map some

/-- The member of a key, which must not be there twice. -/
def uniqueMember (members : List (Option String × Value)) (key : String) :
    Option (Option Value) :=
  match members.filter (·.1 == some key) with
  | [] => some none
  | [(_, value)] => some (some value)
  | _ => none

/-- The values of the fields of a structure, which is a record with some of these fields and
any others, or a list of the fields in order. -/
def fields (keys : List String) : Value → Option (List (Option Value))
  | record members =>
    if members.all (·.1.isSome) then keys.mapM (uniqueMember members) else none
  | list items =>
    if items.length ≤ keys.length then
      some (items.map some ++ List.replicate (keys.length - items.length) none)
    else none
  | _ => none

end Value
end Json
end SchemaScaffold
