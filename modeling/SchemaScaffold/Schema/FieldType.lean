import SchemaScaffold.Schema.Column
import SchemaScaffold.Text.Blank

/-!
# Field types

The interface type of a column, found by an ordered list of rules on the text of its
definition, with a sample value for each.
-/

namespace SchemaScaffold

/-- Kinds of values that an interface exchanges. -/
inductive FieldKind where
  | integer
  | number
  | string
deriving DecidableEq, Repr

/-- The word that documents use for a kind. -/
def FieldKind.word : FieldKind → String
  | integer => "integer"
  | number => "number"
  | string => "string"

/-- A kind, narrowed by a format. -/
structure FieldType where
  kind : FieldKind
  format : Option String
deriving DecidableEq, Repr

/-- A value that shows what a field holds. -/
inductive Sample where
  | integer (value : Nat)
  /-- A number with one decimal place. -/
  | number (whole tenths : Nat)
  | text (value : String)
deriving DecidableEq, Repr

/-- The kind of value that a sample is. -/
def Sample.kind : Sample → FieldKind
  | integer _ => .integer
  | number _ _ => .number
  | text _ => .string

/-- A rule accepts definitions in capitals and makes a sample from the text as written. -/
structure TypeRule where
  name : String
  type : FieldType
  accepts : String → Bool
  sample : String → Sample

namespace TypeRule

/-- Whether one of the markers occurs in a text. -/
def mentionsAny (markers : List String) (text : String) : Bool :=
  markers.any fun marker => Text.occursIn marker.toList text.toList

def isQuote (c : Char) : Bool :=
  c == '\x27' || c == '\x22'

/-- A text without the quotes at its ends. -/
def unquote (text : List Char) : List Char :=
  ((text.dropWhile isQuote).reverse.dropWhile isQuote).reverse

/-- The first entry of the list that follows `ENUM(`, unless the list is empty or not closed. -/
def firstEnumEntry (definition : List Char) : Option (List Char) :=
  match Text.splitAtFirst "ENUM(".toList (Text.asciiUpper definition) with
  | none => none
  | some (before, _) =>
    let inner := definition.drop (before.length + 5)
    let entries := inner.takeWhile (· != ')')
    if entries.length = inner.length || entries.isEmpty then none
    else some (unquote (Text.trim (entries.takeWhile (· != ','))))

/-- The sample of an enumeration: its first entry. -/
def enumSample (definition : String) : Sample :=
  match firstEnumEntry definition.toList with
  | some entry => .text (String.ofList entry)
  | none => .text "value"

def integer : TypeRule where
  name := "integer"
  type := ⟨.integer, none⟩
  accepts := mentionsAny ["INT"]
  sample _ := .integer 1

def number : TypeRule where
  name := "number"
  type := ⟨.number, none⟩
  accepts := mentionsAny ["DECIMAL", "NUMERIC", "FLOAT", "DOUBLE"]
  sample _ := .number 1 5

def date : TypeRule where
  name := "date"
  type := ⟨.string, some "date"⟩
  accepts text := mentionsAny ["DATE"] text && !mentionsAny ["DATETIME"] text
  sample _ := .text "2026-02-01"

def dateTime : TypeRule where
  name := "date-time"
  type := ⟨.string, some "date-time"⟩
  accepts := mentionsAny ["DATETIME", "TIMESTAMP"]
  sample _ := .text "2026-02-01 10:00:00"

def enumeration : TypeRule where
  name := "enum"
  type := ⟨.string, none⟩
  accepts := mentionsAny ["ENUM"]
  sample := enumSample

def text : TypeRule where
  name := "text"
  type := ⟨.string, none⟩
  accepts := mentionsAny ["TEXT"]
  sample _ := .text "text"

def char : TypeRule where
  name := "char"
  type := ⟨.string, none⟩
  accepts := mentionsAny ["CHAR"]
  sample _ := .text "string"

/-- Accepts what no other rule does. -/
def fallback : TypeRule where
  name := "fallback"
  type := ⟨.string, none⟩
  accepts _ := true
  sample _ := .text "value"

/-- The rules in the order in which they are tried. -/
def all : List TypeRule :=
  [integer, number, date, dateTime, enumeration, text, char, fallback]

/-- The first rule that accepts a definition in capitals. -/
def firstAccepting (upper : String) : TypeRule :=
  (all.find? (·.accepts upper)).getD fallback

/-- The rule for a definition, whatever the case of its letters. -/
def ofDefinition (definition : String) : TypeRule :=
  firstAccepting (String.ofList (Text.asciiUpper definition.toList))

theorem firstAccepting_mem (upper : String) : firstAccepting upper ∈ all := by
  unfold firstAccepting
  cases found : all.find? (·.accepts upper) with
  | none => simp [all]
  | some rule => exact List.mem_of_find?_eq_some found

theorem ofDefinition_mem (definition : String) : ofDefinition definition ∈ all := by
  rw [ofDefinition]
  exact firstAccepting_mem _

/-- Every rule's samples are of the kind that the rule assigns. -/
theorem sample_kind {rule : TypeRule} (member : rule ∈ all) (definition : String) :
    (rule.sample definition).kind = rule.type.kind := by
  simp only [all, List.mem_cons, List.not_mem_nil, or_false] at member
  rcases member with rfl | rfl | rfl | rfl | rfl | rfl | rfl | rfl
  case inr.inr.inr.inr.inl =>
    simp only [enumeration, enumSample]
    split <;> rfl
  all_goals rfl

end TypeRule

/-- The interface type of a definition. -/
def FieldType.ofDefinition (definition : String) : FieldType :=
  (TypeRule.ofDefinition definition).type

/-- A sample value for a definition. -/
def Sample.ofDefinition (definition : String) : Sample :=
  (TypeRule.ofDefinition definition).sample definition

theorem Sample.ofDefinition_kind (definition : String) :
    (Sample.ofDefinition definition).kind = (FieldType.ofDefinition definition).kind := by
  rw [Sample.ofDefinition, FieldType.ofDefinition]
  exact TypeRule.sample_kind (TypeRule.ofDefinition_mem definition) definition

end SchemaScaffold
