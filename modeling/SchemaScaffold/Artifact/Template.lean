import SchemaScaffold.Schema.EntityNames
import SchemaScaffold.Text.Search

/-!
# Templates

Texts with tokens in doubled braces, which values replace.
-/

namespace SchemaScaffold
namespace Template

/-- A key between doubled braces. -/
def token (key : String) : List Char :=
  ['\x7b', '\x7b'] ++ key.toList ++ ['\x7d', '\x7d']

/-- Replace the tokens of the keys, one key after another, each in the text that the ones
before it left. -/
def renderChars (tokens : List (String × String)) (template : List Char) : List Char :=
  tokens.foldl (fun text (key, value) => Text.replaceAll (token key) value.toList text) template

/-- A template with the tokens of the keys replaced. Other tokens stay. -/
def render (template : String) (tokens : List (String × String)) : String :=
  String.ofList (renderChars tokens template.toList)

/-- The values for the tokens of a table's templates. -/
def entityTokens (names : EntityNames) : List (String × String) :=
  [("Entity", names.pascal), ("entity", names.camel), ("table", names.table)]

@[simp] theorem renderChars_nil (template : List Char) : renderChars [] template = template :=
  rfl

@[simp] theorem renderChars_cons (key value : String) (tokens : List (String × String))
    (template : List Char) :
    renderChars ((key, value) :: tokens) template =
      renderChars tokens (Text.replaceAll (token key) value.toList template) := rfl

end Template
end SchemaScaffold
