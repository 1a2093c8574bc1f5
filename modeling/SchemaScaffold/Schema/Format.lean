import SchemaScaffold.Json.Printer
import SchemaScaffold.Schema.Form
import SchemaScaffold.Schema.Listing
import SchemaScaffold.Yaml.Printer

/-!
# Output formats

The formats in which schemas and reports are printed.
-/

namespace SchemaScaffold

/-- A format of output. -/
inductive OutputFormat where
  | json
  | yaml
  | markdown
  | table
deriving DecidableEq, Repr

namespace OutputFormat

/-- The format's name on the command line. -/
def word : OutputFormat → String
  | json => "json"
  | yaml => "yaml"
  | markdown => "markdown"
  | table => "table"

/-- The format of a name. -/
def ofWord? (name : String) : Option OutputFormat :=
  [json, yaml, markdown, table].find? (·.word == name)

theorem ofWord?_word (format : OutputFormat) : ofWord? format.word = some format := by
  cases format <;> rfl

end OutputFormat

/-- A schema in a format. -/
def Schema.format (schema : Schema) : OutputFormat → String
  | .json => Json.render schema.toDocument
  | .yaml => Yaml.render schema.toDocument
  | .markdown => schema.markdown
  | .table => schema.listing

/-- A report in a format. -/
def Sql.Report.format (report : Sql.Report) : OutputFormat → String
  | .json => Json.render report.toDocument
  | .yaml => Yaml.render report.toDocument
  | .markdown => report.markdown
  | .table => report.listing

end SchemaScaffold
