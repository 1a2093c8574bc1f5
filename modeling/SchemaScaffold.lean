import SchemaScaffold.Schema.Format
import SchemaScaffold.Sql.Parse
import SchemaScaffold.Json.Reader
import SchemaScaffold.Yaml.Node
import SchemaScaffold.Yaml.Printer
import SchemaScaffold.Config.Reader
import SchemaScaffold.Url.Basic
import SchemaScaffold.Artifact.Template
import SchemaScaffold.Artifact.RoutesIndex
import SchemaScaffold.Artifact.EnvFile
import SchemaScaffold.Artifact.Readme
import SchemaScaffold.Artifact.OpenApi
import SchemaScaffold.Artifact.Postman
import SchemaScaffold.Project.ConfigFile
import SchemaScaffold.Project.Generate
import SchemaScaffold.Cli.Run
import SchemaScaffold.Main
import SchemaScaffold.Proofs.Text.Pieces
import SchemaScaffold.Proofs.Disk.Destination
import SchemaScaffold.Proofs.Disk.PathNames
import SchemaScaffold.Proofs.Disk.Tree
import SchemaScaffold.Proofs.Project.Execution
import SchemaScaffold.Proofs.Project.Writing
import SchemaScaffold.Proofs.Text.Replacing
import SchemaScaffold.Proofs.Text.Searching
import SchemaScaffold.Proofs.Schema.EntityNames
import SchemaScaffold.Proofs.Sql.ParsedNames
import SchemaScaffold.Proofs.Artifact.Template
import SchemaScaffold.Proofs.Disk.Inside
import SchemaScaffold.Proofs.Artifact.RoutesIndex
import SchemaScaffold.Proofs.Project.Outputs
import SchemaScaffold.Proofs.Project.Preparation
import SchemaScaffold.Proofs.Project.Production
import SchemaScaffold.Proofs.Project.Atomicity
import SchemaScaffold.Proofs.Project.History
import SchemaScaffold.Proofs.Project.TableFiles
import SchemaScaffold.Proofs.Project.Registration
import SchemaScaffold.Proofs.Project.SecondRun
import SchemaScaffold.Proofs.Project.IndexMaking
import SchemaScaffold.Proofs.Sql.Locality
import SchemaScaffold.Proofs.Sql.Script
import SchemaScaffold.Proofs.Project.PatchedTables
import SchemaScaffold.Proofs.Project.Preconditions
import SchemaScaffold.Proofs.Document.References
import SchemaScaffold.Proofs.Artifact.ReferenceClosure
import SchemaScaffold.Proofs.Artifact.Agreement
import SchemaScaffold.Proofs.Json.RoundTrip
import SchemaScaffold.Proofs.Artifact.SampleBody
import SchemaScaffold.Proofs.Sql.Reports
import SchemaScaffold.Proofs.Project.Layout
import SchemaScaffold.Proofs.Artifact.CollectionText
import SchemaScaffold.Proofs.Schema.JsonVariants
import SchemaScaffold.Proofs.Project.Steps
import SchemaScaffold.Proofs.Project.Order
import SchemaScaffold.Proofs.Project.Standalone
import SchemaScaffold.Proofs.Project.Summary
import SchemaScaffold.Proofs.Config.RoundTrip
import SchemaScaffold.Proofs.Sql.LineEnds
import SchemaScaffold.Proofs.Sql.LetterCase
import SchemaScaffold.Proofs.Sql.Identifiers
import SchemaScaffold.Proofs.Artifact.OpenApiText
import SchemaScaffold.Proofs.Cli.Relocation
import SchemaScaffold.Proofs.Project.ModuleClosure
import SchemaScaffold.Proofs.Sql.StatementForm
import SchemaScaffold.Proofs.Sql.ColumnShape
import SchemaScaffold.Proofs.Schema.Attributes
import SchemaScaffold.Proofs.Schema.Enumerations
import SchemaScaffold.Proofs.Sql.QuotedNames
import SchemaScaffold.Proofs.Project.DatabaseNames
import SchemaScaffold.Proofs.Artifact.MemberNames
import SchemaScaffold.Proofs.Artifact.LinePlaces
import SchemaScaffold.Proofs.Artifact.LastExport
import SchemaScaffold.Proofs.Artifact.Constants
import SchemaScaffold.Proofs.Artifact.RequestAddress
import SchemaScaffold.Proofs.Artifact.Substitution
import SchemaScaffold.Proofs.Artifact.ListedColumns
import SchemaScaffold.Proofs.Sql.JoinedBodies
import SchemaScaffold.Proofs.Schema.ByteCuts
