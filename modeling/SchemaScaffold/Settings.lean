/-!
# Settings

What a project's owner can set: the texts that describe the interface, and the values of the
environment in which the backend runs.
-/

namespace SchemaScaffold

/-- Texts about the interface. -/
structure ApiSettings where
  title : String := "Backend API"
  version : String := "1.0.0"
  description : String := "Specification generated automatically from the SQL schema."
  /-- The address at which the backend answers. -/
  baseUrl : String := "http://localhost:3000"
  collectionName : String := "Generated API"
  collectionDescription : String :=
    "Collection generated automatically to exercise the CRUD endpoints of every table."
deriving DecidableEq, Repr

/-- Values of the environment; the name of the database is not among them. -/
structure EnvSettings where
  port : UInt16 := 3000
  dbHost : String := "localhost"
  dbPort : UInt16 := 3306
  dbUser : String := "root"
  dbPassword : String := ""
deriving DecidableEq, Repr

end SchemaScaffold
