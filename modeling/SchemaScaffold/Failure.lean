import SchemaScaffold.Disk.Basic
import SchemaScaffold.Url.Error

/-!
# Failures

Why a run ends without a result.
-/

namespace SchemaScaffold

/-- The cause of a failed run. -/
inductive Failure where
  /-- A file could not be read or written. -/
  | disk (fault : Disk.Fault)
  /-- A configuration is no valid document. -/
  | yaml (reason : String)
  | invalidBaseUrl (url : String) (fault : Url.Fault)
  | inputNotFound (path : String)
  | templatesNotFound (path : String)
  | templateMissing (path : String)
  | emptySql
  | noTables
  | missingDatabaseName
  /-- A file is there already and must not be touched. -/
  | alreadyExists (path : String)
deriving DecidableEq, Repr

/-- The cause in words. -/
def Failure.message : Failure → String
  | .disk fault => "I/O error: " ++ fault.message
  | .yaml reason => "YAML error: " ++ reason
  | .invalidBaseUrl url fault => String.join ["invalid base URL '", url, "': ", fault.message]
  | .inputNotFound path => "SQL file not found: " ++ path
  | .templatesNotFound path => "templates dir not found: " ++ path
  | .templateMissing path => "template not found: " ++ path
  | .emptySql => "SQL file is empty"
  | .noTables => "no CREATE TABLE statements found"
  | .missingDatabaseName => "database name is required"
  | .alreadyExists path => "refusing to overwrite existing file: " ++ path

end SchemaScaffold
