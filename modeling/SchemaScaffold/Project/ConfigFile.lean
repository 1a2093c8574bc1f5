import SchemaScaffold.Config.Reader
import SchemaScaffold.Project.Files

/-!
# Configuration files

Loading the configuration of a project from a file, and saving it.
-/

namespace SchemaScaffold
namespace Project

variable {m : Type → Type} [Monad m] [MonadDisk m]

/-- The configuration in the content of a file. -/
def configOfBytes (content : ByteArray) : Run m Config :=
  match Config.ofBytes content with
  | .ok config => pure config
  | .error reason => throw (.yaml reason)

/-- Load a configuration. A directory can be opened like a file, but there is no document in
it. -/
def loadConfig (path : String) : Run m Config := do
  match ← ExceptT.lift (MonadDisk.read path) with
  | .ok content => configOfBytes content
  | .error .isDirectory => throw (.yaml Disk.Fault.isDirectory.message)
  | .error fault => throw (.disk fault)

/-- Save a configuration. -/
def saveConfig (path : String) (config : Config) : Run m Unit :=
  overwrite path config.toYaml

end Project
end SchemaScaffold
