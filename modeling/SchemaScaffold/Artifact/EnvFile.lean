import SchemaScaffold.Settings
import SchemaScaffold.Text.Digits

/-!
# Environment file

The variables that a backend reads when it starts.
-/

namespace SchemaScaffold
namespace EnvFile

/-- A variable on a line of its own. -/
def variableLine (name value : String) : String :=
  String.join [name, "=", value, "\n"]

/-- A port in decimal digits. -/
def portText (port : UInt16) : String :=
  String.ofList (Text.decimal port.toNat)

/-- The environment file for a database. -/
def render (database : String) (settings : EnvSettings) : String :=
  String.join [
    variableLine "PORT" (portText settings.port),
    variableLine "DB_HOST" settings.dbHost,
    variableLine "DB_PORT" (portText settings.dbPort),
    variableLine "DB_USER" settings.dbUser,
    variableLine "DB_PASSWORD" settings.dbPassword,
    variableLine "DB_NAME" database]

end EnvFile
end SchemaScaffold
