import UsageLedger.Json.Decode
import UsageLedger.Telemetry.Settings
import UsageLedger.Text.Blank
import UsageLedger.Toml.Document
import UsageLedger.Wire.Query

/-!
# Configuration

A configuration is read from a TOML document, of which only the port has to be
there.  Variables of the environment then count more than the document, unless
they are blank.
-/

namespace UsageLedger.CommandLine

open UsageLedger.Decode
open UsageLedger.Json (Draft)
open UsageLedger.Telemetry
open UsageLedger.Text

/-- How the program is set up. -/
@[ext]
structure Configuration where
  port : Nat
  database : Option String
  telemetry : Settings
  deriving DecidableEq, Repr

/-- The port unless a configuration says otherwise. -/
def defaultPort : Nat := 3846

/-- The configuration that is written when there is none. -/
def Configuration.default : Configuration :=
  ⟨defaultPort, none, Settings.empty⟩

def defaultDocument : String :=
  "port = " ++ toString defaultPort ++ "\n\n[telemetry]\ntimeout_secs = " ++
    toString defaultTimeoutSecs ++ "\n"

/-- The settings in a document; of an array only as many items count as there are settings. -/
def documentSettings : Decoder Settings
  | .array items ending =>
    Settings.shape.decode (.array (items.take Settings.shape.fields.length) ending)
  | other => Settings.shape.decode other

/-- The fields of a configuration. -/
def Configuration.shape : Shape Configuration :=
  (Shape.of Configuration.mk)
    |>.with (.required "port" (natural largest16))
    |>.with (.optional "db_path" text)
    |>.with (.defaulted "telemetry" documentSettings Settings.empty)

def Configuration.toJson (configuration : Configuration) : Json :=
  .object
    [("port", .natural configuration.port),
      ("db_path", .optional .text configuration.database),
      ("telemetry", configuration.telemetry.toJson)]

def Configuration.ofDocument? (document : String) : Option Configuration := do
  let table ← Toml.Table.ofText? document
  (ofJson Configuration.shape.decode table.toJson).toOption

/-- A variable of the environment, unless it is blank. -/
def setVariable (environment : String → Option String) (name : String) : Option String :=
  (environment name).filter fun value => !isBlankText value

/-- The variables that count more than a document. -/
def overridingVariables : List String :=
  ["LANGFUSE_HOST", "LANGFUSE_PUBLIC_KEY", "LANGFUSE_SECRET_KEY",
    "USAGE_TRACKER_DB_PATH"]

/-- The configuration with what the environment says. -/
def Configuration.override (configuration : Configuration)
    (environment : String → Option String) : Configuration :=
  let given := setVariable environment
  let settings := configuration.telemetry
  { configuration with
    database := (given "USAGE_TRACKER_DB_PATH").or configuration.database
    telemetry :=
      { settings with
        host := (given "LANGFUSE_HOST").or settings.host
        publicKey := (given "LANGFUSE_PUBLIC_KEY").or settings.publicKey
        secretKey := (given "LANGFUSE_SECRET_KEY").or settings.secretKey } }

end UsageLedger.CommandLine
