import UsageLedger.Text.Digits
import UsageLedger.Width

/-!
# Arguments

The arguments of the program are read from left to right as options, of which
two take the next argument as their value, whatever it looks like.  A later
value of an option counts more than an earlier one.  A request for help ends
the reading at once; so does the first argument that cannot be read.
-/

namespace UsageLedger.CommandLine

open UsageLedger.Text

/-- What the arguments ask for. -/
@[ext]
structure Options where
  /-- The port for this run. -/
  port : Option Nat
  /-- Where the configuration is. -/
  config : Option String
  importOnStart : Bool
  importOnly : Bool
  deriving DecidableEq, Repr

/-- What is asked for without arguments. -/
def Options.none : Options := ⟨Option.none, Option.none, false, false⟩

/-- The causes of failure. -/
inductive ArgumentError where
  | missingValue (option : String)
  | invalidPort (text : String)
  | unknown (argument : String)
  deriving DecidableEq, Repr

/-- The message of a cause. -/
def ArgumentError.message : ArgumentError → String
  | .missingValue option => "missing value for " ++ option
  | .invalidPort text => "invalid port value: " ++ text
  | .unknown argument => "unknown argument: " ++ argument

/-- What the arguments tell the program to do. -/
inductive Command where
  | help
  | start (options : Options)
  deriving DecidableEq, Repr

/-- The characters after a plus sign, if there is one. -/
def dropPlus : List Char → List Char
  | '+' :: rest => rest
  | characters => characters

/-- The port that a text denotes: digits, behind a plus sign or not. -/
def portOfText? (text : String) : Option Nat :=
  let digits := dropPlus text.toList
  let value := naturalOf digits
  if !digits.isEmpty && digits.all isDigit && value ≤ largest16 then some value
  else none

/-- Reads the arguments that follow those already read. -/
def readArguments (options : Options) : List String → Except ArgumentError Command
  | [] => .ok (.start options)
  | argument :: rest =>
    if argument = "--port" then
      match rest with
      | [] => .error (.missingValue "--port")
      | value :: others =>
        match portOfText? value with
        | some port => readArguments { options with port := some port } others
        | Option.none => .error (.invalidPort value)
    else if argument = "--config" then
      match rest with
      | [] => .error (.missingValue "--config")
      | value :: others => readArguments { options with config := some value } others
    else if argument = "--import" then
      readArguments { options with importOnStart := true } rest
    else if argument = "--import-only" then
      readArguments { options with importOnly := true } rest
    else if argument = "--help" ∨ argument = "-h" then .ok .help
    else .error (.unknown argument)

/-- What arguments tell the program to do. -/
def Command.ofArguments (arguments : List String) : Except ArgumentError Command :=
  readArguments Options.none arguments

def helpText : String :=
  "Usage Tracker\n\n" ++
  "Usage:\n" ++
  "  usage-tracker [--port <port>] [--config <file>] [--import | --import-only]\n\n" ++
  "Options:\n" ++
  "  --port <port>    Override the configured port for this run only\n" ++
  "  --config <file>  Read configuration from <file> instead of the default location\n" ++
  "  --import         Run one telemetry import in the background after startup\n" ++
  "  --import-only    Run one telemetry import, print the run record and exit\n" ++
  "  -h, --help       Show this help message\n\n" ++
  "Environment:\n" ++
  "  LANGFUSE_HOST, LANGFUSE_PUBLIC_KEY, LANGFUSE_SECRET_KEY, USAGE_TRACKER_DB_PATH\n" ++
  "  override the config file; RUST_LOG sets the log filter (default info)\n"

end UsageLedger.CommandLine
