import UsageLedger.CommandLine.Arguments
import UsageLedger.CommandLine.Configuration
import UsageLedger.CommandLine.StoreFile
import UsageLedger.Json.Print
import UsageLedger.Service.Importing

/-!
# Starting the program

`launch` reads the arguments, finds or writes the configuration and opens the
store.  What is left to do then is either a single import, which `importOnce`
makes and prints, or serving.  A failure says what is to be written about it.
-/

namespace UsageLedger.CommandLine

open UsageLedger.Calendar
open UsageLedger.Telemetry
open UsageLedger.Text

/-- Why the program stops. -/
inductive Failure where
  | arguments (cause : ArgumentError)
  | other (message : String)
  deriving DecidableEq, Repr

/-- The line about a failure. -/
def errorLine (kind message : String) : String :=
  "Error: Custom \x7b kind: " ++ kind ++ ", error: " ++ inQuotes message ++
    " \x7d\n"

def Failure.lastLine : Failure → String
  | .arguments _ => errorLine "InvalidInput" "invalid arguments"
  | .other message => errorLine "Other" message

/-- A program that is ready to import or to serve. -/
structure Ready where
  options : Options
  configuration : Configuration
  kept : KeptStore

/-- What the arguments lead to. -/
inductive Launch where
  | help
  | ready (ready : Ready)

section

variable {m : Type → Type} [Monad m] (surroundings : Surroundings m)

/-- Words a fault of a file. -/
def explain {α : Type} (action path : String) (attempt : m (Except FileFault α)) :
    ExceptT String m α := do
  match ← ExceptT.lift attempt with
  | .ok value => pure value
  | .error fault => throw (action ++ " " ++ path ++ ": " ++ fault.message)

/-- The directory that a variable names, or one inside the home directory. -/
def userDirectory (variableName : String) (insideHome : List String) :
    ExceptT String m String := do
  match (← surroundings.environment variableName).filter fun path => !path.isEmpty with
  | some path => pure path
  | none =>
    match ← surroundings.environment "HOME" with
    | some home => pure (insideHome.foldl joinPath home)
    | none => throw "resolve HOME: environment variable not found"

/-- The name of the program's own directories. -/
def directoryName : String := "usage-tracker"

/-- The path of the configuration when none is given. -/
def defaultConfigPath : ExceptT String m String := do
  let directory ← userDirectory surroundings "XDG_CONFIG_HOME" [".config"]
  pure (joinPath (joinPath directory directoryName) "usage-tracker.toml")

/-- A configuration, where it is, and whether it was just written. -/
structure LoadedConfiguration where
  configuration : Configuration
  path : String
  created : Bool
  deriving DecidableEq, Repr

/-- Writes the default configuration. -/
def createConfiguration (path : String) : ExceptT String m LoadedConfiguration := do
  if let some directory := parentOf? path then
    explain "create config dir" directory (makeDirectories surroundings directory)
  explain "write config" path (surroundings.write path defaultDocument)
  pure ⟨Configuration.default, path, true⟩

def readConfiguration (path : String) : ExceptT String m LoadedConfiguration := do
  let document ← explain "read config" path (surroundings.read path)
  match Configuration.ofDocument? document with
  | some configuration => pure ⟨configuration, path, false⟩
  | none => throw ("parse config " ++ path ++ ": not a configuration")

/-- Reads the configuration, or writes the default one where none is. -/
def loadConfiguration (explicit : Option String) :
    ExceptT String m LoadedConfiguration := do
  let path ←
    match explicit with
    | some path => pure path
    | none => defaultConfigPath surroundings
  match ← surroundings.examine path with
  | .error _ => createConfiguration surroundings path
  | .ok _ => readConfiguration surroundings path

/-- The configuration with what the environment says. -/
def overrideConfiguration (configuration : Configuration) : m Configuration := do
  let values ← overridingVariables.mapM fun name => do
    pure (name, ← surroundings.environment name)
  pure (configuration.override fun name => (member? name values).join)

/-- The path of the store: the configured one, or one in a directory that is made for it. -/
def databasePath (configuration : Configuration) : ExceptT String m String := do
  match configuration.database with
  | some path => pure path
  | none =>
    let base ← userDirectory surroundings "XDG_DATA_HOME" [".local", "share"]
    let directory := joinPath base directoryName
    explain "create data dir" directory (makeDirectories surroundings directory)
    pure (joinPath directory "usage-tracker.sqlite")

/-- Makes the program ready. -/
def prepare (options : Options) : ExceptT String m Ready := do
  let loaded ← loadConfiguration surroundings options.config
  if loaded.created then
    surroundings.print
      ("Created config at " ++ loaded.path ++ " (default port " ++
        toString loaded.configuration.port ++ ").\n")
  let configuration ←
    ExceptT.lift (overrideConfiguration surroundings loaded.configuration)
  let database ← databasePath surroundings configuration
  surroundings.print ("Using database: " ++ database ++ "\n")
  match ← ExceptT.lift (openStore surroundings database).run with
  | .ok kept => pure ⟨options, configuration, kept⟩
  | .error cause =>
    throw
      ("failed to initialize database: " ++ (Service.ServiceError.store cause).message)

/-- Does what arguments say, as far as it is done before importing or serving. -/
def launch (arguments : List String) : m (Except Failure Launch) := do
  match Command.ofArguments arguments with
  | .error cause => pure (.error (.arguments cause))
  | .ok .help => pure (.ok .help)
  | .ok (.start options) => do
    let ready ← (prepare surroundings options).run
    pure ((ready.map Launch.ready).mapError Failure.other)

/-- Prints the help text. -/
def printHelp : m Unit :=
  surroundings.print (helpText ++ "\n")

/-- Writes what is to be written about a failure. -/
def report (failure : Failure) : m Unit := do
  if let .arguments cause := failure then
    surroundings.complain (cause.message ++ "\n")
    printHelp surroundings
  surroundings.complain failure.lastLine

/-- Imports once and prints the run. -/
def importOnce [MonadExceptOf Overflow m] [MonadStateOf Store m]
    (ready : Ready)
    (clock : m Instant)
    (link : Link m)
    (pages : Nat) : m (Except Failure Unit) := do
  set ready.kept.store
  let imported ←
    Service.importConfigured ready.configuration.telemetry clock link pages
  match ← saveStore surroundings ready.kept.file (← getThe Store) with
  | .error cause => pure (.error (.other (Service.ServiceError.store cause).message))
  | .ok _ =>
    match imported with
    | .error cause => pure (.error (.other cause.message))
    | .ok run => do
      surroundings.print (Json.printPretty run.toJson ++ "\n")
      pure (.ok ())

end

/-- What is written once the program serves at a port. -/
def servingLines (port : Nat) : String :=
  "Usage Tracker is running at http://127.0.0.1:" ++ toString port ++
    "\nPress Ctrl+C to stop.\n"

/-- What is written when another port than the wanted one is taken. -/
def otherPortLine (wanted taken : Nat) : String :=
  "Configured port " ++ toString wanted ++ " was unavailable; using " ++
    toString taken ++ " for this run.\n"

end UsageLedger.CommandLine
