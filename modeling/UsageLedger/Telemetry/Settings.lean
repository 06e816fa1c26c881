import UsageLedger.Text.Blank

/-!
# Settings of the telemetry service

The host and the two keys may be missing when settings are read; they are
needed once the service is to be asked.  `Settings.credentials` gives them
with the white space and the slashes at the end of the host removed, or names
every one that is missing or blank.
-/

namespace UsageLedger.Telemetry

open UsageLedger.Text

/-- The seconds a request may take unless the settings say otherwise. -/
def defaultTimeoutSecs : Nat := 30

/-- Where the telemetry service is and how to be let in. -/
@[ext]
structure Settings where
  host : Option String
  publicKey : Option String
  secretKey : Option String
  timeoutSecs : Nat
  deriving DecidableEq, Repr

/-- Settings without host and keys. -/
def Settings.empty : Settings := ⟨none, none, none, defaultTimeoutSecs⟩

/-- What requests are built from. -/
structure Credentials where
  host : String
  publicKey : String
  secretKey : String
  deriving DecidableEq, Repr

/-- The trimmed text of a setting, empty if it is missing. -/
def settingText (setting : Option String) : String :=
  trim (setting.getD "")

/-- The text without the slashes at its end. -/
def dropTrailingSlashes (text : String) : String :=
  String.ofList (text.toList.reverse.dropWhile (· == '/')).reverse

/-- The settings that requests need, by name, in the order in which they are reported. -/
def Settings.needed (settings : Settings) : List (String × Option String) :=
  [("host", settings.host), ("public_key", settings.publicKey),
    ("secret_key", settings.secretKey)]

/-- The names of the settings that are missing or blank. -/
def Settings.missing (settings : Settings) : List String :=
  (settings.needed.filter fun entry => settingText entry.2 == "").map Prod.fst

/-- The credentials, or the names of the settings that are missing or blank. -/
def Settings.credentials (settings : Settings) : Except (List String) Credentials :=
  if settings.missing.isEmpty then
    .ok
      { host := dropTrailingSlashes (settingText settings.host)
        publicKey := settingText settings.publicKey
        secretKey := settingText settings.secretKey }
  else .error settings.missing

/-- Whether the service can be asked. -/
def Settings.isConfigured (settings : Settings) : Bool :=
  settings.credentials.isOk

end UsageLedger.Telemetry
