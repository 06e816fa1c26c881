import UsageLedger.CommandLine.Startup
import UsageLedger.Http.Message
import UsageLedger.Http.Router
import Std.Async.DNS
import Std.Async.Signal
import Std.Async.TCP
import Std.Sync.Mutex
import Std.Time

/-!
# The program

This module ties the library to a machine: files, the clock, and connections
over TCP.  Everything that is decided is decided in the library.  The telemetry
service is reached over plain connections only; a secure address is out of
reach.
-/

namespace UsageLedger.Program

open Std.Async
open UsageLedger.Calendar
open UsageLedger.CommandLine
open UsageLedger.Service (ServiceError)
open UsageLedger.Telemetry

/-- The fault of a code of the machine, with its words. -/
def faultOfCode (code : UInt32) (words : String) : FileFault :=
  if code = 2 then .notFound
  else if code = 17 then .occupied
  else if code = 20 then .notADirectory
  else if code = 21 then .isADirectory
  else if code = 36 then .nameTooLong
  else .other (words ++ " (os error " ++ toString code ++ ")")

/-- A fault of the machine. -/
def faultOf : IO.Error → FileFault
  | .noFileOrDirectory _ code words => faultOfCode code words
  | .alreadyExists _ code words => faultOfCode code words
  | .permissionDenied _ code words => faultOfCode code words
  | .inappropriateType _ code words => faultOfCode code words
  | .invalidArgument _ code words => faultOfCode code words
  | .resourceExhausted _ code words => faultOfCode code words
  | fault => .other (toString fault)

/-- Tries an action on files. -/
def attempt {α : Type} (action : IO α) : IO (Except FileFault α) := do
  match ← action.toBaseIO with
  | .ok value => pure (.ok value)
  | .error fault => pure (.error (faultOf fault))

/-- What stands at a path. -/
def examine (path : String) : IO (Except FileFault PathKind) :=
  attempt do
    let real ← IO.FS.realPath path
    pure (if ← real.isDir then .directory else .file)

/-- The machine that the program runs on. -/
def machine : Surroundings IO where
  environment name := IO.getEnv name
  workingDirectory := do pure (← IO.currentDir).toString
  examine := examine
  read path := attempt (IO.FS.readFile path)
  write path text := attempt (IO.FS.writeFile path text)
  makeDirectory path := attempt (IO.FS.createDir path)
  print text := do
    let stream ← IO.getStdout
    stream.putStr text
    stream.flush
  complain text := IO.eprint text

/-- The present instant. -/
def now : IO Instant := do
  let timestamp ← Std.Time.Timestamp.now
  pure (Instant.ofNanos timestamp.toNanosecondsSinceUnixEpoch.val)

/-- What the parts of a running program share. -/
structure Shared where
  store : Std.Mutex Store
  /-- Held while an import runs. -/
  importing : Std.BaseMutex
  telemetry : Settings
  /-- The file of the store. -/
  file : Option String

/-- Actions of a running program. -/
abbrev ProgramM := ReaderT Shared IO

def keep (file : Option String) (store : Store) : IO Unit := do
  match ← saveStore machine file store with
  | .ok _ => pure ()
  | .error cause => machine.complain (cause.message ++ "\n")

/-- Changes the store while no one else does. -/
def change {α : Type} (action : Store → α × Store) : ProgramM α := fun shared =>
  shared.store.atomically do
    let (value, store) := action (← get)
    set store
    keep shared.file store
    pure value

instance : MonadStateOf Store ProgramM where
  get := fun shared => shared.store.atomically get
  set store := change fun _ => ((), store)
  modifyGet := change

/-- The most bytes that are taken from a connection at once. -/
def chunkSize : UInt64 := 65536

/-- Reads bytes from a connection until there are enough of them or no more. -/
def receive (connection : TCP.Socket.Client) (isEnough : ByteArray → Bool) :
    Async ByteArray := do
  let mut received := ByteArray.empty
  let mut open_ := true
  while open_ && !isEnough received do
    match ← connection.recv? chunkSize with
    | some chunk => received := received ++ chunk
    | none => open_ := false
  pure received

def socketAddress (host : String) (port : Nat) : Async (Option Std.Net.SocketAddress) := do
  let addresses ← DNS.getAddrInfo host (toString port)
  pure <| addresses[0]?.map fun address =>
    match address with
    | .v4 found => .v4 ⟨found, port.toUInt16⟩
    | .v6 found => .v6 ⟨found, port.toUInt16⟩

/-- Asks the telemetry service over a connection of its own. -/
def exchange (request : HttpRequest) : Async (Option HttpResponse) := do
  let (host, port) := request.address.endpoint
  match ← socketAddress host port with
  | none => pure none
  | some address => do
    let connection ← TCP.Socket.Client.mk
    connection.connect address
    connection.send (Http.questionText request).toUTF8
    let received ← receive connection fun _ => false
    pure (Http.answerOfBytes? received.toList)

/-- The milliseconds between two looks at an unfinished task. -/
def patience : UInt32 := 10

/-- The outcome of an action that takes no longer than some seconds. -/
def within {α : Type} (seconds : Nat) (action : IO α) : IO (Option α) := do
  let task ← IO.asTask action
  let start ← IO.monoMsNow
  while !(← IO.hasFinished task) && (← IO.monoMsNow) < start + seconds * 1000 do
    IO.sleep patience
  if ← IO.hasFinished task then pure (task.get.toOption)
  else
    IO.cancel task
    pure none

/-- The words about a connection that did not come about. -/
def unreachable (request : HttpRequest) : TelemetryError :=
  .unreachable ("error sending request for " ++ request.address.authority)

def send (timeoutSecs : Nat) (request : HttpRequest) :
    IO (Except TelemetryError HttpResponse) := do
  if request.address.secure then pure (.error (unreachable request))
  else
    match ← within timeoutSecs (exchange request).block with
    | some (some response) => pure (.ok response)
    | _ => pure (.error (unreachable request))

/-- Waits. -/
def pause (duration : Duration) : IO Unit := do
  let start ← IO.monoMsNow
  let length := (duration.nanos + 999999) / 1000000
  while (← IO.monoMsNow) < start + length do
    let left := start + length - (← IO.monoMsNow)
    IO.sleep (min left 60000).toUInt32

/-- The words for what cannot be read. -/
def wording : Wording where
  badAddress address := "no address: " ++ address
  badBody _ fault :=
    match fault with
    | .truncated => "the body ends too early"
    | .malformed => "the body is not JSON"
    | .mismatched => "the body does not fit"

/-- The link to the telemetry service. -/
def link {m : Type → Type} [MonadLiftT IO m] (timeoutSecs : Nat) : Link m where
  send request := liftM (send timeoutSecs request)
  pause duration := liftM (pause duration)
  wording := wording

/-- A call that breaks off ends its task. -/
instance : MonadExceptOf Overflow IO where
  throw cause := throwThe IO.Error (IO.userError cause.text)
  tryCatch action _ := action

/-- More pages than a telemetry service can fill. -/
def pageLimit : Nat := largest64

/-- The gate that the imports of the program share. -/
def gate : Service.Gate ProgramM where
  enter := fun shared => shared.importing.lock
  leave := fun shared => shared.importing.unlock

/-- Imports from the configured service, one import at a time. -/
def importNow : ProgramM (Except ServiceError ImportRun) := do
  let shared ← read
  Service.importConfiguredAlone gate shared.telemetry (liftM now)
    (link shared.telemetry.timeoutSecs) pageLimit

/-- Whether bytes hold a whole request. -/
def isWhole (bytes : ByteArray) : Bool :=
  match Http.splitHead bytes.toList with
  | some (head, body) => (Http.Head.ofBytes head).bodyLength ≤ body.length
  | none => false

/-- The response to the bytes of a request. -/
def respondTo (bytes : ByteArray) : ProgramM Http.Response := do
  match Http.splitHead bytes.toList with
  | none => pure Http.badRequest
  | some (headBytes, body) =>
    let head := Http.Head.ofBytes headBytes
    match head.request? (body.take head.bodyLength) with
    | some request => Http.respond importNow request
    | none => pure Http.badRequest

def serveConnection (shared : Shared) (connection : TCP.Socket.Client) : IO Unit := do
  let bytes ← (receive connection isWhole).block
  let response ← (respondTo bytes).run shared
  (connection.send response.text.toUTF8).block
  connection.shutdown.block

/-- A server at a port of this machine. -/
def serverAt (port : UInt16) : IO TCP.Socket.Server := do
  let server ← TCP.Socket.Server.mk
  server.bind (.v4 ⟨.ofParts 127 0 0 1, port⟩)
  server.listen 128
  pure server

def portOf (server : TCP.Socket.Server) : IO Nat := do
  match ← server.getSockName with
  | .v4 address => pure address.port.toNat
  | .v6 address => pure address.port.toNat

/-- A server at the wanted port, or at any port if that one is taken. -/
def openServer (wanted : Nat) : IO TCP.Socket.Server := do
  match ← (serverAt wanted.toUInt16).toBaseIO with
  | .ok server => pure server
  | .error fault =>
    if wanted = 0 then throwThe IO.Error fault
    else
      let server ← serverAt 0
      machine.complain (otherPortLine wanted (← portOf server))
      pure server

/-- Takes connections until the program is interrupted. -/
def takeConnections (server : TCP.Socket.Server)
    (interruption : Signal.Waiter) (serve : TCP.Socket.Client → IO Unit) : IO Unit := do
  let mut serving := true
  while serving do
    let next ← (Selectable.one #[
      .case server.acceptSelector fun connection => pure (some connection),
      .case interruption.selector fun _ => pure none]).block
    match next with
    | some connection => discard (IO.asTask (serve connection))
    | none => serving := false

/-- Serves a program that is ready. -/
def serve (ready : Ready) : IO UInt32 := do
  let shared : Shared :=
    { store := ← Std.Mutex.new ready.kept.store
      importing := ← Std.BaseMutex.new
      telemetry := ready.configuration.telemetry
      file := ready.kept.file }
  if ready.options.importOnStart && shared.telemetry.isConfigured then
    discard (IO.asTask (importNow.run shared))
  let server ← openServer (ready.options.port.getD ready.configuration.port)
  machine.print (servingLines (← portOf server))
  takeConnections server (← Signal.Waiter.mk .sigint false) (serveConnection shared)
  pure 0

/-- Writes about a failure. -/
def fail (failure : Failure) : IO UInt32 := do
  report machine failure
  pure 1

/-- The machine for actions that hold a store. -/
def machineWithStore : Surroundings (StateT Store IO) where
  environment name := liftM (machine.environment name)
  workingDirectory := liftM machine.workingDirectory
  examine path := liftM (machine.examine path)
  read path := liftM (machine.read path)
  write path text := liftM (machine.write path text)
  makeDirectory path := liftM (machine.makeDirectory path)
  print text := liftM (machine.print text)
  complain text := liftM (machine.complain text)

/-- Imports once. -/
def importOnly (ready : Ready) : IO UInt32 := do
  let imported ← (importOnce machineWithStore ready (liftM now)
    (link ready.configuration.telemetry.timeoutSecs) pageLimit).run' ready.kept.store
  match imported with
  | .ok _ => pure 0
  | .error failure => fail failure

end UsageLedger.Program

open UsageLedger.CommandLine UsageLedger.Program in
/-- Runs the program. -/
def main (arguments : List String) : IO UInt32 := do
  match ← launch machine arguments with
  | .error failure => fail failure
  | .ok .help => do
    printHelp machine
    pure 0
  | .ok (.ready ready) =>
    if ready.options.importOnly then importOnly ready else serve ready
