import Std.Async.Signal
import HttpService.CommandLine.Command
import HttpService.Connection
import HttpService.Echo
import HttpService.Route.Table
import HttpService.Server.Round
import HttpService.Settings.Document
import HttpService.Settings.Record

/-!
# The program

Serves the echo service, or sends messages to it. Everything that is decided here is decided elsewhere in the
library; this module joins it with files, connections and the terminal.
-/

open Std.Async

namespace HttpService.Program

/-- Why the program ends without having done what it was asked to: the failure, and the one behind it. -/
structure Failure where
  message : String
  cause : Option String := none

/-- The failure in words. -/
def Failure.text (f : Failure) : String :=
  "Error: " ++ f.message ++ (f.cause.elim "" fun cause => "\n\nCaused by:\n    " ++ cause)

/-- What the program works with. -/
structure Setup where
  settings : Settings
  log : LogSettings

/-- Writes notices to the log. -/
def note (log : LogSettings) (ns : List Notice) : IO Unit := (log.lines ns).forM IO.println

/-- What a file holds, if it can be read. -/
def contents (path : String) : IO (Option Octets) := do
  try return some (← IO.FS.readBinFile path).data.toList
  catch _ => return none

/-- The variables of the environment that count. -/
def environment : IO Environment := do
  let names := Setting.all.map Setting.variableName ++
    ["SIESTA_LOG_LEVEL", "SIESTA_LOG_FORMAT", "SIESTA_LOG_ASYNC", "SIESTA_LOG_TARGET_FILTER",
      "SIESTA_LOG_INCLUDE_LOCATION", "SIESTA_CONFIG"]
  let values ← names.mapM fun name => return (name, ← IO.getEnv name)
  return fun name => (values.lookup name).join

/-- An identifier that no request has had. -/
def freshId : IO RequestId := do
  let now ← Std.Time.Timestamp.now
  let parts ← (List.range 5).mapM fun _ => IO.rand 0 (Nat.pow 2 16 - 1)
  return .made now.toMillisecondsSinceUnixEpoch.toInt.toNat (parts.foldl (fun n part => n * Nat.pow 2 16 + part) 0)

/-! ## Serving -/

/-- What is written to the log of a round of a session. -/
def noteRound (log : LogSettings) : Round → IO Unit
  | .unread (.reported r) | .answered _ (some r) => note log [r.notice]
  | .unread _ | .answered _ none => return ()

/-- What a session on a connection of the system works with. -/
def surroundings (setup : Setup) (limits : Limits) (stream : Connection.Stream) : Surroundings Async where
  receive := Connection.read .request limits (setup.settings.timeout? .serverReadTimeout) stream
  outlet := Connection.outlet (setup.settings.timeout? .serverWriteTimeout) stream
  fresh := freshId
  tell r := noteRound setup.log r

/-- Serves one connection. -/
def serveConnection (setup : Setup) (service : Service) (session : Session) (stream : Connection.Stream) :
    Async Unit := do
  service.serveIn session (surroundings setup service.limits stream) (.idle (← freshId)) []

/-- Takes connections, each served in the background. -/
partial def accept (setup : Setup) (service : Service) (server : TCP.Socket.Server) (id : SessionId) :
    Async Unit := do
  let next ←
    try
      let stream ← server.accept
      let peer ← stream.getPeerName
      background (do
        serveConnection setup service ⟨id, Connection.ofPlace peer⟩ stream
        discard <| Connection.close stream : Async Unit)
      pure id.next
    catch e =>
      note setup.log [Report.notice ⟨.accepting, .io (Connection.fault e)⟩]
      pure id
  accept setup service server next

/-- The routes of a file, or those of the echo service. -/
def routes (path : Option String) : IO (List Notice × Except Failure (List RouteEntry)) := do
  match path with
  | none => return ([], .ok Echo.routes)
  | some path =>
    let (notices, result) := RouteTable.load path (← contents path)
    return (notices, result.mapError fun f => ⟨f.message, none⟩)

/-- Serves at an address until the program is interrupted. -/
def serve (setup : Setup) (address : Address) (path : Option String) : Async (Except Failure Unit) := do
  let (notices, entries) ← routes path
  note setup.log notices
  match entries with
  | .error f => return .error f
  | .ok entries =>
    let (notices, router) := Router.ofEntries Echo.registry entries
    note setup.log notices
    match router with
    | .error e => return .error ⟨e.message, none⟩
    | .ok router =>
      let server ← TCP.Socket.Server.mk
      let backlog := UInt32.ofNat (setup.settings.value .backlog)
      match ← ListenStep.takeAll (Connection.listenStep server address backlog) with
      | .error r =>
        note setup.log [r.notice]
        return .error ⟨r.cause.message, none⟩
      | .ok () =>
        let taken := Connection.ofPlace (← server.getSockName)
        IO.println ("siesta listening on http://" ++ taken.text)
        (← IO.getStdout).flush
        background (accept setup ⟨router, setup.settings.limits .server⟩ server .first)
        let interrupted ← Signal.Waiter.mk .sigint false
        let _ ← await (← interrupted.wait)
        return .ok ()

/-! ## Sending messages -/

/-- Sends a request and waits for its response. -/
def ask (setup : Setup) (r : Request) (s : ClientSession Connection.Stream) :
    Async (ClientSession Connection.Stream × Returned Response) := do
  let limit := setup.settings.timeout?
  let carrier :=
    Connection.carrier (setup.settings.limits .client) (limit .clientWriteTimeout) (limit .clientReadTimeout)
  let (s, notices, result) ← s.exchange carrier r
  note setup.log notices
  return (s, result)

/-- Sends a message to a server so many times. -/
def echo (setup : Setup) (host : String) (port : UInt16) (message : String) (count : Nat) :
    Async (Except Failure Unit) := do
  let limit := setup.settings.timeout?
  let lookup : Async (Lookup (Address × Async (Attempt Connection.Stream))) := do
    match ← Connection.lookup (limit .clientResolveTimeout) host port with
    | .found addresses =>
      return .found (addresses.map fun a => (a, Connection.connect (limit .clientConnectTimeout) a))
    | .failed cause => return .failed cause
    | .late => return .late
    | .dropped => return .dropped
  let (s, notices, started) ← ClientSession.new.start host port lookup
  note setup.log notices
  match started, ClientSession.getRequest (Echo.target message) with
  | some (.error e), _ =>
    return .error ⟨"Failed to connect to " ++ host ++ ":" ++ Decimal.text port.toNat, some e.message⟩
  | _, .error e => return .error ⟨e.message, none⟩
  | _, .ok request =>
    match ← ClientSession.askAll (ask setup request) (fun r => IO.println r.body) count s with
    | (_, some (.error e)) => return .error ⟨e.message, none⟩
    | (_, none) => return .error ⟨Error.sessionBusy.message, none⟩
    | (s, some (.ok ())) =>
      match s.stream with
      | none => return .ok ()
      | some stream =>
        match ← Connection.close stream with
        | some cause => return .error ⟨(Error.io cause).message, none⟩
        | none => return .ok ()

/-! ## Beginning -/

/-- How the program is called. -/
def usage : String :=
  "Usage: siesta [--config <CONFIG>] serve [--addr <ADDR>] [--routes <ROUTES>]\n" ++
    "       siesta [--config <CONFIG>] echo [--host <HOST>] [--port <PORT>] [--message <MESSAGE>] [--count <COUNT>]"

/-- The settings of a file, or those of the environment alone. -/
def settings (path : Option String) (env : Environment) : IO (List Notice × Except Failure Settings) := do
  match path with
  | none =>
    let (c, notices) := Settings.standard.override env
    return (notices, .ok c)
  | some path =>
    match Settings.load path (← contents path) env with
    | .ok (c, notices) => return (notices, .ok c)
    | .error f => return ([], .error ⟨f.message, none⟩)

/-- Does what a command line asks for. -/
def run (line : CommandLine) (env : Environment) : IO (Except Failure Unit) := do
  let log := LogSettings.ofEnvironment env
  let (notices, loaded) ← settings line.settings env
  note log notices
  match loaded with
  | .error f => return .error f
  | .ok c =>
    match line.command with
    | .serve address path => (serve ⟨c, log⟩ address path).block
    | .echo host port message count => (echo ⟨c, log⟩ host port message count.toNat).block

end HttpService.Program

open HttpService HttpService.Program

/-- Runs the program on the words of its command line. -/
def main (args : List String) : IO UInt32 := do
  let env ← environment
  match CommandLine.read (env "SIESTA_CONFIG") args with
  | .error u =>
    if u.exitCode == 0 then
      IO.println usage
    else
      IO.eprintln ("error: " ++ u.name ++ "\n\n" ++ usage)
    return u.exitCode.toUInt32
  | .ok line =>
    match ← run line env with
    | .ok () => return 0
    | .error f =>
      IO.eprintln f.text
      return 1
