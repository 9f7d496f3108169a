import Std.Async.DNS
import Std.Async.TCP
import Std.Async.Timer
import HttpService.Address.Reading
import HttpService.Client.Exchange
import HttpService.Server.Listening
import HttpService.SystemFault
import HttpService.Wire.Source

/-!
# Connections of the system

The outer layer: real connections behind what the rest of the library expects of them. They are a source of reads, an
outlet and a carrier of exchanges; reading and sending are given up when their time is over.
-/

namespace HttpService.Connection

open Std.Async Std.Net

/-- A connection. -/
abbrev Stream := TCP.Socket.Client

/-! ## Addresses and failures -/

/-- The machine that the system knows by this number. -/
def machine : IpAddress → IPAddr
  | .four a b c d => .v4 (IPv4Addr.ofParts a b c d)
  | .eight groups => .v6 ⟨groups⟩

/-- The number of a machine. -/
def ofMachine : IPAddr → IpAddress
  | .v4 a => .four a.octets[0] a.octets[1] a.octets[2] a.octets[3]
  | .v6 a => .eight a.segments

/-- The system's form of an address. -/
def place (a : Address) : SocketAddress :=
  match machine a.ip with
  | .v4 ip => .v4 ⟨ip, a.port⟩
  | .v6 ip => .v6 ⟨ip, a.port⟩

/-- The address that the system names. -/
def ofPlace : SocketAddress → Address
  | .v4 a => ⟨ofMachine (.v4 a.addr), a.port, 0⟩
  | .v6 a => ⟨ofMachine (.v6 a.addr), a.port, 0⟩

/-- The number that the system gives to a failure. -/
def number? : IO.Error → Option UInt32
  | .alreadyExists _ n _ | .otherError n _ | .resourceBusy n _ | .resourceVanished n _
  | .unsupportedOperation n _ | .hardwareFault n _ | .unsatisfiedConstraints n _ | .illegalOperation n _
  | .protocolError n _ | .timeExpired n _ | .interrupted _ n _ | .noFileOrDirectory _ n _
  | .invalidArgument _ n _ | .permissionDenied _ n _ | .resourceExhausted _ n _ | .inappropriateType _ n _
  | .noSuchThing _ n _ => some n
  | .unexpectedEof | .userError _ => none

/-- The failure of a connection that an error of the system tells. -/
def fault (e : IO.Error) : TransportFault :=
  match number? e with
  | some n => .ofSystem (if n.toNat < Nat.pow 2 31 then n.toNat else Nat.pow 2 32 - n.toNat)
  | none => ⟨.other, toString e⟩

/-! ## Time -/

/-- A number of milliseconds. -/
def milliseconds (n : Nat) : Std.Time.Millisecond.Offset := .ofNat n

/-- What an action comes to, unless it takes longer than it may. -/
def within {α : Type} (limit : Option Nat) (action : Async α) : Async (Option α) :=
  match limit with
  | none => some <$> action
  | some n => Async.race (some <$> action) (do
      sleep (milliseconds n)
      return none)

/-! ## Reading and sending -/

/-- One read of a connection. -/
def receive (s : Stream) (deadline : Option Nat) : Async Read := do
  let arrived (bs : Option ByteArray) : Read := .data ((bs.map fun b => b.data.toList).getD [])
  try
    match deadline with
    | none => return arrived (← s.recv? (UInt64.ofNat Reader.readSize))
    | some limit =>
      let now ← IO.monoMsNow
      if limit ≤ now then
        return .late
      let timer ← Selector.sleep (milliseconds (limit - now))
      Selectable.one #[
        .case (s.recvSelector (UInt64.ofNat Reader.readSize)) fun bs => return arrived bs,
        .case timer fun _ => return .late]
  catch e => return .failed (fault e)

/-- Reads one message: how that ended, and the octets that are left. -/
def read {H : Type} (form : Form H) (limits : Limits) (limit : Option Nat) (s : Stream) (buffer : Octets) :
    Async (Ended H × Octets) := do
  let now ← IO.monoMsNow
  Reader.readFrom form limits (receive s (limit.map (now + ·))) buffer

/-- Sends octets. -/
def send (limit : Option Nat) (s : Stream) (bs : Octets) : Async Delivery := do
  try
    match ← within limit (s.send bs.toByteArray) with
    | some () => return .whole
    | none => return .late 0
  catch e => return .failed 0 (fault e)

/-- The outlet of a connection. -/
def outlet (limit : Option Nat) (s : Stream) : Outlet Async := ⟨send limit s, fun _ => return ()⟩

/-- The carrier of exchanges on connections, with limits in time for writing and for reading. -/
def carrier (limits : Limits) (writeLimit readLimit : Option Nat) : Carrier Async Stream where
  send s bs := return (some (← send writeLimit s bs), s)
  receive m s buffer := do
    let (how, left) ← read (.response m) limits readLimit s buffer
    return (some how, left, s)

/-! ## Beginning and ending -/

/-- Connects to an address. -/
def connect (limit : Option Nat) (a : Address) : Async (Attempt Stream) := do
  try
    let s ← TCP.Socket.Client.mk
    match ← within limit (s.connect (place a)) with
    | some () => return .connected s
    | none => return .late
  catch e => return .failed (fault e)

/-- The addresses of a host. -/
def lookup (limit : Option Nat) (host : String) (port : UInt16) : Async (Lookup Address) := do
  match IpAddress.read? host with
  | some ip => return .found [⟨ip, port, 0⟩]
  | none =>
    try
      match ← within limit (DNS.getAddrInfo host "") with
      | some machines => return .found (machines.toList.map fun ip => ⟨ofMachine ip, port, 0⟩)
      | none => return .late
    catch e => return .failed (fault e)

/-- Takes one step to a listening socket. -/
def listenStep (server : TCP.Socket.Server) (a : Address) (backlog : UInt32) (step : ListenStep) :
    Async (Except TransportFault Unit) := do
  try
    match step with
    | .openSocket | .allowReuse => return .ok ()
    | .bindAddress => server.bind (place a)
    | .startListening => server.listen backlog
    return .ok ()
  catch e => return .error (fault e)

/-- Ends the sending side of a connection: the failure if there was one. -/
def close (s : Stream) : Async (Option TransportFault) := do
  try
    s.shutdown
    return none
  catch e => return some (fault e)

end HttpService.Connection
