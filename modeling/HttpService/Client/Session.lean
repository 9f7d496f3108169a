import HttpService.Address
import HttpService.Message
import HttpService.Notice
import HttpService.Wire.Head

/-!
# Sessions of a client

A client session holds one connection and carries one exchange at a time on it.

* A session is `ready` after it was connected and after every exchange that left the connection usable,
  whatever the status of the response.
* An exchange that fails loses the connection (`finish`); so does a response after which the server closes.
* An exchange that was begun and never finished leaves the session `waiting`. It refuses every other exchange
  until it is connected anew or stopped, since nobody knows how much of the response is still to come.

What is done with the connection itself is not said here: `begin?` gives the request that is to be written, and
`finish` takes what came of it.
-/

namespace HttpService

/-- Where a session is in its cycle. -/
inductive ClientPhase where
  /-- Not connected. -/
  | disconnected
  /-- Ready for an exchange. -/
  | ready
  /-- In the middle of an exchange. -/
  | waiting
  /-- A response has come and is being looked at. -/
  | done
deriving DecidableEq, Repr

/-- The name of a phase. -/
def ClientPhase.text : ClientPhase → String
  | .disconnected => "Disconnected"
  | .ready => "Send"
  | .waiting => "Receive"
  | .done => "Done"

/-- A session on streams of a type. -/
structure ClientSession (σ : Type) where
  phase : ClientPhase
  stream : Option σ
  /-- The octets received and not used. -/
  buffer : Octets
  /-- The host that requests name. -/
  host : Option FieldValue
  peer : Option Address

namespace ClientSession

variable {σ : Type}

/-- A session without a connection. -/
def new : ClientSession σ := ⟨.disconnected, none, [], none, none⟩

/-- Drops the connection. -/
def reset (_ : ClientSession σ) : ClientSession σ := new

/-- Takes a connection to a peer. -/
def opened (s : ClientSession σ) (stream : σ) (host : FieldValue) (peer : Address) : ClientSession σ :=
  { s with phase := .ready, stream := some stream, host := some host, peer := some peer }

/-- A request that names the host, if it names none itself. -/
def hosted (s : ClientSession σ) (r : Request) : Request :=
  match s.host with
  | some host => if r.fields.contains .host then r else { r with fields := r.fields.insert .host host }
  | none => r

/-- Begins an exchange: the stream and the request to be written on it. -/
def begin? (s : ClientSession σ) (r : Request) : Except Error (σ × Request × ClientSession σ) :=
  match s.phase, s.stream with
  | .ready, some stream => .ok (stream, s.hosted r, { s with phase := .waiting })
  -- Without a stream there is nobody to send to, whatever the phase says.
  | .ready, none | .disconnected, _ => .error .notConnected
  | .waiting, _ | .done, _ => .error .sessionBusy

/-- What a caller is told of a response: one outside the class of success is a failure. -/
def judged (r : Response) : Except Error Response :=
  if r.status.isSuccess then .ok r else .error (.status r.status r.body)

/-- Ends an exchange with what came of it. -/
def finish (s : ClientSession σ) (outcome : Except Error Response) :
    ClientSession σ × List Notice × Except Error Response :=
  let s := { s with phase := .done }
  match outcome with
  | .error e => (s.reset, [.exchangeFailed e], .error e)
  -- The connection is kept or dropped by what the response says, and only then is its status judged.
  | .ok r => (if wantsClose r.version r.fields then s.reset else { s with phase := .ready }, [], judged r)

/-- The request that asks for a target. -/
def getRequest (target : String) : Except Error Request :=
  match Request.build "GET" target .http11 [] "" with
  | .ok r => .ok r
  | .error fault => .error (.protocol (.described fault.message))

end ClientSession

end HttpService
