import HttpService.RequestId
import HttpService.Server.Report
import HttpService.Server.Script
import HttpService.Wire.Delivery
import HttpService.Wire.Encoder

/-!
# Exchanges

The answering of one request. An exchange begins with an empty response that carries the correlation identifier
and says whether the connection ends; a handler's script is then played on it.

* Every exchange of a session is begun on what the one before has left (`Exchange.renew`), of which it keeps nothing
  (`Exchange.renew_eq_start`).
* A response is written once: a second write is refused and sends nothing.
* A write counts from its start, so one that was given up counts too.
* A failed write is kept in the exchange, whatever the handler makes of it (`Exchange.report`).
-/

namespace HttpService

/-- Makes a text the only value of a name, if the text can be a value. -/
def Fields.insertText (hs : Fields) (n : FieldName) (s : String) : Fields :=
  (FieldValue.ofText? s).elim hs (hs.insert n)

/-- The answering of one request. -/
structure Exchange where
  method : Method
  requestId : RequestId
  response : Response
  /-- Whether a write of the response has started. -/
  written : Bool
  /-- The failure of the write. -/
  trouble : Option Error

namespace Exchange

/-- The identifier of a request: the one that it names, or else a fresh one. -/
def idOf (request : Request) (fresh : RequestId) : RequestId :=
  RequestId.ofHeader ((request.fields.get? .requestId).bind FieldValue.text?) fresh

/-- The response that every handler starts from. -/
def blank (request : Request) (id : RequestId) : Response :=
  let fields := Fields.empty.insertText .requestId id.text
  { Response.blank with
    version := request.version
    fields := if wantsClose request.version request.fields then fields.insert .connection .close else fields }

/-- The exchange in which a request is answered. -/
def start (request : Request) (fresh : RequestId) : Exchange :=
  let id := idOf request fresh
  ⟨request.method, id, blank request id, false, none⟩

/-- The exchange of a session that has not been asked for anything. -/
def idle (id : RequestId) : Exchange := ⟨.get, id, Response.blank, false, none⟩

/-- Begins the exchange in which a request is answered, on what the exchange before has left. -/
def renew (x : Exchange) (request : Request) (fresh : RequestId) : Exchange :=
  let x := { x with requestId := idOf request fresh }
  let x := { x with method := request.method }
  let x := { x with written := false, trouble := none }
  { x with response := blank request x.requestId }

/-- Nothing of the exchange before is kept. -/
theorem renew_eq_start (x : Exchange) (request : Request) (fresh : RequestId) :
    x.renew request fresh = start request fresh := rfl

/-- The octets of the response as it stands. -/
def octets (x : Exchange) : Octets := Encoder.response x.response x.method

/-- A response is written once. -/
def alreadyWritten : Error := .handler "response already written"

/-- Plays a script on an exchange. -/
def play {m : Type → Type} [Monad m] {α : Type} (out : Outlet m) : Script α → Exchange → m (α × Exchange)
  | .finish a, x => pure (a, x)
  | .change f next, x => play out next { x with response := f x.response }
  | .write next, x =>
    -- The refusal is the handler's to deal with. It is no failure of the connection.
    if x.written then play out (next (.error alreadyWritten)) x
    else do
      let d ← out.send x.octets
      play out (next d.result) { x with written := true, trouble := d.error? }
  | .abandon next, x =>
    if x.written then play out next x
    else do
      out.start x.octets
      -- Nobody waits for the end of this write, so no failure of it is known.
      play out next { x with written := true }

/-- What is told of an exchange after its handler came to this result. The failure of a write comes before what
the handler says, and a handler that says it is done has to have written. -/
def report (x : Exchange) (result : Except Error Unit) : Option Report :=
  match x.trouble, result with
  | some cause, _ => some ⟨.writing, cause⟩
  | none, .error cause => some ⟨.handling, cause⟩
  | none, .ok _ => if x.written then none else some ⟨.handling, .responseNotWritten⟩

end Exchange

end HttpService
