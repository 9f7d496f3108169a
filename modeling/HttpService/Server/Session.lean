import HttpService.Server.Handler
import HttpService.Wire.Consumed

/-!
# Sessions of a server

A session serves one connection: it reads a request, answers it and reads the next one, until a request asks for
the end of the connection, the peer leaves or something fails. At most one report is made, and it ends the
session.

`Service.answer` answers one request wherever octets can be sent. `Service.serve` is a whole session on a
connection of which it is given what its reads bring and what becomes of its writes; it returns the course of
the session.
-/

namespace HttpService

/-- What the sessions of a server have in common. -/
structure Service where
  router : Router Handler
  limits : Limits

/-- One accepted connection. -/
structure Session where
  id : SessionId
  peer : Address

/-- What happens in a session. -/
inductive SessionEvent where
  /-- A request was read. -/
  | received (request : Request)
  /-- Octets left in answer to it. -/
  | sent (octets : Octets)
  | reported (report : Report)
  /-- The peer left, and that is no failure. -/
  | peerLeft (how : Error)
  /-- The session broke off without a word. -/
  | brokeOff
deriving DecidableEq

namespace Service

/-- What is done for a request. -/
def script (s : Service) (session : Session) (id : RequestId) (request : Request) :
    Script (Except Error Unit) :=
  match s.router.lookup request.method request.target.path with
  | some found => found.handler ⟨session.id, session.peer, id, request, found.wildcards⟩
  | none => unrouted s.router request.method request.target.path

/-- Answers a request in an exchange that was begun for it: how the exchange stands at its end, and what is to be
reported. -/
def answerIn {m : Type → Type} [Monad m] (out : Outlet m) (s : Service) (session : Session) (x : Exchange)
    (request : Request) : m (Exchange × Option Report) := do
  let (result, x) ← x.play out (s.script session x.requestId request)
  return (x, x.report result)

/-- Answers a request. -/
def answer {m : Type → Type} [Monad m] (out : Outlet m) (s : Service) (session : Session) (fresh : RequestId)
    (request : Request) : m (Exchange × Option Report) :=
  s.answerIn out session (Exchange.start request fresh) request

/-- What is told when a request cannot be read. -/
def afterFailedRead (e : Error) : SessionEvent := if e.isPeerClosed then .peerLeft e else .reported ⟨.reading, e⟩

/-- Serves a connection. `fresh` are identifiers for requests that bring none, one for each request; `coming`
is what will become of the writes. -/
def serve (s : Service) (session : Session) (fresh : Nat → RequestId) (buffer : Octets) (reads : List Read)
    (coming : List Delivery) : List SessionEvent :=
  match _h : Reader.read .request s.limits buffer reads with
  | ⟨.failed e, _, _⟩ => [afterFailedRead e]
  | ⟨.overflowed, _, _⟩ => [.brokeOff]
  | ⟨.message head body, left, later⟩ =>
    -- What follows the request in the buffer is the start of the next one.
    let request := head.withBody body
    let ((_, report), out) := (s.answer Outgoing.outlet session (fresh 0) request).run ⟨coming, []⟩
    let events : List SessionEvent := [.received request, .sent out.sent]
    match report with
    | some r => events ++ [.reported r]
    | none =>
      -- The response has said so already; see `Exchange.blank`.
      if wantsClose request.version request.fields then events
      else events ++ s.serve session (fun n => fresh (n + 1)) left later out.coming
termination_by Reader.available buffer reads
decreasing_by
  have e : Reader.read .request s.limits buffer reads = ⟨.message head body, left, later⟩ := _h
  have := Reader.available_lt Head.shortens_requestHead s.limits buffer reads (congrArg ReadResult.how e)
  rwa [e] at this

end Service

/-! ## The course of a session -/

namespace SessionEvent

/-- The octets that left. -/
def sentOctets (events : List SessionEvent) : Octets :=
  events.flatMap fun
    | .sent bs => bs
    | _ => []

/-- The requests that were read. -/
def requests (events : List SessionEvent) : List Request :=
  events.filterMap fun
    | .received r => some r
    | _ => none

/-- The reports that were made. -/
def reports (events : List SessionEvent) : List Report :=
  events.filterMap fun
    | .reported r => some r
    | _ => none

end SessionEvent

end HttpService
