import HttpService.Server.Session
import HttpService.Wire.Source

/-!
# Sessions round by round

A session reads a request, answers it and goes on with what is left: the exchange, which the next request begins anew,
and the octets that came behind the request. `Service.serveIn` is a session in any surroundings. On a connection of the
system its rounds are effects; in surroundings of which it is known what they will bring (`Foreseen`) it has the course
that `Service.serve` says.
-/

namespace HttpService

/-- What became of one round of a session. -/
inductive Round where
  /-- No request could be read. -/
  | unread (event : SessionEvent)
  | answered (request : Request) (report : Option Report)

/-- What happened in a round in which these octets left. -/
def Round.events (sent : Octets) : Round → List SessionEvent
  | unread event => [event]
  | answered request report => [.received request, .sent sent] ++ (report.map .reported).toList

/-- What a session works with. -/
structure Surroundings (m : Type → Type) where
  /-- Reads a request, of which these octets have come already: how that ends, and the octets that are left. -/
  receive : Octets → m (Ended RequestHead × Octets)
  outlet : Outlet m
  /-- An identifier that no request has had. -/
  fresh : m RequestId
  /-- Takes note of a round. -/
  tell : Round → m Unit

namespace Service

variable {m : Type → Type} [Monad m]

/-- One round of a session: reads a request and answers it. If there is another round to come, it begins with the
exchange and the octets that are left. -/
def round (s : Service) (session : Session) (around : Surroundings m) (x : Exchange) (buffer : Octets) :
    m (Exchange × Octets ⊕ Unit) := do
  match ← around.receive buffer with
  | (.failed e, _) =>
    around.tell (.unread (afterFailedRead e))
    return .inr ()
  | (.overflowed, _) =>
    around.tell (.unread .brokeOff)
    return .inr ()
  | (.message head body, left) =>
    let request := head.withBody body
    let (x, report) ← s.answerIn around.outlet session (x.renew request (← around.fresh)) request
    around.tell (.answered request report)
    return if report.isSome || wantsClose request.version request.fields then .inr () else .inl (x, left)

/-- Serves a connection round by round, from an exchange and from octets that have come already. -/
def serveIn (s : Service) (session : Session) (around : Surroundings m) (x : Exchange) (buffer : Octets) : m Unit :=
  repeatM (fun (x, buffer) => s.round session around x buffer) (x, buffer)

end Service

/-! ## Foreseen surroundings -/

/-- Surroundings of which it is known what they will bring, and what has happened in them. -/
structure Foreseen where
  reads : List Read
  /-- The writes, with what has left since the last round. -/
  out : Outgoing
  fresh : Nat → RequestId
  events : List SessionEvent

namespace Foreseen

instance : Nonempty Foreseen := ⟨[], ⟨[], []⟩, fun _ => .made 0 0, []⟩

/-- Does something with the writes. -/
def sending {α : Type} (act : StateM Outgoing α) : StateM Foreseen α := fun f =>
  let (a, out) := act.run f.out
  (a, { f with out })

/-- The outlet of foreseen surroundings. -/
def outlet : Outlet (StateM Foreseen) := ⟨fun bs => sending (Outgoing.send bs), fun bs => sending (Outgoing.start bs)⟩

/-- Reads a request from the reads to come. -/
def receive (limits : Limits) (buffer : Octets) : StateM Foreseen (Ended RequestHead × Octets) := fun f =>
  let (result, reads) := (Reader.readFrom .request limits Reader.nextRead buffer).run f.reads
  (result, { f with reads })

/-- The next identifier. -/
def takeFresh : StateM Foreseen RequestId := fun f => (f.fresh 0, { f with fresh := fun n => f.fresh (n + 1) })

/-- Takes note of a round, with what has left in it. -/
def tell (r : Round) : StateM Foreseen Unit := fun f =>
  ((), { f with out := { f.out with sent := [] }, events := f.events ++ r.events f.out.sent })

/-- The surroundings of a session in which it is known what will come. -/
def surroundings (limits : Limits) : Surroundings (StateM Foreseen) := ⟨receive limits, outlet, takeFresh, tell⟩

end Foreseen

end HttpService
