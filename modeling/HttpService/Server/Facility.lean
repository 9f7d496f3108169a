/-!
# Facilities

The places of a server where something may fail. A report names one of them beside the failure.
-/

namespace HttpService

/-- A place of a server where something may fail. -/
inductive Facility where
  /-- Opening a socket. -/
  | opening
  /-- Taking an address. -/
  | binding
  /-- Starting to listen. -/
  | listening
  /-- Taking a connection. -/
  | accepting
  | reading
  | writing
  /-- The handler of a request. -/
  | handling
deriving DecidableEq, Repr

/-- The name of a facility in a report. -/
def Facility.text : Facility → String
  | .opening => "acceptor::open"
  | .binding => "acceptor::bind"
  | .listening => "acceptor::listen"
  | .accepting => "on_accept"
  | .reading => "on_read"
  | .writing => "on_write"
  | .handling => "handle_request"

end HttpService
