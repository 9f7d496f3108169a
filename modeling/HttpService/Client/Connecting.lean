import HttpService.Client.Session

/-!
# Connecting a client

A session connects to the first address of a host that takes the connection. Whatever it was connected to before
is dropped first, so an attempt that fails or is given up leaves it without a connection.
-/

namespace HttpService

/-- How one attempt to connect ends. -/
inductive Attempt (σ : Type) where
  | connected (stream : σ)
  | failed (cause : TransportFault)
  /-- The time for connecting was over. -/
  | late
  /-- The caller did not wait for it. -/
  | dropped

/-- How looking for the addresses of a host ends. -/
inductive Lookup (α : Type) where
  | found (addresses : List α)
  | failed (cause : TransportFault)
  | late
  | dropped

/-- What a call returns; `none` if the caller did not wait for it. -/
abbrev Returned (α : Type) := Option (Except Error α)

namespace ClientSession

variable {σ : Type} {m : Type → Type} [Monad m]

/-- How a host and a port are named in a request: port 80 goes without saying. -/
def authority (host : String) (port : UInt16) : String :=
  if port = 80 then host else host ++ ":" ++ Decimal.text port.toNat

/-- Connects to the first of some addresses that takes the connection. `last` is the failure of the attempt
before. -/
def connectFirst (s : ClientSession σ) (host : FieldValue) (name : String) :
    Option Error → List (Address × m (Attempt σ)) → m (ClientSession σ × List Notice × Returned Unit)
  -- The last failure is the one that is told; all of them were recorded.
  | last, [] => return (s, [], some (.error (last.getD (.noAddress name))))
  | _, (address, attempt) :: rest => do
    let failed (e : Error) : m (ClientSession σ × List Notice × Returned Unit) := do
      let (s, notices, result) ← connectFirst s host name (some e) rest
      return (s, .connectFailed address.text e :: notices, result)
    match ← attempt with
    | .connected stream => return (s.opened stream host address, [], some (.ok ()))
    | .failed cause => failed (.connect cause)
    | .late => failed (.timeout .connect)
    | .dropped => return (s, [], none)

/-- Connects to the first of some addresses that takes the connection, under this name. -/
def connectAny (s : ClientSession σ) (name : String) (addresses : List (Address × m (Attempt σ))) :
    m (ClientSession σ × List Notice × Returned Unit) :=
  match FieldValue.ofText? name with
  | some host => s.connectFirst host name none addresses
  | none => return (s, [], some (.error (.protocol (.badHost name))))

/-- Connects to a host. -/
def start (s : ClientSession σ) (host : String) (port : UInt16)
    (lookup : m (Lookup (Address × m (Attempt σ)))) : m (ClientSession σ × List Notice × Returned Unit) := do
  -- Before anything else, so that an attempt given up leaves nothing behind.
  let s := s.reset
  match ← lookup with
  | .found [] => return (s, [], some (.error (.noAddress host)))
  | .found addresses => s.connectAny (authority host port) addresses
  | .failed cause => return (s, [], some (.error (.resolve host cause)))
  | .late => return (s, [], some (.error (.timeout .resolve)))
  | .dropped => return (s, [], none)

/-- Connects to an address. -/
def startAddress (s : ClientSession σ) (a : Address) (attempt : m (Attempt σ)) :
    m (ClientSession σ × List Notice × Returned Unit) :=
  s.reset.connectAny a.text [(a, attempt)]

end ClientSession

end HttpService
