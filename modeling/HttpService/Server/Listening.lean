import HttpService.Server.Report

/-!
# Beginning to listen

A server opens a socket, takes its address and begins to listen. The first step that fails is reported and ends
the attempt; nothing is left running then. Once it listens, whether connections are taken can be tried out.
-/

namespace HttpService

/-- One step to a listening socket. -/
inductive ListenStep where
  | openSocket
  | allowReuse
  | bindAddress
  | startListening
deriving DecidableEq, Repr

namespace ListenStep

/-- The steps in order. -/
def all : List ListenStep := [.openSocket, .allowReuse, .bindAddress, .startListening]

/-- Where a failure of the step is reported. -/
def facility : ListenStep → Facility
  | .openSocket | .allowReuse => .opening
  | .bindAddress => .binding
  | .startListening => .listening

variable {m : Type → Type} [Monad m]

/-- Takes some steps, up to the first that fails. -/
def take (attempt : ListenStep → m (Except TransportFault Unit)) : List ListenStep → m (Except Report Unit)
  | [] => return .ok ()
  | step :: steps => do
    match ← attempt step with
    | .ok () => take attempt steps
    | .error cause => return .error ⟨step.facility, .io cause⟩

/-- Takes all steps. -/
def takeAll (attempt : ListenStep → m (Except TransportFault Unit)) : m (Except Report Unit) := take attempt all

end ListenStep

namespace Readiness

/-- How often a new server is tried. -/
def attempts : Nat := 50

/-- How long to wait between two attempts, in milliseconds. -/
def pause : Nat := 5

/-- No attempt was answered. -/
def notReady : TransportFault := ⟨.timedOut, "server not ready"⟩

variable {m : Type → Type} [Monad m]

/-- Tries a server until it takes a connection, `count` times at most. -/
def wait (connects : m Bool) (sleep : Nat → m Unit) : Nat → m (Except TransportFault Unit)
  | 0 => return .error notReady
  | count + 1 => do
    if ← connects then return .ok ()
    sleep pause
    wait connects sleep count

end Readiness

end HttpService
