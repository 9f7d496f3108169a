import HttpService.Octets
import HttpService.Error

/-!
# Sending octets

What becomes of octets that are handed to a connection: all of them are taken, or some are and then the
connection fails or the time for writing is over.

A sender is known by what it does with each write. `Sink` is one that fails at a fixed place; `Outgoing` is the
sending side of a connection of which it is given what will become of each write.
-/

namespace HttpService

/-- What becomes of octets that are to be sent. -/
inductive Delivery where
  | whole
  | failed (count : Nat) (cause : TransportFault)
  | late (count : Nat)
deriving DecidableEq

namespace Delivery

/-- The octets that were taken. -/
def taken (d : Delivery) (bs : Octets) : Octets :=
  match d with
  | whole => bs
  | failed count _ | late count => bs.take count

/-- The failure, if there was one. -/
def error? : Delivery → Option Error
  | whole => none
  | failed _ cause => some (.io cause)
  | late _ => some (.timeout .write)

/-- How the write ended. -/
def result (d : Delivery) : Except Error Unit := d.error?.elim (.ok ()) .error

end Delivery

/-- A place to write to that fails after some octets or when it is flushed. -/
structure Sink where
  /-- How many octets are taken before writing fails, and how it fails. -/
  failure : Option (Nat × FaultKind) := none
  flushFailure : Option FaultKind := none

/-- What becomes of octets that are written to a sink. -/
def Sink.delivery (s : Sink) (bs : Octets) : Delivery :=
  let flushed := s.flushFailure.elim .whole fun kind => .failed bs.length kind.fault
  match s.failure with
  | none => flushed
  | some (count, kind) => if bs.length ≤ count then flushed else .failed count kind.fault

/-- How octets leave, where sending is an effect. -/
structure Outlet (m : Type → Type) where
  /-- Sends octets and waits for what becomes of them. -/
  send : Octets → m Delivery
  /-- Starts to send octets and does not wait. -/
  start : Octets → m Unit

/-- The sending side of a connection: what will become of its next writes, and what it has taken so far. When
there is nothing more in the list every write is whole. -/
structure Outgoing where
  coming : List Delivery
  sent : Octets

namespace Outgoing

/-- Sends octets. -/
def send (bs : Octets) : StateM Outgoing Delivery := fun o =>
  let d := o.coming.headD .whole
  (d, ⟨o.coming.tail, o.sent ++ d.taken bs⟩)

/-- Starts to send octets: as many leave as the next delivery says. -/
def start (bs : Octets) : StateM Outgoing Unit := fun o => ((), (send bs o).2)

/-- The outlet of a connection. -/
def outlet : Outlet (StateM Outgoing) := ⟨send, start⟩

end Outgoing

end HttpService
