import HttpService.Notice
import HttpService.Wait.Room

/-!
# Semaphores

A semaphore lends out at most `max` permits. A permit is held under a name until it is dropped, which returns it,
or forgotten, which does not; `release` returns one that was forgotten. More than `max` can never be available:
a return beyond that fails and changes nothing.
-/

namespace HttpService.Wait

/-- A semaphore whose permits and waiting tasks have names. -/
structure Semaphore (ι : Type) where
  max : Nat
  room : Room ι Unit Nat
  /-- The names under which permits are held. -/
  held : List ι

namespace Semaphore

variable {ι : Type} [DecidableEq ι]

/-- A semaphore with all permits available. -/
def new (max : Nat) : Semaphore ι := ⟨max, .new max, []⟩

/-- A semaphore with so many permits available. -/
def withPermits (max initial : Nat) : Except Error (Semaphore ι) :=
  if max < initial then .error (.invalidInitialPermits initial max) else .ok ⟨max, .new initial, []⟩

/-- How many permits are available. -/
def available (s : Semaphore ι) : Nat := s.room.state

/-- Takes a permit, if one is available. -/
def takePermit (_ : Unit) : Signal.Attempt Nat Empty Unit
  | 0 => (.ok none, 0)
  | n + 1 => (.ok (some ()), n)

/-- Returns one permit and wakes one who waits. -/
def release (s : Semaphore ι) : Except Error (Semaphore ι) :=
  if s.available < s.max then .ok { s with room := Room.wakeOne { s.room with state := s.room.state + 1 } }
  else .error (.semaphoreOverflow s.max)

/-- Returns the permit of a holder that is gone. If that fails there is nobody to tell but the log. -/
def giveBack (s : Semaphore ι) : Semaphore ι × List Notice :=
  match s.release with
  | .ok s => (s, [])
  | .error cause => (s, [.permitRefused cause])

/-- Holds a permit under a name. One that was held under it before is dropped. -/
def hold (s : Semaphore ι) (i : ι) : Semaphore ι × List Notice :=
  -- The new permit takes the place of the old one, so the list of names stays as it is.
  if i ∈ s.held then s.giveBack else ({ s with held := i :: s.held }, [])

/-- Takes a permit without waiting. -/
def tryAcquire (s : Semaphore ι) (i : ι) : Option (Semaphore ι × List Notice) :=
  match s.room.state with
  | 0 => none
  | n + 1 => some (hold { s with room := { s.room with state := n } } i)

/-- The semaphore after a poll of a task: what it found it holds. -/
def afterPoll (s : Semaphore ι) (i : ι) (p : Signal.Polled Empty Unit × Room ι Unit Nat) :
    Signal.Polled Empty Unit × Semaphore ι × List Notice :=
  let s := { s with room := p.2 }
  match p.1 with
  | .ready () => (.ready (), s.hold i)
  | r => (r, s, [])

/-- A task enters that takes a permit. -/
def acquire (s : Semaphore ι) (i : ι) : Option (Signal.Polled Empty Unit × Semaphore ι × List Notice) :=
  (s.room.enter takePermit i ()).map (s.afterPoll i)

/-- Polls a task. -/
def poll (s : Semaphore ι) (i : ι) : Option (Signal.Polled Empty Unit × Semaphore ι × List Notice) :=
  (s.room.poll takePermit i).map (s.afterPoll i)

/-- Gives a task up. -/
def cancel (s : Semaphore ι) (i : ι) : Bool × Semaphore ι :=
  let (had, room) := s.room.cancel i
  (had, { s with room := room })

/-- Drops the permit held under a name, if there is one. -/
def drop (s : Semaphore ι) (i : ι) : Option (Semaphore ι × List Notice) :=
  if i ∈ s.held then some (giveBack { s with held := s.held.erase i }) else none

/-- Keeps the permit held under a name from being returned, if there is one. -/
def forget (s : Semaphore ι) (i : ι) : Option (Semaphore ι) :=
  if i ∈ s.held then some { s with held := s.held.erase i } else none

end Semaphore

end HttpService.Wait
