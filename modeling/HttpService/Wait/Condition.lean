import HttpService.Error
import HttpService.Wait.Room

/-!
# Condition variables

Tasks wait until a condition on a shared value holds. Whoever changes the value decides whether to wake one of
them or all; a task that is woken tests its condition again. A test may also fail, which ends the wait.
-/

namespace HttpService.Wait

/-- The value that conditions are about, and how often any has been tested. -/
structure Watched (σ : Type) where
  value : σ
  tests : Nat
deriving Repr

/-- A condition on a value, of which the test may fail. -/
abbrev Condition (σ ε : Type) := σ → Except ε Bool

/-- A condition variable with the value that its conditions are about. -/
structure ConditionVariable (ι σ ε : Type) where
  room : Room ι (Condition σ ε) (Watched σ)

namespace ConditionVariable

variable {ι σ ε : Type} [DecidableEq ι]

/-- Nobody waits. -/
def new (value : σ) : ConditionVariable ι σ ε := ⟨.new ⟨value, 0⟩⟩

/-- Tests a condition. -/
def test (c : Condition σ ε) : Signal.Attempt (Watched σ) ε Unit := fun w =>
  (match c w.value with
    | .error e => .error e
    | .ok true => .ok (some ())
    | .ok false => .ok none,
    { w with tests := w.tests + 1 })

/-- Changes the value, without waking anyone. -/
def set (v : ConditionVariable ι σ ε) (value : σ) : ConditionVariable ι σ ε :=
  ⟨{ v.room with state := { v.room.state with value } }⟩

/-- A task enters that waits until a condition holds. -/
def wait (v : ConditionVariable ι σ ε) (i : ι) (c : Condition σ ε) :
    Option (Signal.Polled ε Unit × ConditionVariable ι σ ε) :=
  (v.room.enter test i c).map fun p => (p.1, ⟨p.2⟩)

/-- Waits while nothing else happens, until the time is up. -/
def waitTimeout (v : ConditionVariable ι σ ε) (c : Condition σ ε) :
    Except Error Unit × ConditionVariable ι σ ε :=
  let (r, room) := v.room.once (test c)
  (match r with
    | .ready () => .ok ()
    | _ => .error (.timeout .wait), ⟨room⟩)

/-- Polls a task. -/
def poll (v : ConditionVariable ι σ ε) (i : ι) :
    Option (Signal.Polled ε Unit × ConditionVariable ι σ ε) :=
  (v.room.poll test i).map fun p => (p.1, ⟨p.2⟩)

/-- Gives a task up. -/
def cancel (v : ConditionVariable ι σ ε) (i : ι) : Bool × ConditionVariable ι σ ε :=
  let (had, room) := v.room.cancel i
  (had, ⟨room⟩)

/-- Wakes one task. -/
def notifyOne (v : ConditionVariable ι σ ε) : ConditionVariable ι σ ε := ⟨v.room.wakeOne⟩

/-- Wakes all tasks. -/
def notifyAll (v : ConditionVariable ι σ ε) : ConditionVariable ι σ ε := ⟨v.room.wakeAll⟩

end ConditionVariable

end HttpService.Wait
