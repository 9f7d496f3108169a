/-!
# Signals

A signal wakes those who wait for something to change. Whoever waits first registers, then looks whether there
is still anything to wait for, and only then suspends itself: so no wake between the look and the suspension is
lost.

* A registration is `armed` when it is made and starts to wait when it is first looked at. `wakeOne` picks the
  one that has waited longest, or stores a permit for the next to come if nobody waits; `wakeAll` picks all that
  wait and also ends those that were armed before it.
* A registration that is given up after a single wake has picked it, and before it was looked at again, passes
  the wake on (`leave`).
* `turns` and `resume` are what one poll of a waiting task does: it registers, tries, and if there was nothing
  looks whether its registration is over already. That can only be so because a stored permit was there, so
  there is never a third try (`permit_of_again`, `turn_eq_ended`).
-/

namespace HttpService.Wait

/-- Who picked a registration. -/
inductive Pick where
  | single
  | all
deriving DecidableEq, Repr

/-- How far a registration has come. -/
inductive Stage where
  /-- Made after so many wakes of all, and not looked at. -/
  | armed (wakes : Nat)
  /-- Waiting; `suspended` says whether its owner is to be woken. -/
  | waiting (suspended : Bool)
  /-- Picked, and not looked at since. -/
  | picked (by_ : Pick)
  | finished
deriving DecidableEq, Repr

/-- A signal with registrations that are named by their owners. -/
structure Signal (ι : Type) where
  /-- Whether a single wake is stored. -/
  permit : Bool
  /-- How often all have been woken. -/
  wakes : Nat
  stage : ι → Option Stage
  /-- The registrations that wait, the longest waiting first. -/
  queue : List ι

variable {ι σ α ε : Type} [DecidableEq ι]

namespace Signal

/-- No registrations and nothing stored. -/
def new : Signal ι := ⟨false, 0, fun _ => none, []⟩

/-- Changes how far one registration has come. -/
def setStage (s : Signal ι) (i : ι) (g : Option Stage) : Signal ι :=
  { s with stage := fun j => if j = i then g else s.stage j }

/-- Whether the owner of a registration is to be woken. -/
def isSuspended (s : Signal ι) (i : ι) : Bool := s.stage i == some (.waiting true)

/-- Wakes the one that has waited longest, or stores the wake. Returns who is woken. -/
def wakeOne (s : Signal ι) : Signal ι × List ι :=
  match s.queue with
  | [] => ({ s with permit := true }, [])
  | i :: rest =>
    ({ s.setStage i (some (.picked .single)) with queue := rest }, if s.isSuspended i then [i] else [])

/-- Wakes all that wait. Returns who is woken, the longest waiting first. -/
def wakeAll (s : Signal ι) : Signal ι × List ι :=
  ({ s with
      wakes := s.wakes + 1
      stage := fun j => if j ∈ s.queue then some (.picked .all) else s.stage j
      queue := [] },
    s.queue.filter s.isSuspended)

/-- Gives a registration up. Returns who is woken in its place. -/
def leave (s : Signal ι) (i : ι) : Signal ι × List ι :=
  -- A single wake that reached it and was not seen belongs to the next in the queue.
  let left := { s.setStage i none with queue := s.queue.filter (· ≠ i) }
  if s.stage i = some (.picked .single) then left.wakeOne else (left, [])

/-- Registers, giving up an earlier registration of the same owner. Returns who is woken in its place. -/
def arm (s : Signal ι) (i : ι) : Signal ι × List ι :=
  let (s, woken) := s.leave i
  (s.setStage i (some (.armed s.wakes)), woken)

/-- Looks at a registration: whether it is over. If it is not, it waits from now on; `suspend` says whether its
owner is to be woken. -/
def look (suspend : Bool) (s : Signal ι) (i : ι) : Bool × Signal ι :=
  match s.stage i with
  | none => (false, s)
  | some (.armed wakes) =>
    -- All have been woken since it was made: it is over, and a stored wake is left to another.
    if wakes ≠ s.wakes then (true, s.setStage i (some .finished))
    else if s.permit then (true, { s.setStage i (some .finished) with permit := false })
    else (false, { s.setStage i (some (.waiting suspend)) with queue := s.queue ++ [i] })
  | some (.waiting suspended) => (false, s.setStage i (some (.waiting (suspended || suspend))))
  | some (.picked _) => (true, s.setStage i (some .finished))
  | some .finished => (true, s)

/-! ## One poll of a waiting task -/

/-- How a poll ends. -/
inductive Polled (ε α : Type) where
  | pending
  | ready (a : α)
  | failed (e : ε)
deriving DecidableEq, Repr

/-- What a poll did: how it ended, how often it tried, and what it left behind. -/
structure Poll (ι σ ε α : Type) where
  result : Polled ε α
  tries : Nat
  signal : Signal ι
  state : σ

/-- A try at what is waited for: it may find it, find nothing, or fail. -/
abbrev Attempt (σ ε α : Type) := σ → Except ε (Option α) × σ

/-- The signal when a fresh registration has been looked at, before the try, and whether the registration is
over. -/
def registered (s : Signal ι) (i : ι) : Bool × Signal ι := (s.arm i).1.look false i

/-- Where one turn of a task leads: to the end of the poll, or to another turn because its registration is over
already. -/
inductive Turn (ι σ ε α : Type) where
  | ended (poll : Poll ι σ ε α)
  | again (signal : Signal ι) (state : σ)

/-- One turn: registers, tries, and if there is nothing looks at the registration again. The task has no
registration before; afterwards it has one only if it waits. -/
def turn (attempt : Attempt σ ε α) (s : Signal ι) (i : ι) (state : σ) : Turn ι σ ε α :=
  let armed := (s.registered i).2
  -- The registration comes before the try, so a change after the try finds it.
  match attempt state with
  | (.error e, state) => .ended ⟨.failed e, 1, (armed.leave i).1, state⟩
  | (.ok (some a), state) => .ended ⟨.ready a, 1, (armed.leave i).1, state⟩
  | (.ok none, state) =>
    let (finished, looked) := armed.look true i
    if finished then .again (looked.leave i).1 state else .ended ⟨.pending, 1, looked, state⟩

/-- Turns until something is found or nothing is left but to wait. The second turn is the last
(`turn_eq_ended`). -/
def turns (attempt : Attempt σ ε α) (s : Signal ι) (i : ι) (state : σ) : Poll ι σ ε α :=
  match turn attempt s i state with
  | .ended poll => poll
  | .again s state =>
    match turn attempt s i state with
    | .ended poll => { poll with tries := poll.tries + 1 }
    | .again s state => ⟨.pending, 2, s, state⟩

/-- Goes on with a task that waits: if its registration is over it tries again. -/
def resume (attempt : Attempt σ ε α) (s : Signal ι) (i : ι) (state : σ) : Poll ι σ ε α :=
  let (finished, s) := s.look true i
  if finished then turns attempt (s.leave i).1 i state else ⟨.pending, 0, s, state⟩

/-- Only a stored permit leads to another turn, and it is used up by that. -/
theorem permit_of_again {attempt : Attempt σ ε α} {s s' : Signal ι} {i : ι} {state state' : σ}
    (free : s.stage i = none) (h : turn attempt s i state = .again s' state') :
    s.permit = true ∧ s'.permit = false ∧ s'.stage i = none := by
  unfold turn at h
  cases hp : s.permit with
  | false =>
    split at h <;> simp [registered, arm, leave, free, setStage, look, hp] at h
  | true =>
    split at h <;> simp [registered, arm, leave, free, setStage, look, hp] at h
    obtain ⟨rfl, rfl⟩ := h
    simp

/-- Without a stored permit a turn is the last. -/
theorem turn_eq_ended {attempt : Attempt σ ε α} {s : Signal ι} {i : ι} {state : σ}
    (free : s.stage i = none) (h : s.permit = false) : ∃ poll, turn attempt s i state = .ended poll := by
  cases e : turn attempt s i state with
  | ended poll => exact ⟨poll, rfl⟩
  | again s' state' => simp [(permit_of_again free e).1] at h

end Signal

end HttpService.Wait
