import HttpService.Wait.Signal

/-!
# Tasks that wait at a signal

Tasks with names, a state that they share, and the signal that tells them of its changes. A task is tried when
it enters and whenever it is polled after having been woken; while it finds nothing it stays. Nothing is polled
by itself: a wake only puts a task on the list of those to be polled.
-/

namespace HttpService.Wait

/-- The tasks at a signal. `τ` is what a task waits for, `σ` the state that all of them look at. -/
structure Room (ι τ σ : Type) where
  signal : Signal ι
  state : σ
  /-- The unfinished tasks. -/
  tasks : List (ι × τ)
  /-- The tasks to be polled, in the order in which they were woken. -/
  woken : List ι

namespace Room

variable {ι τ σ α ε : Type} [DecidableEq ι]

/-- Nobody waits. -/
def new (state : σ) : Room ι τ σ := ⟨.new, state, [], []⟩

/-- The names of the unfinished tasks. -/
def waiting (r : Room ι τ σ) : List ι := r.tasks.map (·.1)

/-- Puts tasks on the list of those to be polled, none of them twice. -/
def wake (r : Room ι τ σ) (ids : List ι) : Room ι τ σ :=
  { r with woken := ids.foldl (fun w i => if i ∈ w then w else w ++ [i]) r.woken }

/-- Wakes the task that has waited longest, or the next to come. -/
def wakeOne (r : Room ι τ σ) : Room ι τ σ :=
  let (signal, woken) := r.signal.wakeOne
  wake { r with signal := signal } woken

/-- Wakes all tasks. -/
def wakeAll (r : Room ι τ σ) : Room ι τ σ :=
  let (signal, woken) := r.signal.wakeAll
  wake { r with signal := signal } woken

/-- The room after a poll of a task. -/
def after (r : Room ι τ σ) (i : ι) (p : Signal.Poll ι σ ε α) : Room ι τ σ :=
  { r with
    signal := p.signal
    state := p.state
    tasks := match p.result with
      | .pending => r.tasks
      | _ => r.tasks.filter (·.1 ≠ i) }

/-- A task enters and is tried at once. There must be no task of its name. -/
def enter (attempt : τ → Signal.Attempt σ ε α) (r : Room ι τ σ) (i : ι) (t : τ) :
    Option (Signal.Polled ε α × Room ι τ σ) :=
  if (r.tasks.lookup i).isSome then none
  else
    let p := r.signal.turns (attempt t) i r.state
    some (p.result, after { r with tasks := r.tasks ++ [(i, t)] } i p)

/-- Polls a task, woken or not. -/
def poll (attempt : τ → Signal.Attempt σ ε α) (r : Room ι τ σ) (i : ι) :
    Option (Signal.Polled ε α × Room ι τ σ) :=
  (r.tasks.lookup i).map fun t =>
    let p := r.signal.resume (attempt t) i r.state
    (p.result, after { r with woken := r.woken.filter (· ≠ i) } i p)

/-- Gives a task up; its wake may pass to another. Says whether there was such a task. -/
def cancel (r : Room ι τ σ) (i : ι) : Bool × Room ι τ σ :=
  if (r.tasks.lookup i).isSome then
    let (signal, woken) := r.signal.leave i
    -- Its own wake is taken off the list last: leaving may have put somebody else on it.
    let r := wake { r with signal := signal, tasks := r.tasks.filter (·.1 ≠ i) } woken
    (true, { r with woken := r.woken.filter (· ≠ i) })
  else (false, r)

/-- Tries once without staying: nothing else can happen meanwhile, so only a stored wake is used up. -/
def once (attempt : Signal.Attempt σ ε α) (r : Room ι τ σ) : Signal.Polled ε α × Room ι τ σ :=
  -- Registrations of the others can neither be seen nor changed while nothing else happens.
  let alone : Signal Unit := { Signal.new with permit := r.signal.permit }
  let p := alone.turns attempt () r.state
  (p.result, { r with signal := { r.signal with permit := p.signal.permit }, state := p.state })

/-- How many polls it may take until no task is woken: a poll takes a task off the list, and only a task that
finishes can put another on it. -/
def patience (r : Room ι τ σ) : Nat := r.woken.length + 2 * r.tasks.length

end Room

/-- Repeats a step until there is none, at most `fuel` times. -/
def settle {S β : Type} (step : S → Option (β × S)) : Nat → S → List β × S
  | 0, s => ([], s)
  | fuel + 1, s =>
    match step s with
    | none => ([], s)
    | some (b, s) =>
      let (bs, s) := settle step fuel s
      (b :: bs, s)

end HttpService.Wait
