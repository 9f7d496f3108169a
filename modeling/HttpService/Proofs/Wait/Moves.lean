import Mathlib.Data.List.Induction
import Mathlib.Tactic.ByContra
import HttpService.Proofs.Wait.Loops
import HttpService.Proofs.Wait.Tasks

/-!
# Tasks whose polls are interleaved

In the runs of a queue, a semaphore or a condition variable a poll is one event, and a push is one event. On several
threads they are not. Between the registration, the try and the look of one task another may do any of these, and a
change of the state and the wake for it are two things, with others in between. Here each of them is a move of its own
(`Scene.Move`), and the moves come in any order. What a task can do next is what `Signal.next` says.

What is certain is the order that each party keeps: a task registers before it tries, and it looks at its registration
after the try; and whoever adds to a stock adds first and wakes then. For the latter the scene counts the additions
whose wake is still to come (`Scene.owed`); a wake that comes first does not pay in advance.

* `Scene.went_after` — everything that a task can do by one move.
* `Scene.fit_run` — after all moves every task has the registration that belongs to its place in the loop.
-/

namespace HttpService.Wait

namespace Signal

variable {ι : Type} [DecidableEq ι] {s : Signal ι}

/-- The stages of a registration that has been looked at. -/
inductive Held : Option Stage → Prop where
  | waiting (suspended : Bool) : Held (some (.waiting suspended))
  | picked (by_ : Pick) : Held (some (.picked by_))
  | finished : Held (some .finished)

/-- Whoever looks again goes on waiting, or the registration is over. -/
theorem Held.look_cases {i : ι} (h : Held (s.stage i)) :
    (∃ b, s.stage i = some (.waiting b) ∧ s.look true i = (false, s.setStage i (some (.waiting true)))) ∨
      (∀ b, s.stage i ≠ some (.waiting b)) ∧ s.look true i = (true, s.setStage i (some .finished)) := by
  generalize hstage : s.stage i = g at h
  cases h with
  | waiting b => exact .inl ⟨b, rfl, look_of_waiting hstage⟩
  | picked by_ => exact .inr ⟨by simp, by rw [look, hstage]⟩
  | finished => exact .inr ⟨by simp, by rw [look_of_finished hstage, setStage_eq_self hstage]⟩

end Signal

/-! ## Moves -/

/-- Tasks at a signal, each somewhere in its loop. -/
structure Scene (ι τ σ : Type) where
  signal : Signal ι
  state : σ
  /-- The unfinished tasks, and what each of them waits for. -/
  tasks : List (ι × τ)
  /-- Where in its loop a task is. Between two polls it is where it looks at its registration. -/
  point : ι → Signal.Point
  /-- How many have been added to the stock whose wake has not come yet. -/
  owed : Nat

namespace Scene

variable {ι τ σ α ε : Type} [DecidableEq ι]

/-- Nobody waits. -/
def new (state : σ) : Scene ι τ σ := ⟨.new, state, [], fun _ => .waiting, 0⟩

/-- The names of the unfinished tasks. -/
def names (c : Scene ι τ σ) : List ι := c.tasks.map (·.1)

/-- One thing that happens. -/
inductive Move (ι τ σ : Type) where
  /-- A task comes, under a name that no other has. -/
  | enter (i : ι) (t : τ)
  /-- A task does the next thing in its loop. -/
  | go (i : ι)
  /-- A task is given up between two polls. -/
  | giveUp (i : ι)
  /-- Somebody who is not a task changes the state, without a wake. -/
  | change (state : σ)
  | wakeOne
  | wakeAll

/-- A task has come to a point of its loop. -/
def moved (c : Scene ι τ σ) (i : ι) (p : Signal.Point) : Scene ι τ σ :=
  { c with point := fun j => if j = i then p else c.point j }

/-- A task is gone, but for its registration. -/
def dismissed (c : Scene ι τ σ) (i : ι) : Scene ι τ σ :=
  { c.moved i .waiting with tasks := c.tasks.filter (·.1 ≠ i) }

/-- A task waits in vain: it has tried since it registered, and has not been picked. -/
structure Idle (c : Scene ι τ σ) (i : ι) : Prop where
  mem : i ∈ c.names
  point : c.point i = .waiting
  stage : ∃ b, c.signal.stage i = some (.waiting b)

/-- What a task leaves behind that has done the next thing in its loop. -/
def after (c : Scene ι τ σ) (i : ι) : Signal.Moment ι σ ⊕ Signal.Ending ι σ ε α → Scene ι τ σ
  | .inl m => { c.moved i m.point with signal := m.signal, state := m.state }
  | .inr e =>
    match e.entry with
    | some p => { c.moved i p with signal := e.signal, state := e.state }
    | none => { c.dismissed i with signal := e.signal, state := e.state }

section Runs

variable (attempt : τ → Signal.Attempt σ ε α) (stock : σ → Nat)

/-- One move. What has been added to the stock is owed until its wake comes; a wake of all pays for everything. -/
def step (c : Scene ι τ σ) : Move ι τ σ → Scene ι τ σ
  | .enter i t =>
    if i ∈ c.names then c else { c.moved i .outset with tasks := c.tasks ++ [(i, t)] }
  | .go i =>
    match c.tasks.lookup i with
    | none => c
    | some t => c.after i (Signal.next (.ofAttempt i (attempt t)) ⟨c.point i, c.signal, c.state⟩).2
  | .giveUp i =>
    if i ∈ c.names ∧ c.point i = .waiting then { c.dismissed i with signal := (c.signal.leave i).1 } else c
  | .change state => { c with state, owed := c.owed + (stock state - stock c.state) }
  | .wakeOne => { c with signal := c.signal.wakeOne.1, owed := c.owed - 1 }
  | .wakeAll => { c with signal := c.signal.wakeAll.1, owed := 0 }

/-- Moves one after the other. -/
def play (c : Scene ι τ σ) (moves : List (Move ι τ σ)) : Scene ι τ σ := moves.foldl (step attempt stock) c

/-- Moves one after the other, from a scene where nobody waits. -/
def run (state : σ) (moves : List (Move ι τ σ)) : Scene ι τ σ := play attempt stock (new state) moves

/-- The last move of a run is the last step. -/
theorem run_append_singleton (state : σ) (moves : List (Move ι τ σ)) (m : Move ι τ σ) :
    run attempt stock state (moves ++ [m]) = step attempt stock (run attempt stock state moves) m := by
  rw [run, play, List.foldl_append]
  rfl

end Runs

/-! ## What a task can do -/

/-- The scenes that a task can lead to by the next thing in its loop. -/
inductive Went (attempt : Signal.Attempt σ ε α) (c : Scene ι τ σ) (i : ι) : Scene ι τ σ → Prop where
  | registered (hp : c.point i = .outset) :
      Went attempt c i { c.moved i .trying with signal := (c.signal.registered i).2 }
  | ended (hp : c.point i = .trying) {outcome : Except ε (Option α)} {state : σ}
      (htry : attempt c.state = (outcome, state)) (hsome : outcome ≠ .ok none) :
      Went attempt c i { c.dismissed i with signal := (c.signal.leave i).1, state }
  | vain (hp : c.point i = .trying) {state : σ} (htry : attempt c.state = (.ok none, state)) :
      Went attempt c i { c.moved i .waiting with state }
  | woken (hp : c.point i = .waiting) (hlook : (c.signal.look true i).1 = true) :
      Went attempt c i { c.moved i .outset with signal := ((c.signal.look true i).2.leave i).1 }
  | waits (hp : c.point i = .waiting) (hlook : (c.signal.look true i).1 = false) :
      Went attempt c i { c.moved i .waiting with signal := (c.signal.look true i).2 }

/-- These are all the scenes that one move of a task can lead to, so what each of them keeps every move keeps. -/
theorem went_after (c : Scene ι τ σ) (i : ι) (attempt : Signal.Attempt σ ε α) :
    Went attempt c i (c.after i (Signal.next (.ofAttempt i attempt) ⟨c.point i, c.signal, c.state⟩).2) := by
  -- By the place of the task, and there by what its try or its look comes to.
  cases hp : c.point i with
  | outset => exact .registered hp
  | trying =>
    rcases htry : attempt c.state with ⟨(e | _ | a), state⟩
    · rw [Signal.next_of_failed (Signal.run_ofAttempt htry c.signal)]
      exact .ended hp htry (by simp)
    · rw [Signal.next_of_nothing (Signal.run_ofAttempt htry c.signal)]
      exact .vain hp htry
    · rw [Signal.next_of_found (Signal.run_ofAttempt htry c.signal)]
      exact .ended hp htry (by simp)
  | waiting =>
    cases hlook : (c.signal.look true i).1 with
    | true =>
      rw [Signal.next_of_over hlook]
      exact .woken hp hlook
    | false =>
      rw [Signal.next_of_not_over hlook]
      exact .waits hp hlook

/-! ## Places and registrations -/

variable {c c' : Scene ι τ σ} {i j : ι}

/-- A task is found under its name exactly while it is unfinished. -/
theorem isSome_lookup_iff : (c.tasks.lookup i).isSome ↔ i ∈ c.names :=
  Room.isSome_lookup_iff (r := ⟨c.signal, c.state, c.tasks, []⟩)

theorem mem_names_of_lookup {t : τ} (h : c.tasks.lookup i = some t) : i ∈ c.names :=
  isSome_lookup_iff.mp (by rw [h]; rfl)

/-- When a task is gone the others are left. -/
theorem names_dismissed (c : Scene ι τ σ) (i : ι) : (c.dismissed i).names = c.names.filter (· ≠ i) :=
  Room.waiting_filter c.tasks i

theorem point_moved_self (c : Scene ι τ σ) (i : ι) (p : Signal.Point) : (c.moved i p).point i = p := if_pos rfl

/-- The others stay where they are in their loops. -/
theorem point_moved_of_ne (c : Scene ι τ σ) (hj : j ≠ i) (p : Signal.Point) : (c.moved i p).point j = c.point j :=
  if_neg hj

/-- A task has a registration from its first turn on, between the points where it begins anew. -/
def Suits (c : Scene ι τ σ) (i : ι) (g : Option Stage) : Prop :=
  (i ∈ c.names ∧ c.point i ≠ .outset → Signal.Held g) ∧ (i ∉ c.names ∨ c.point i = .outset → g = none)

/-- Every task has the registration that belongs to its place in the loop. -/
structure Fit (c : Scene ι τ σ) : Prop where
  regular : c.signal.Regular
  stored : c.signal.Stored
  nodup : c.names.Nodup
  stages : ∀ i, c.Suits i (c.signal.stage i)

omit [DecidableEq ι] in
/-- Where there are no tasks there are no registrations. -/
theorem fit_new (state : σ) : (new state : Scene ι τ σ).Fit where
  regular := Signal.regular_new
  stored _ := rfl
  nodup := List.nodup_nil
  stages _ := ⟨fun h => absurd h.1 List.not_mem_nil, fun _ => rfl⟩

omit [DecidableEq ι] in
/-- From its registration to the end of its turn a task has a registration that has been looked at. -/
theorem Fit.held (h : c.Fit) (hi : i ∈ c.names) (hp : c.point i ≠ .outset) : Signal.Held (c.signal.stage i) :=
  (h.stages i).1 ⟨hi, hp⟩

omit [DecidableEq ι] in
/-- Before it registers it has none, and neither has a name that no task has. -/
theorem Fit.free (h : c.Fit) (hi : i ∉ c.names ∨ c.point i = .outset) : c.signal.Free i :=
  h.regular.free ((h.stages i).2 hi)

omit [DecidableEq ι] in
/-- Whoever has a registration is an unfinished task. -/
theorem Fit.mem_names (h : c.Fit) (hi : c.signal.stage i ≠ none) : i ∈ c.names := by
  by_contra hnot
  exact hi ((h.stages i).2 (.inl hnot))

omit [DecidableEq ι] in
/-- Whoever is in the queue is an unfinished task. -/
theorem Fit.mem_names_of_queue (h : c.Fit) (hi : i ∈ c.signal.queue) : i ∈ c.names := by
  obtain ⟨b, hb⟩ := (h.regular.mem_queue i).mp hi
  exact h.mem_names (by rw [hb]; simp)

/-- What others do at the signal does not change whose place a registration belongs to. -/
theorem Suits.runAll (hregular : c.signal.Regular) (h : c.Suits i (c.signal.stage i)) (ds : List (Signal.Deed ι))
    (hds : ∀ d ∈ ds, d.Spares i) (hnames : i ∈ c'.names ↔ i ∈ c.names) (hpoint : c'.point i = c.point i) :
    c'.Suits i ((Signal.Deed.runAll c.signal ds).stage i) := by
  rw [Suits, hnames, hpoint]
  rcases hregular.stage_runAll hds with hsame | ⟨⟨b, hwaits⟩, by_, hpicked⟩
  · rw [hsame]
    exact h
  · rw [hpicked]
    refine ⟨fun _ => .picked by_, fun hnone => ?_⟩
    have hstage := h.2 hnone
    rw [hwaits] at hstage
    cases hstage

/-- A move of one task: deeds with its own registration, which then suits its new place. -/
theorem Fit.of_deeds (h : c.Fit) (i : ι) (ds : List (Signal.Deed ι)) (hds : ∀ j, j ≠ i → ∀ d ∈ ds, d.Spares j)
    (hsignal : c'.signal = Signal.Deed.runAll c.signal ds) (hnodup : c'.names.Nodup)
    (hnames : ∀ j, j ≠ i → (j ∈ c'.names ↔ j ∈ c.names)) (hpoint : ∀ j, j ≠ i → c'.point j = c.point j)
    (hown : c'.Suits i (c'.signal.stage i)) : c'.Fit where
  regular := hsignal ▸ h.regular.runAll ds
  stored := hsignal ▸ h.stored.runAll ds
  nodup := hnodup
  stages j := by
    by_cases hj : j = i
    · exact hj ▸ hown
    · rw [hsignal]
      exact (h.stages j).runAll h.regular ds (hds j hj) (hnames j hj) (hpoint j hj)

/-- A task is gone, and its registration with it. -/
theorem Fit.left (h : c.Fit) (state : σ) (i : ι) :
    ({ c.dismissed i with signal := (c.signal.leave i).1, state } : Scene ι τ σ).Fit := by
  have hnames : ({ c.dismissed i with signal := (c.signal.leave i).1, state } : Scene ι τ σ).names =
      c.names.filter (· ≠ i) := names_dismissed c i
  refine h.of_deeds i [.leave i] (by simp [Signal.Deed.Spares, eq_comm]) rfl ?_ (fun j hj => ?_)
    (fun j hj => c.point_moved_of_ne hj _) ⟨fun hmem => ?_, fun _ => h.regular.stage_leave i⟩
  · rw [hnames]
    exact h.nodup.filter _
  · rw [hnames, List.mem_filter, decide_eq_true_eq, and_iff_left hj]
  · have hgone := hmem.1
    rw [hnames, List.mem_filter] at hgone
    simp at hgone

/-- A task's own move leaves it with the registration that its new place asks for. -/
theorem Went.fit {attempt : Signal.Attempt σ ε α} (hw : Went attempt c i c') (h : c.Fit) (hi : i ∈ c.names) :
    c'.Fit := by
  have hmoved : ∀ p j, j ≠ i → (c.moved i p).point j = c.point j := fun p j hj => c.point_moved_of_ne hj p
  have hunderway : ∀ p, p ≠ .outset → ¬ (i ∉ c.names ∨ (c.moved i p).point i = .outset) := by
    rintro p hp (hnot | hpoint)
    · exact hnot hi
    · exact hp ((c.point_moved_self i p).symm.trans hpoint)
  -- One case for each move of a task. What has to be shown is about its own registration: it holds one exactly between
  -- registering and the end of the turn.
  cases hw with
  | registered hp =>
    refine h.of_deeds i [.arm i, .look false i] (by simp [Signal.Deed.Spares, eq_comm]) rfl h.nodup
      (fun _ _ => Iff.rfl) (hmoved _)
      ⟨fun _ => ?_, fun hnot => absurd hnot (hunderway .trying Signal.Point.noConfusion)⟩
    show Signal.Held ((c.signal.registered i).2.stage i)
    -- A stored wake ends the registration at once, and otherwise it waits.
    rw [(h.free (.inr hp)).registered]
    split
    · show Signal.Held ((c.signal.spent.setStage i _).stage i)
      rw [Signal.setStage_self]
      exact .finished
    · show Signal.Held ((c.signal.setStage i _).stage i)
      rw [Signal.setStage_self]
      exact .waiting false
  | @ended _ outcome state htry hsome =>
    exact (h.left state i)
  | vain hp htry =>
    exact h.of_deeds i [] (by simp) rfl h.nodup (fun _ _ => Iff.rfl) (hmoved _)
      ⟨fun _ => h.held hi (by simp [hp]), fun hnot => absurd hnot (hunderway .waiting Signal.Point.noConfusion)⟩
  | woken hp hlook =>
    refine h.of_deeds i [.look true i, .leave i] (by simp [Signal.Deed.Spares, eq_comm]) rfl h.nodup
      (fun _ _ => Iff.rfl) (hmoved _) ⟨fun hnot => ?_, fun _ => (h.regular.look true i).stage_leave i⟩
    -- Behind a turn that is over the registration is given up.
    exact absurd (c.point_moved_self i .outset) hnot.2
  | waits hp hlook =>
    refine h.of_deeds i [.look true i] (by simp [Signal.Deed.Spares, eq_comm]) rfl h.nodup
      (fun _ _ => Iff.rfl) (hmoved _)
      ⟨fun _ => ?_, fun hnot => absurd hnot (hunderway .waiting Signal.Point.noConfusion)⟩
    rcases (h.held hi (by simp [hp])).look_cases with ⟨b, -, hwaits⟩ | ⟨-, hover⟩
    · show Signal.Held ((c.signal.look true i).2.stage i)
      rw [hwaits, Signal.setStage_self]
      exact .waiting true
    -- A look that finds the wake does not wait.
    · rw [hover] at hlook
      cases hlook

/-- A wake comes from outside of all tasks. -/
theorem Fit.woken (h : c.Fit) {d : Signal.Deed ι} (hd : ∀ j, d.Spares j) (owed : Nat) :
    ({ c with signal := d.run c.signal, owed } : Scene ι τ σ).Fit where
  regular := h.regular.run d
  stored := h.stored.run d
  nodup := h.nodup
  stages j := (h.stages j).runAll h.regular [d] (by simpa using hd j) Iff.rfl rfl

/-- Every move keeps places and registrations together. -/
theorem Fit.step (h : c.Fit) (attempt : τ → Signal.Attempt σ ε α) (stock : σ → Nat) (m : Move ι τ σ) :
    (step attempt stock c m).Fit := by
  cases m with
  | enter i t =>
    show (if i ∈ c.names then c else _).Fit
    split
    · exact h
    next hnew =>
      -- A task that comes has no registration yet, and stands at the outset.
      have hnames : ({ c.moved i .outset with tasks := c.tasks ++ [(i, t)] } : Scene ι τ σ).names = c.names ++ [i] :=
        List.map_append
      refine h.of_deeds i [] (by simp) rfl ?_ (fun j hj => ?_) (fun j hj => c.point_moved_of_ne hj _)
        ⟨fun hnot => absurd (c.point_moved_self i .outset) hnot.2, fun _ => (h.stages i).2 (.inl hnew)⟩
      · rw [hnames]
        exact nodup_append_singleton h.nodup hnew
      · rw [hnames, List.mem_append, List.mem_singleton, or_iff_left hj]
  | go i =>
    show (match c.tasks.lookup i with | none => c | some t => _ : Scene ι τ σ).Fit
    cases hi : c.tasks.lookup i with
    | none => exact h
    | some t => exact (c.went_after i (attempt t)).fit h (mem_names_of_lookup hi)
  | giveUp i =>
    show (if i ∈ c.names ∧ c.point i = .waiting then _ else c).Fit
    split
    · exact h.left c.state i
    · exact h
  -- What happens outside of the tasks touches no task, and no registration but by a wake.
  | change state => exact ⟨h.regular, h.stored, h.nodup, h.stages⟩
  | wakeOne => exact h.woken (d := .wakeOne) (fun _ => trivial) (c.owed - 1)
  | wakeAll => exact h.woken (d := .wakeAll) (fun _ => trivial) 0

/-- So it is after all moves, in whatever order they come. -/
theorem fit_run (attempt : τ → Signal.Attempt σ ε α) (stock : σ → Nat) (state : σ) (moves : List (Move ι τ σ)) :
    (run attempt stock state moves).Fit := by
  induction moves using List.reverseRecOn with
  | nil => exact fit_new state
  | append_singleton moves m ih =>
    rw [run_append_singleton]
    exact ih.step attempt stock m

end Scene

end HttpService.Wait
