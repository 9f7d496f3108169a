import HttpService.Proofs.Wait.Conditions
import HttpService.Proofs.Wait.Deliveries
import HttpService.Proofs.Wait.Supply
import HttpService.Proofs.Wait.Wakes

/-!
# Whole operations as moves

A run of a queue, a semaphore or a condition variable takes a whole poll, or a push with its wake, as one event. Such
a run is one of the interleavings: each of its events is some moves with nothing in between. So what holds after all
moves holds after every run of whole operations, and between these operations nobody is in the middle of anything
(`Room.still`).

* `Scene.play_polls` — the moves of one poll.
* `Room.Shown.enter`, `.poll`, `.cancel`, `.wakeOne`, `.wakeAll`, `.added`, `.taken` — every operation of a room is some
  moves; to add is to change the state first and to wake then.
* `Queue.shown_run`, `Semaphore.shown_run`, `ConditionVariable.shown_run` — every run is an interleaving.
* `Queue.length_le_answering`, `Semaphore.permits_le_answering` — and in every interleaving no wake is lost.
-/

namespace HttpService.Wait

variable {ι τ σ α ε : Type} [DecidableEq ι]

omit [DecidableEq ι] in
/-- The registrations that whole polls leave are among those that any deeds may leave. -/
theorem Signal.Sound.regular {s : Signal ι} (h : s.Sound) : s.Regular where
  nodup := h.nodup
  mem_queue i := by
    rw [h.mem_queue]
    constructor
    · exact fun hwaits => ⟨true, hwaits⟩
    · rintro ⟨b, hwaits⟩
      rcases h.stages i _ hwaits with hg | ⟨by_, hg⟩
      · rw [hwaits, hg]
      · cases hg

attribute [ext] Scene

namespace Scene

variable {attempt : τ → Signal.Attempt σ ε α} {stock : σ → Nat} {i : ι} {t : τ}

/-- Where a task was before its last move does not show. -/
theorem moved_moved (c : Scene ι τ σ) (i : ι) (p q : Signal.Point) : (c.moved i p).moved i q = c.moved i q := by
  refine Scene.ext rfl rfl rfl (funext fun j => ?_) rfl
  by_cases hj : j = i
  · rw [hj, point_moved_self, point_moved_self]
  · rw [point_moved_of_ne _ hj, point_moved_of_ne _ hj, point_moved_of_ne _ hj]

/-- A poll that is pending leaves the task where the next poll begins. -/
theorem after_of_entry (c : Scene ι τ σ) (i : ι) {e : Signal.Ending ι σ ε α} {p : Signal.Point}
    (he : e.entry = some p) : c.after i (.inr e) = { c.moved i p with signal := e.signal, state := e.state } := by
  simp only [after, he]

/-- Any other poll dismisses it. -/
theorem after_of_done (c : Scene ι τ σ) (i : ι) {e : Signal.Ending ι σ ε α} (he : e.entry = none) :
    c.after i (.inr e) = { c.dismissed i with signal := e.signal, state := e.state } := by
  simp only [after, he]

/-- Where a task is before a poll ends does not matter afterwards. -/
theorem after_moved (c : Scene ι τ σ) (i : ι) (p : Signal.Point) (e : Signal.Ending ι σ ε α) :
    (c.moved i p).after i (.inr e) = c.after i (.inr e) := by
  cases he : e.entry with
  | some q => rw [after_of_entry _ i he, after_of_entry _ i he, moved_moved]
  | none =>
    have hdismissed : (c.moved i p).dismissed i = c.dismissed i := by
      rw [dismissed, moved_moved]
      rfl
    rw [after_of_done _ i he, after_of_done _ i he, hdismissed]

/-- The moves of one poll: the things that the task does in its loop, until the poll ends. -/
theorem play_polls {m : Signal.Moment ι σ} {trace : List (Signal.Action ε α)} {e : Signal.Ending ι σ ε α}
    (h : Signal.Polls (.ofAttempt i (attempt t)) m trace e) {c : Scene ι τ σ} (ht : c.tasks.lookup i = some t)
    (hm : (⟨c.point i, c.signal, c.state⟩ : Signal.Moment ι σ) = m) :
    play attempt stock c (List.replicate trace.length (.go i)) = c.after i (.inr e) := by
  induction h generalizing c with
  | ends hnext =>
    show step attempt stock c (.go i) = _
    simp only [step, ht, hm, hnext]
  | @goesOn m m' a trace e hnext rest ih =>
    show play attempt stock (step attempt stock c (.go i)) (List.replicate trace.length (.go i)) = _
    have hstep : step attempt stock c (.go i) = c.after i (.inl m' : _ ⊕ Signal.Ending ι σ ε α) := by
      simp only [step, ht, hm, hnext]
    -- From there on the poll goes as from the moment to which its first thing led.
    have hmoment : (⟨(c.moved i m'.point).point i, m'.signal, m'.state⟩ : Signal.Moment ι σ) = m' := by
      rw [point_moved_self]
    have hrest := ih (c := { c.moved i m'.point with signal := m'.signal, state := m'.state }) ht hmoment
    rw [hstep]
    refine hrest.trans ?_
    exact c.after_moved i m'.point e

end Scene

namespace Room

/-- A room in which nobody is in the middle of a poll, and every wake has come. -/
def still (r : Room ι τ σ) : Scene ι τ σ := ⟨r.signal, r.state, r.tasks, fun _ => .waiting, 0⟩

/-- In a still room everybody is where the next poll begins. -/
theorem moved_still (r : Room ι τ σ) (i : ι) : r.still.moved i .waiting = r.still :=
  Scene.ext rfl rfl rfl (funext fun _ => ite_self _) rfl

/-- After a poll the room is still again. -/
theorem still_after (r : Room ι τ σ) (i : ι) (e : Signal.Ending ι σ ε α) (trace : List (Signal.Action ε α)) :
    r.still.after i (.inr e) = (r.after i (e.counted trace)).still := by
  -- A task that is done leaves both rooms in the same way.
  have hdismissed : r.still.dismissed i = { r.still with tasks := r.tasks.filter (·.1 ≠ i) } := by
    rw [Scene.dismissed, moved_still]
    rfl
  have hdone (hentry : e.entry = none) :
      r.still.after i (.inr e) =
        { r.still with signal := e.signal, state := e.state, tasks := r.tasks.filter (·.1 ≠ i) } := by
    rw [Scene.after_of_done _ i hentry, hdismissed]
  -- A poll that comes to nothing leaves the task waiting; any other ends it.
  cases hresult : e.result with
  | pending =>
    have hentry : e.entry = some .waiting := by rw [Signal.Ending.entry, hresult]
    rw [Scene.after_of_entry _ i hentry, moved_still]
    simp only [after, Signal.Ending.counted, hresult]
    rfl
  | ready a =>
    rw [hdone (by rw [Signal.Ending.entry, hresult])]
    simp only [after, Signal.Ending.counted, hresult]
    rfl
  | failed err =>
    rw [hdone (by rw [Signal.Ending.entry, hresult])]
    simp only [after, Signal.Ending.counted, hresult]
    rfl

section Shown

variable (attempt : τ → Signal.Attempt σ ε α) (stock : σ → Nat) (state : σ)

/-- Some moves lead to a room, from one where nobody waits. -/
def Shown (r : Room ι τ σ) : Prop := ∃ moves, Scene.run attempt stock state moves = r.still

variable {attempt stock state} {r r' : Room ι τ σ} {i : ι} {t : τ}

/-- Nothing needs to happen for an empty room. -/
theorem shown_new : (new state : Room ι τ σ).Shown attempt stock state := ⟨[], rfl⟩

/-- More moves lead on from a room that some moves have led to. -/
theorem Shown.play (h : r.Shown attempt stock state) (moves : List (Scene.Move ι τ σ))
    (hmoves : Scene.play attempt stock r.still moves = r'.still) : r'.Shown attempt stock state := by
  obtain ⟨before, hbefore⟩ := h
  refine ⟨before ++ moves, ?_⟩
  rw [Scene.run, Scene.play, List.foldl_append]
  rw [Scene.run, Scene.play] at hbefore
  rw [hbefore]
  exact hmoves

/-- A task that comes is polled at once. -/
theorem Shown.enter (h : r.Shown attempt stock state) (hr : r.Coherent none) {p : Signal.Polled ε α}
    (henter : r.enter attempt i t = some (p, r')) : r'.Shown attempt stock state := by
  obtain ⟨hnew, hfree, -, rfl⟩ := enter_turns hr henter
  obtain ⟨trace, e, hpolls, hcounted⟩ := Signal.polls_turns hfree.stage (attempt t) r.state
  -- The condition of the task is found under its name, which nobody had before.
  have hlookup : (r.opened i t).tasks.lookup i = some t := by
    have hnone : r.tasks.lookup i = none := by
      rw [← Option.not_isSome_iff_eq_none, isSome_lookup_iff]
      exact hnew
    show (r.tasks ++ [(i, t)]).lookup i = some t
    rw [List.lookup_append, hnone, List.lookup_cons, beq_self_eq_true]
    rfl
  -- The poll is its entry and as many moves of its own as its turn takes.
  refine h.play (.enter i t :: List.replicate trace.length (.go i)) ?_
  have hentered : Scene.step attempt stock r.still (.enter i t) = (r.opened i t).still.moved i .outset := if_neg hnew
  show Scene.play attempt stock (Scene.step attempt stock r.still (.enter i t)) _ = _
  rw [hentered, Scene.play_polls hpolls hlookup (by rw [Scene.point_moved_self]; rfl), Scene.after_moved]
  show _ = ((r.opened i t).after i (Signal.turns (attempt t) (r.opened i t).signal i r.state)).still
  rw [← hcounted]
  exact (r.opened i t).still_after i e trace

/-- One poll of a task, woken or not. -/
theorem Shown.poll (h : r.Shown attempt stock state) (hr : r.Coherent none) {p : Signal.Polled ε α}
    (hpoll : r.poll attempt i = some (p, r')) : r'.Shown attempt stock state := by
  obtain ⟨t, ht, heq⟩ := Option.map_eq_some_iff.mp hpoll
  obtain ⟨-, rfl⟩ := Prod.mk.inj heq
  obtain ⟨trace, e, hpolls, hcounted⟩ := Signal.polls_resume (i := i) hr.sound.regular (attempt t) r.state
  refine h.play (List.replicate trace.length (.go i)) ?_
  rw [Scene.play_polls hpolls (c := r.still) ht rfl, ← hcounted]
  exact still_after { r with woken := r.woken.filter (· ≠ i) } i e trace

/-- To give up a task is one move, since in a still room nobody is within a poll. -/
theorem Shown.cancel (h : r.Shown attempt stock state) (i : ι) : (r.cancel i).2.Shown attempt stock state := by
  unfold Room.cancel
  split
  next hsome =>
    refine h.play [.giveUp i] ?_
    have hgiven : Scene.step attempt stock r.still (.giveUp i) =
        { r.still.dismissed i with signal := (r.signal.leave i).1 } := if_pos ⟨isSome_lookup_iff.mp hsome, rfl⟩
    show Scene.step attempt stock r.still (.giveUp i) = _
    rw [hgiven, Scene.dismissed, moved_still]
    rfl
  · exact h

/-- A wake that nothing was added for is one move. -/
theorem Shown.wakeOne (h : r.Shown attempt stock state) : r.wakeOne.Shown attempt stock state :=
  h.play [.wakeOne] rfl

/-- And so is a wake of all. -/
theorem Shown.wakeAll (h : r.Shown attempt stock state) : r.wakeAll.Shown attempt stock state :=
  h.play [.wakeAll] rfl

/-- Whoever takes from the stock without waiting needs no wake. -/
theorem Shown.taken (h : r.Shown attempt stock state) (after : σ) (hle : stock after ≤ stock r.state) :
    ({ r with state := after } : Room ι τ σ).Shown attempt stock state := by
  have howed : 0 + (stock after - stock r.state) = 0 := by omega
  exact h.play [.change after] (Scene.ext rfl rfl rfl rfl howed)

/-- Whoever adds one to the stock wakes one, after that. -/
theorem Shown.added (h : r.Shown attempt stock state) (after : σ) (hle : stock after ≤ stock r.state + 1) :
    (Room.wakeOne { r with state := after }).Shown attempt stock state := by
  have howed : 0 + (stock after - stock r.state) - 1 = 0 := by omega
  exact h.play [.change after, .wakeOne] (Scene.ext rfl rfl rfl rfl howed)

end Shown

end Room

/-! ## Runs of whole operations -/

namespace Queue

variable {h : History ι α}

/-- Each event of a queue is some moves; a push is a change of the state and a wake after it. -/
theorem shown_step (hh : h.queue.room.Shown takeFirst List.length []) (hr : h.queue.room.Coherent none)
    (e : Event ι α) : (h.step e).queue.room.Shown takeFirst List.length [] := by
  cases e with
  -- A push and a take outside of the room are a move each; what a task does in its poll is several.
  | push a grows =>
    cases grows with
    | false => exact hh
    | true => exact hh.added (h.queue.room.state ++ [a]) (by simp)
  | tryTake =>
    show h.queue.tryTake.2.room.Shown takeFirst List.length []
    unfold tryTake
    split
    · exact hh
    next a as hstate => exact hh.taken as (by rw [hstate]; exact Nat.le_succ _)
  | take i =>
    show (h.polled (h.queue.take i)).queue.room.Shown takeFirst List.length []
    cases henter : h.queue.room.enter takeFirst i () with
    | none =>
      rw [take, henter]
      exact hh
    | some pr =>
      rw [take, henter]
      exact hh.enter hr henter
  | poll i =>
    show (h.polled (h.queue.poll i)).queue.room.Shown takeFirst List.length []
    cases hpoll : h.queue.room.poll takeFirst i with
    | none =>
      rw [poll, hpoll]
      exact hh
    | some pr =>
      rw [poll, hpoll]
      exact hh.poll hr hpoll
  | cancel i => exact hh.cancel i

/-- **Every run of a queue is an interleaving of moves.** -/
theorem shown_run (events : List (Event ι α)) : (History.run events).queue.room.Shown takeFirst List.length [] := by
  induction events using List.reverseRecOn with
  | nil => exact Room.shown_new
  | append_singleton events e ih =>
    rw [History.run_append_singleton]
    exact shown_step ih (kept_run events).coherent e

/-- However pushes and polls are interleaved, while a task waits in vain each element has somebody who will take it or
pass a wake on, or is still to be announced. -/
theorem length_le_answering (moves : List (Scene.Move ι Unit (List α))) {i : ι}
    (hi : (Scene.run takeFirst List.length [] moves).Idle i) :
    (Scene.run takeFirst List.length [] moves).state.length ≤
      (Scene.run takeFirst List.length [] moves).answering + (Scene.run takeFirst List.length [] moves).owed :=
  Scene.stock_le_answering draws_takeFirst [] moves hi

end Queue

namespace Semaphore

variable {s : Semaphore ι} {initial : Nat}

/-- A permit that comes back is counted first, and then one is woken. -/
theorem shown_giveBack (hs : s.room.Shown takePermit id initial) : s.giveBack.1.room.Shown takePermit id initial := by
  by_cases hlt : s.available < s.max
  · rw [giveBack_of_lt hlt]
    exact hs.added (s.room.state + 1) (Nat.le_refl _)
  · rw [giveBack_of_le (Nat.not_lt.mp hlt)]
    exact hs

/-- To hold a permit under a name that holds one already gives that one back. -/
theorem shown_hold (hs : s.room.Shown takePermit id initial) (i : ι) :
    (s.hold i).1.room.Shown takePermit id initial := by
  unfold hold
  split
  · exact shown_giveBack hs
  · exact hs

namespace History

variable {h : History ι}

/-- A poll that hands out a permit is followed by what holding it brings. -/
theorem shown_polled (i : ι) {p : Signal.Polled Empty Unit} {r : Room ι Unit Nat}
    (hr : r.Shown takePermit id initial) :
    (h.polled i (some (h.semaphore.afterPoll i (p, r)))).semaphore.room.Shown takePermit id initial := by
  cases p with
  | ready u =>
    show (h.handedOut i _).semaphore.room.Shown takePermit id initial
    rw [semaphore_handedOut]
    exact shown_hold (s := { h.semaphore with room := r }) hr i
  | pending => exact hr
  | failed e => exact hr

/-- Each event of a semaphore is some moves; a release is a change of the count and a wake after it. -/
theorem shown_step (hh : h.semaphore.room.Shown takePermit id initial) (hr : h.semaphore.room.Coherent none)
    (e : Event ι) : (h.step e).semaphore.room.Shown takePermit id initial := by
  cases e with
  | tryAcquire i =>
    unfold step tryAcquire
    cases hstate : h.semaphore.room.state with
    | zero => exact hh
    | succ n =>
      -- A permit that is taken outside of the room is a change without a wake, which asks for less.
      have htaken : ({ h.semaphore.room with state := n } : Room ι Unit Nat).Shown takePermit id initial :=
        hh.taken n (by rw [hstate]; exact Nat.le_succ n)
      show (h.handedOut i _).semaphore.room.Shown takePermit id initial
      rw [semaphore_handedOut]
      exact shown_hold (s := { h.semaphore with room := { h.semaphore.room with state := n } }) htaken i
  | acquire i =>
    show (h.polled i ((h.semaphore.room.enter takePermit i ()).map _)).semaphore.room.Shown takePermit id initial
    cases henter : h.semaphore.room.enter takePermit i () with
    | none => exact hh
    | some pr => exact shown_polled i (hh.enter hr henter)
  | poll i =>
    show (h.polled i ((h.semaphore.room.poll takePermit i).map _)).semaphore.room.Shown takePermit id initial
    cases hpoll : h.semaphore.room.poll takePermit i with
    | none => exact hh
    | some pr => exact shown_polled i (hh.poll hr hpoll)
  | cancel i => exact hh.cancel i
  | drop i =>
    -- A permit that comes back is a change and its wake; one that is forgotten is neither.
    by_cases hi : i ∈ h.semaphore.held
    · simp only [step, drop, if_pos hi]
      rw [semaphore_dropped]
      exact shown_giveBack (s := { h.semaphore with held := h.semaphore.held.erase i }) hh
    · simp only [step, drop, if_neg hi]
      exact hh
  | forget i =>
    by_cases hi : i ∈ h.semaphore.held
    · simp only [step, forget, if_pos hi]
      exact hh
    · simp only [step, forget, if_neg hi]
      exact hh
  | release =>
    by_cases hlt : h.semaphore.available < h.semaphore.max
    · simp only [step, release, if_pos hlt]
      exact hh.added (h.semaphore.room.state + 1) (Nat.le_refl _)
    · simp only [step, release, if_neg hlt]
      exact hh

end History

/-- **Every run of a semaphore is an interleaving of moves.** -/
theorem shown_run {max : Nat} (hs : withPermits max initial = .ok s) (events : List (Event ι)) :
    (History.run s events).semaphore.room.Shown takePermit id initial := by
  induction events using List.reverseRecOn with
  | nil =>
    obtain ⟨-, rfl⟩ := withPermits_eq_ok hs
    exact Room.shown_new
  | append_singleton events e ih =>
    rw [History.run_append_singleton]
    exact History.shown_step ih (History.balanced_run hs events).coherent e

/-- The same of permits, however releases and polls are interleaved. -/
theorem permits_le_answering (moves : List (Scene.Move ι Unit Nat)) {i : ι}
    (hi : (Scene.run takePermit id initial moves).Idle i) :
    (Scene.run takePermit id initial moves).state ≤
      (Scene.run takePermit id initial moves).answering + (Scene.run takePermit id initial moves).owed :=
  Scene.stock_le_answering draws_takePermit initial moves hi

end Semaphore

namespace ConditionVariable

variable {v : ConditionVariable ι σ ε} {first : Watched σ}

/-- Each event of a condition variable is some moves; a change of the value brings no wake. -/
theorem shown_step (hv : v.room.Shown test (fun _ => 0) first) (hr : v.room.Coherent none) (e : Event ι σ ε) :
    (v.step e).room.Shown test (fun _ => 0) first := by
  cases e with
  | set value => exact hv.taken _ (Nat.le_refl 0)
  | notifyOne => exact hv.wakeOne
  | notifyAll => exact hv.wakeAll
  | wait i c =>
    show (((v.wait i c).map (·.2)).getD v).room.Shown test (fun _ => 0) first
    rw [wait]
    cases henter : v.room.enter test i c with
    | none => exact hv
    | some pr => exact hv.enter hr henter
  | poll i =>
    show (((v.poll i).map (·.2)).getD v).room.Shown test (fun _ => 0) first
    rw [poll]
    cases hpoll : v.room.poll test i with
    | none => exact hv
    | some pr => exact hv.poll hr hpoll
  | cancel i => exact hv.cancel i

/-- **Every run of a condition variable is an interleaving of moves.** -/
theorem shown_run (value : σ) (events : List (Event ι σ ε)) :
    (run value events).room.Shown test (fun _ => 0) ⟨value, 0⟩ := by
  induction events using List.reverseRecOn with
  | nil => exact Room.shown_new
  | append_singleton events e ih =>
    rw [run_append_singleton]
    exact shown_step ih (coherent_run value events) e

end ConditionVariable

end HttpService.Wait
