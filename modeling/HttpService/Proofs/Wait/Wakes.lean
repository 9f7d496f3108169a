import HttpService.Proofs.Wait.Permits

/-!
# No permit waits for a task

A permit may be available although tasks wait for one: those that have been woken have yet to look. What must not be is
that a task waits to be woken and nobody is on the way who would take the permit instead, or pass the wake on.

A release wakes one task for the permit it returns, and a refused one returns none. A newcomer takes a permit and no
wake, so that it leaves one wake more than there need be. Hence every operation keeps `Semaphore.Answered`, and so does
every event of a run (`History.answered_step`).

* `Semaphore.available_le_woken` — while a task waits that was not woken, at least as many others were woken and have
  yet to be polled as there are permits available.
-/

namespace HttpService.Wait.Semaphore

variable {ι : Type} [DecidableEq ι]

/-- While a task waits that was not woken, as many are woken and not yet polled as there are permits available. -/
structure Answered (s : Semaphore ι) : Prop where
  coherent : s.room.Coherent none
  answers : s.room.Answers s.available

namespace Answered

variable {s : Semaphore ι}

omit [DecidableEq ι] in
/-- The permits that are held play no part in it. -/
theorem withHeld (h : s.Answered) (held : List ι) : ({ s with held } : Semaphore ι).Answered :=
  ⟨h.coherent, h.answers⟩

/-- A permit that comes back brings a wake with it. -/
theorem increased (h : s.Answered) : s.increased.Answered := by
  have hstate := h.coherent.setState (s.room.state + 1)
  have hanswers : ({ s.room with state := s.room.state + 1 } : Room ι Unit Nat).Answers s.available :=
    ⟨h.answers.single, h.answers.enough⟩
  exact ⟨hstate.wakeOne, hanswers.wakeOne hstate⟩

/-- A permit that is given back is counted with its wake, or refused with none. -/
theorem giveBack (h : s.Answered) : s.giveBack.1.Answered := by
  by_cases hlt : s.available < s.max
  · rw [giveBack_of_lt hlt]
    exact h.increased
  · -- What is refused wakes nobody, and makes nothing available either.
    rw [giveBack_of_le (Nat.not_lt.mp hlt)]
    exact h

/-- To hold a permit may give back another one. -/
theorem hold (h : s.Answered) (i : ι) : (s.hold i).1.Answered := by
  unfold Semaphore.hold
  split
  · exact h.giveBack
  · exact h.withHeld _

omit [DecidableEq ι] in
/-- At a new semaphore nobody waits. -/
theorem withPermits {max initial : Nat} (hs : withPermits max initial = .ok s) : s.Answered := by
  obtain ⟨-, rfl⟩ := withPermits_eq_ok hs
  exact ⟨Room.coherent_new initial, Room.answers_new initial initial⟩

end Answered

namespace History

variable {h : History ι}

omit [DecidableEq ι] in
/-- Which account a drop goes to does not change the semaphore. -/
theorem semaphore_dropped (p : Semaphore ι × List Notice) : (h.dropped p).semaphore = p.1 := by
  unfold dropped
  split
  · rfl
  · rfl

/-- Nor does it matter for the semaphore how a permit that was handed out is counted. -/
theorem semaphore_handedOut (i : ι) (p : Semaphore ι × List Notice) : (h.handedOut i p).semaphore = p.1 := by
  unfold handedOut
  split
  · exact semaphore_dropped p
  · rfl

/-- Whatever the poll of a task has found, it holds. -/
theorem answered_polled (i : ι) {p : Signal.Polled Empty Unit} {r : Room ι Unit Nat}
    (hcoherent : r.Coherent none) (hanswers : r.Answers r.state) :
    (h.polled i (some (h.semaphore.afterPoll i (p, r)))).semaphore.Answered := by
  have hroom : ({ h.semaphore with room := r } : Semaphore ι).Answered := ⟨hcoherent, hanswers⟩
  cases p with
  | ready u =>
    show (h.handedOut i _).semaphore.Answered
    rw [semaphore_handedOut]
    exact hroom.hold i
  | pending => exact hroom
  | failed e => exact hroom

/-- A permit that is taken without waiting leaves fewer, and the wakes that there were. -/
theorem answered_tryAcquire (hs : h.semaphore.Answered) (i : ι) : (h.step (.tryAcquire i)).semaphore.Answered := by
  unfold step tryAcquire
  cases hstate : h.semaphore.room.state with
  | zero => exact hs
  | succ n =>
    -- Whether it overtakes a woken task or not, fewer permits need no more wakes.
    have hless : n ≤ h.semaphore.available := by
      rw [available, hstate]
      exact Nat.le_succ n
    have hanswers := hs.answers.of_le hless
    have htaken : ({ h.semaphore with room := { h.semaphore.room with state := n } } : Semaphore ι).Answered :=
      ⟨hs.coherent.setState n, hanswers.single, hanswers.enough⟩
    show (h.handedOut i _).semaphore.Answered
    rw [semaphore_handedOut]
    exact htaken.hold i

/-- A newcomer may overtake a woken task: then there is a permit less and as many wakes as before. -/
theorem answered_acquire (hs : h.semaphore.Answered) (i : ι) : (h.step (.acquire i)).semaphore.Answered := by
  show (h.polled i ((h.semaphore.room.enter takePermit i ()).map _)).semaphore.Answered
  cases henter : h.semaphore.room.enter takePermit i () with
  | none => exact hs
  | some pr =>
    exact answered_polled i (hs.coherent.enter draws_takePermit henter)
      (hs.answers.enter draws_takePermit hs.coherent henter)

/-- A woken task takes a permit for its wake, or finds that another was faster. -/
theorem answered_poll (hs : h.semaphore.Answered) (i : ι) : (h.step (.poll i)).semaphore.Answered := by
  show (h.polled i ((h.semaphore.room.poll takePermit i).map _)).semaphore.Answered
  cases hpoll : h.semaphore.room.poll takePermit i with
  | none => exact hs
  | some pr =>
    exact answered_polled i (hs.coherent.poll draws_takePermit hpoll)
      (hs.answers.poll draws_takePermit hs.coherent hpoll)

theorem answered_cancel (hs : h.semaphore.Answered) (i : ι) : (h.step (.cancel i)).semaphore.Answered := by
  refine ⟨hs.coherent.cancel i, ?_⟩
  -- A task that was woken and has not looked passes its wake on, and the permits stay as they are.
  show (h.semaphore.room.cancel i).2.Answers (h.semaphore.room.cancel i).2.state
  rw [hs.coherent.state_cancel i]
  exact hs.answers.cancel hs.coherent i

/-- Every event leaves enough wakes for the permits that are there. -/
theorem answered_step (hs : h.semaphore.Answered) (e : Event ι) : (h.step e).semaphore.Answered := by
  cases e with
  | tryAcquire i => exact answered_tryAcquire hs i
  | acquire i => exact answered_acquire hs i
  | poll i => exact answered_poll hs i
  | cancel i => exact answered_cancel hs i
  -- A permit that comes back may be refused, and then there is nothing to answer for.
  | drop i =>
    by_cases hi : i ∈ h.semaphore.held
    · simp only [step, drop, if_pos hi]
      rw [semaphore_dropped]
      exact (hs.withHeld _).giveBack
    · simp only [step, drop, if_neg hi]
      exact hs
  | forget i =>
    by_cases hi : i ∈ h.semaphore.held
    · simp only [step, forget, if_pos hi]
      exact hs.withHeld _
    · simp only [step, forget, if_neg hi]
      exact hs
  | release =>
    by_cases hlt : h.semaphore.available < h.semaphore.max
    · simp only [step, release, if_pos hlt]
      exact hs.increased
    · simp only [step, release, if_neg hlt]
      exact hs

/-- And so does every run. -/
theorem answered_run {s : Semaphore ι} (hs : s.Answered) (events : List (Event ι)) :
    (run s events).semaphore.Answered := by
  induction events using List.reverseRecOn with
  | nil => exact hs
  | append_singleton events e ih =>
    rw [run_append_singleton]
    exact answered_step ih e

end History

/-- **No wake is lost.** After every run, if a task waits that was not woken, then at least as many tasks were woken and
have yet to be polled as there are permits available. So if none of these is left, tasks wait only while no permit is
available. No task is counted twice. -/
theorem available_le_woken {max initial : Nat} {s : Semaphore ι} (hs : withPermits max initial = .ok s)
    (events : List (Event ι)) :
    let q := (History.run s events).semaphore
    q.room.waiting.Nodup ∧
      (∀ i ∈ q.room.waiting, i ∉ q.room.woken →
        q.available ≤ (q.room.waiting.filter (· ∈ q.room.woken)).length) ∧
      ((∀ i ∈ q.room.waiting, i ∉ q.room.woken) → q.room.waiting ≠ [] → q.available = 0) := by
  intro q
  have hq : q.Answered := History.answered_run (.withPermits hs) events
  exact ⟨hq.coherent.nodup_waiting,
    fun i hwaiting hwoken => hq.answers.le_of_not_woken hq.coherent hwaiting hwoken,
    fun hnone hne => hq.answers.eq_zero_of_not_woken hq.coherent hnone hne⟩

/-- Four tasks wait. The first is woken and overtaken, the second is woken and given up, and its wake goes to the
third. -/
def overtaken : List (Event Nat) :=
  [.tryAcquire 1, .tryAcquire 2, .acquire 3, .acquire 4, .acquire 5, .acquire 6, .drop 1, .tryAcquire 7, .drop 2,
    .cancel 4]

/-- After that one permit is available. -/
def someOvertaken : Semaphore Nat := (History.run ⟨2, .new 2, []⟩ overtaken).semaphore

/-- Those that were woken have been polled: one has found the permit, and the other waits again. -/
def allPolled : Semaphore Nat := (History.run ⟨2, .new 2, []⟩ (overtaken ++ [.poll 3, .poll 5])).semaphore

theorem available_le_woken_overtaken :
    withPermits 2 2 = .ok (⟨2, .new 2, []⟩ : Semaphore Nat) ∧
      (6 ∈ someOvertaken.room.waiting ∧ 6 ∉ someOvertaken.room.woken ∧ someOvertaken.room.woken = [3, 5] ∧
        someOvertaken.available = 1 ∧
        someOvertaken.available ≤ (someOvertaken.room.waiting.filter (· ∈ someOvertaken.room.woken)).length) ∧
      allPolled.room.waiting = [5, 6] ∧ allPolled.room.woken = [] ∧ allPolled.available = 0 := by
  have hs : withPermits 2 2 = .ok (⟨2, .new 2, []⟩ : Semaphore Nat) := rfl
  have hsix : 6 ∈ someOvertaken.room.waiting ∧ 6 ∉ someOvertaken.room.woken := by decide
  have hwaiting : allPolled.room.waiting = [5, 6] := by decide
  have hwoken : allPolled.room.woken = [] := by decide
  have hsome := available_le_woken hs overtaken
  have hall := available_le_woken hs (overtaken ++ [.poll 3, .poll 5])
  rw [← someOvertaken] at hsome
  rw [← allPolled] at hall
  refine ⟨hs, ⟨hsix.1, hsix.2, by decide, by decide, hsome.2.1 6 hsix.1 hsix.2⟩, hwaiting, hwoken, ?_⟩
  refine hall.2.2 (fun i _ => ?_) ?_
  · rw [hwoken]
    exact List.not_mem_nil
  · rw [hwaiting]
    exact List.cons_ne_nil _ _

end HttpService.Wait.Semaphore
