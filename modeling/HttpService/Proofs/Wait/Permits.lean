import Mathlib.Data.List.Induction
import Mathlib.Data.List.Infix
import HttpService.Wait.Semaphore
import HttpService.Proofs.Wait.Tasks

/-!
# The account of a semaphore's permits

A semaphore is used by any number of tasks, in any order: permits are taken with and without waiting, tasks are polled
whether woken or not and given up at any time, permits are dropped and forgotten, and permits are released that may
never have been taken (`Semaphore.Event`). A history keeps the account of what these came to (`Semaphore.History`).

What one event can lead to is said once (`History.Outcome`). Every outcome leaves the account right
(`History.Balanced`), and only a drop while all permits are available is refused (`History.step_of_refused`).

* `Semaphore.permits_accounted` — what is available is what there was and what came back, less what was lent, and
  never more than there may be. As long as no more permits are released than were forgotten or missing at first, every
  permit dropped comes back.
-/

namespace HttpService.Wait.Semaphore

variable {ι : Type} [DecidableEq ι]

/-! ## Runs -/

/-- What may happen to a semaphore. -/
inductive Event (ι : Type) where
  | tryAcquire (i : ι)
  /-- A task starts that takes a permit. -/
  | acquire (i : ι)
  | poll (i : ι)
  | cancel (i : ι)
  | drop (i : ι)
  | forget (i : ι)
  | release

/-- A semaphore, and the account of its permits. -/
structure History (ι : Type) where
  semaphore : Semaphore ι
  /-- How many permits were handed out. -/
  lent : Nat
  /-- How many came back by being dropped. -/
  returned : Nat
  /-- How many were dropped and refused. -/
  refused : Nat
  /-- How many were released with success. -/
  released : Nat
  forgotten : Nat

namespace History

/-- A permit has been dropped. The notices say whether it was refused. -/
def dropped (h : History ι) (p : Semaphore ι × List Notice) : History ι :=
  if p.2.isEmpty then { h with semaphore := p.1, returned := h.returned + 1 }
  else { h with semaphore := p.1, refused := h.refused + 1 }

/-- A permit has been handed out under a name. One held under it before has been dropped. -/
def handedOut (h : History ι) (i : ι) (p : Semaphore ι × List Notice) : History ι :=
  if i ∈ h.semaphore.held then { h with lent := h.lent + 1 }.dropped p
  else { h with semaphore := p.1, lent := h.lent + 1 }

/-- The history after a poll, which may have handed out a permit, or after none. -/
def polled (h : History ι) (i : ι) :
    Option (Signal.Polled Empty Unit × Semaphore ι × List Notice) → History ι
  | none => h
  | some (.ready (), p) => h.handedOut i p
  | some (_, p) => { h with semaphore := p.1 }

/-- One event. A task starts only under a name that no other has, only a task that there is can be polled, and only a
permit that is held can be dropped or forgotten. -/
def step (h : History ι) : Event ι → History ι
  | .tryAcquire i =>
    match h.semaphore.tryAcquire i with
    | some p => h.handedOut i p
    | none => h
  | .acquire i => h.polled i (h.semaphore.acquire i)
  | .poll i => h.polled i (h.semaphore.poll i)
  | .cancel i => { h with semaphore := (h.semaphore.cancel i).2 }
  | .drop i =>
    match h.semaphore.drop i with
    | some p => h.dropped p
    | none => h
  | .forget i =>
    match h.semaphore.forget i with
    | some s => { h with semaphore := s, forgotten := h.forgotten + 1 }
    | none => h
  | .release =>
    match h.semaphore.release with
    | .ok s => { h with semaphore := s, released := h.released + 1 }
    | .error _ => h

/-- Events one after the other. -/
def run (s : Semaphore ι) (events : List (Event ι)) : History ι := events.foldl step ⟨s, 0, 0, 0, 0, 0⟩

/-- The last event of a run is the last step. -/
theorem run_append_singleton (s : Semaphore ι) (events : List (Event ι)) (e : Event ι) :
    run s (events ++ [e]) = (run s events).step e := by
  rw [run, List.foldl_append]
  rfl

end History

/-! ## What single operations do -/

/-- Taking a permit draws from the permits as from a stock, one at a time. -/
theorem draws_takePermit (u : Unit) : (takePermit u : Signal.Attempt Nat Empty Unit).Draws id where
  empty n h := by
    obtain rfl : n = 0 := h
    rfl
  taken n h := by
    cases n with
    | zero => exact absurd rfl h
    | succ n => exact ⟨(), n, rfl, rfl⟩

/-- A semaphore that no longer holds a permit under a name. -/
def letGo (s : Semaphore ι) (i : ι) : Semaphore ι := { s with held := s.held.erase i }

/-- A semaphore with one more permit, after a wake for it. -/
def increased (s : Semaphore ι) : Semaphore ι :=
  { s with room := Room.wakeOne { s.room with state := s.room.state + 1 } }

/-- A permit for which there is room comes back, with a wake for it. -/
theorem giveBack_of_lt {s : Semaphore ι} (h : s.available < s.max) : s.giveBack = (s.increased, []) := by
  rw [giveBack, release, if_pos h]
  rfl

/-- What is refused changes nothing. -/
theorem giveBack_of_le {s : Semaphore ι} (h : s.max ≤ s.available) :
    s.giveBack = (s, [.permitRefused (.semaphoreOverflow s.max)]) := by
  rw [giveBack, release, if_neg (Nat.not_lt.mpr h)]

omit [DecidableEq ι] in
/-- A semaphore is made only with as many permits as it may ever have, all of them available. -/
theorem withPermits_eq_ok {max initial : Nat} {s : Semaphore ι} (h : withPermits max initial = .ok s) :
    initial ≤ max ∧ s = ⟨max, .new initial, []⟩ := by
  unfold withPermits at h
  split at h
  next => cases h
  next hnot => exact ⟨Nat.not_lt.mp hnot, (Except.ok.inj h).symm⟩

/-! ## What an event comes to -/

namespace History

/-- The histories that one event can lead to. -/
inductive Outcome (h : History ι) : History ι → Prop
  /-- Tasks may have come, gone or been polled, but no permit has changed hands. -/
  | idle {r : Room ι Unit Nat} (hr : r.Coherent none) (hstate : r.state = h.semaphore.available) :
    Outcome h { h with semaphore := { h.semaphore with room := r } }
  | lent {i : ι} {r : Room ι Unit Nat} (hr : r.Coherent none) (hstate : h.semaphore.available = r.state + 1) :
    Outcome h (h.handedOut i (hold { h.semaphore with room := r } i))
  | dropped {i : ι} (hi : i ∈ h.semaphore.held) :
    Outcome h (h.dropped (h.semaphore.letGo i).giveBack)
  | forgotten {i : ι} (hi : i ∈ h.semaphore.held) :
    Outcome h { h with semaphore := h.semaphore.letGo i, forgotten := h.forgotten + 1 }
  | released (hlt : h.semaphore.available < h.semaphore.max) :
    Outcome h { h with semaphore := h.semaphore.increased, released := h.released + 1 }

variable {h : History ι}

/-- An event that cannot happen comes to nothing. -/
theorem Outcome.same (hr : h.semaphore.room.Coherent none) : h.Outcome h := .idle hr rfl

/-- A task that was tried has been lent a permit, or goes on waiting. -/
theorem outcome_of_tried {i : ι} {r r' : Room ι Unit Nat} {p : Signal.Polled Empty Unit}
    (htried : Room.Tried (takePermit ()) id r i p r') (hr : r'.Coherent none)
    (hstate : r.state = h.semaphore.available) :
    h.Outcome (h.polled i (some (h.semaphore.afterPoll i (p, r')))) := by
  cases htried with
  | @found u state hattempt hstock => exact .lent hr (hstate ▸ hstock)
  | nothing hstock => exact .idle hr hstate

/-- What the arrival of a task comes to. -/
theorem outcome_acquire (hr : h.semaphore.room.Coherent none) (i : ι) : h.Outcome (h.step (.acquire i)) := by
  show h.Outcome (h.polled i ((h.semaphore.room.enter takePermit i ()).map _))
  cases henter : h.semaphore.room.enter takePermit i () with
  | none => exact .same hr
  | some pr =>
    obtain ⟨-, htried⟩ := Room.enter_cases draws_takePermit hr henter
    exact outcome_of_tried htried (hr.enter draws_takePermit henter) rfl

/-- What a poll comes to; if the task was not woken, to nothing. -/
theorem outcome_poll (hr : h.semaphore.room.Coherent none) (i : ι) : h.Outcome (h.step (.poll i)) := by
  show h.Outcome (h.polled i ((h.semaphore.room.poll takePermit i).map _))
  cases hpoll : h.semaphore.room.poll takePermit i with
  | none => exact .same hr
  | some pr =>
    obtain ⟨p, r'⟩ := pr
    have hcoherent := hr.poll draws_takePermit hpoll
    rcases Room.poll_cases draws_takePermit hr hpoll with ⟨-, rfl, rfl⟩ | ⟨-, t, htried⟩
    · exact .idle hcoherent rfl
    · exact outcome_of_tried htried hcoherent rfl

/-- Every event has one of the outcomes. All that follows is about these, and not about the operations. -/
theorem step_outcome (hr : h.semaphore.room.Coherent none) (e : Event ι) : h.Outcome (h.step e) := by
  cases e with
  | tryAcquire i =>
    unfold step tryAcquire
    cases hstate : h.semaphore.room.state with
    | zero => exact .same hr
    | succ n => exact .lent (hr.setState n) hstate
  | acquire i => exact outcome_acquire hr i
  | poll i => exact outcome_poll hr i
  | cancel i => exact .idle (hr.cancel i) (hr.state_cancel i)
  -- What cannot be done changes nothing.
  | drop i =>
    by_cases hi : i ∈ h.semaphore.held
    · simp only [step, drop, if_pos hi]
      exact .dropped hi
    · simp only [step, drop, if_neg hi]
      exact .same hr
  | forget i =>
    by_cases hi : i ∈ h.semaphore.held
    · simp only [step, forget, if_pos hi]
      exact .forgotten hi
    · simp only [step, forget, if_neg hi]
      exact .same hr
  | release =>
    by_cases hlt : h.semaphore.available < h.semaphore.max
    · simp only [step, release, if_pos hlt]
      exact .released hlt
    · simp only [step, release, if_neg hlt]
      exact .same hr

end History

/-! ## The account -/

namespace History

/-- The account is right. There may be permits in between, `loose` of them, that were handed out and that no name holds,
but that have not come to anything else either. -/
structure Balanced (max initial loose : Nat) (h : History ι) : Prop where
  coherent : h.semaphore.room.Coherent none
  max_eq : h.semaphore.max = max
  available_le : h.semaphore.available ≤ max
  available : h.semaphore.available + h.lent = initial + (h.returned + h.released)
  held : h.semaphore.held.length + loose + (h.returned + h.refused + h.forgotten) = h.lent

variable {max initial loose : Nat} {h : History ι}

omit [DecidableEq ι] in
/-- The account of a new semaphore is right: nothing has been lent. -/
theorem balanced_new (hle : initial ≤ max) :
    (⟨⟨max, .new initial, []⟩, 0, 0, 0, 0, 0⟩ : History ι).Balanced max initial 0 :=
  ⟨Room.coherent_new initial, rfl, hle, rfl, rfl⟩

namespace Balanced

omit [DecidableEq ι] in
/-- Whatever else happens among the tasks, the account depends only on how many permits are available. -/
theorem withRoom (hb : h.Balanced max initial loose) {r : Room ι Unit Nat} (hr : r.Coherent none)
    (hstate : r.state = h.semaphore.available) :
    ({ h with semaphore := { h.semaphore with room := r } } : History ι).Balanced max initial loose := by
  refine ⟨hr, hb.max_eq, ?_, ?_, hb.held⟩
  · show r.state ≤ max
    rw [hstate]
    exact hb.available_le
  · show r.state + h.lent = _
    rw [hstate]
    exact hb.available

omit [DecidableEq ι] in
/-- A permit that is taken is loose until it is held under a name. -/
theorem taken (hb : h.Balanced max initial loose) {r : Room ι Unit Nat} (hr : r.Coherent none)
    (hstate : h.semaphore.available = r.state + 1) :
    ({ h with semaphore := { h.semaphore with room := r }, lent := h.lent + 1 } : History ι).Balanced max initial
      (loose + 1) := by
  obtain ⟨-, hmax, hle, havailable, hheld⟩ := hb
  rw [hstate] at hle havailable
  refine ⟨hr, hmax, ?_, ?_, ?_⟩
  · show r.state ≤ max
    omega
  · show r.state + (h.lent + 1) = initial + (h.returned + h.released)
    omega
  · show h.semaphore.held.length + (loose + 1) + (h.returned + h.refused + h.forgotten) = h.lent + 1
    omega

omit [DecidableEq ι] in
/-- Holding a loose permit under a name settles it. -/
theorem kept (hb : h.Balanced max initial (loose + 1)) (i : ι) :
    ({ h with semaphore := { h.semaphore with held := i :: h.semaphore.held } } : History ι).Balanced max initial
      loose := by
  refine ⟨hb.coherent, hb.max_eq, hb.available_le, hb.available, ?_⟩
  have hheld := hb.held
  show (i :: h.semaphore.held).length + loose + (h.returned + h.refused + h.forgotten) = h.lent
  rw [List.length_cons]
  omega

/-- A permit whose name lets go of it is loose. -/
theorem loosened (hb : h.Balanced max initial loose) {i : ι} (hi : i ∈ h.semaphore.held) :
    ({ h with semaphore := h.semaphore.letGo i } : History ι).Balanced max initial (loose + 1) := by
  refine ⟨hb.coherent, hb.max_eq, hb.available_le, hb.available, ?_⟩
  have hheld := hb.held
  have hpos := List.length_pos_of_mem hi
  show (h.semaphore.held.erase i).length + (loose + 1) + (h.returned + h.refused + h.forgotten) = h.lent
  rw [List.length_erase_of_mem hi]
  omega

/-- There is room for a permit that comes back, and it becomes available. -/
theorem increased (hb : h.Balanced max initial loose) (hlt : h.semaphore.available < h.semaphore.max) :
    h.semaphore.increased.room.Coherent none ∧ h.semaphore.increased.available = h.semaphore.available + 1 ∧
      h.semaphore.available + 1 ≤ max := by
  rw [hb.max_eq] at hlt
  exact ⟨(hb.coherent.setState (h.semaphore.room.state + 1)).wakeOne, rfl, hlt⟩

/-- A loose permit is dropped: it comes back, or it is refused and counted as that. -/
theorem dropped (hb : h.Balanced max initial (loose + 1)) :
    (h.dropped h.semaphore.giveBack).Balanced max initial loose := by
  have havailable := hb.available
  have hheld := hb.held
  by_cases hlt : h.semaphore.available < h.semaphore.max
  · obtain ⟨hcoherent, hmore, hle⟩ := hb.increased hlt
    rw [giveBack_of_lt hlt]
    refine ⟨hcoherent, hb.max_eq, hmore ▸ hle, ?_, ?_⟩
    · show h.semaphore.increased.available + h.lent = initial + (h.returned + 1 + h.released)
      omega
    · show h.semaphore.held.length + loose + (h.returned + 1 + h.refused + h.forgotten) = h.lent
      omega
  · -- It is not available, but it is accounted for.
    rw [giveBack_of_le (Nat.not_lt.mp hlt)]
    refine ⟨hb.coherent, hb.max_eq, hb.available_le, havailable, ?_⟩
    show h.semaphore.held.length + loose + (h.returned + (h.refused + 1) + h.forgotten) = h.lent
    omega

omit [DecidableEq ι] in
/-- A loose permit that is forgotten is settled: it will not come back by itself. -/
theorem forgotten (hb : h.Balanced max initial (loose + 1)) :
    ({ h with forgotten := h.forgotten + 1 } : History ι).Balanced max initial loose := by
  refine ⟨hb.coherent, hb.max_eq, hb.available_le, hb.available, ?_⟩
  have hheld := hb.held
  show h.semaphore.held.length + loose + (h.returned + h.refused + (h.forgotten + 1)) = h.lent
  omega

/-- A permit is taken and held under a name. One held under it before comes loose and is dropped. -/
theorem handedOut (hb : h.Balanced max initial 0) (i : ι) {r : Room ι Unit Nat} (hr : r.Coherent none)
    (hstate : h.semaphore.available = r.state + 1) :
    (h.handedOut i (hold { h.semaphore with room := r } i)).Balanced max initial 0 := by
  have htaken := hb.taken hr hstate
  by_cases hi : i ∈ h.semaphore.held
  · rw [History.handedOut, hold, if_pos hi, if_pos hi]
    exact htaken.dropped
  · rw [History.handedOut, hold, if_neg hi, if_neg hi]
    exact htaken.kept i

/-- No outcome leaves a permit loose, so the account is right after every event. -/
theorem outcome (hb : h.Balanced max initial 0) {h' : History ι} (ho : h.Outcome h') : h'.Balanced max initial 0 := by
  cases ho with
  | idle hr hstate => exact hb.withRoom hr hstate
  | lent hr hstate => exact hb.handedOut _ hr hstate
  | dropped hi => exact (hb.loosened hi).dropped
  | forgotten hi => exact (hb.loosened hi).forgotten
  | released hlt =>
    obtain ⟨hcoherent, hmore, hle⟩ := hb.increased hlt
    refine ⟨hcoherent, hb.max_eq, hmore ▸ hle, ?_, hb.held⟩
    have havailable := hb.available
    show h.semaphore.increased.available + h.lent = initial + (h.returned + (h.released + 1))
    omega

/-- One event keeps the account right. -/
theorem step (hb : h.Balanced max initial 0) (e : Event ι) : (h.step e).Balanced max initial 0 :=
  hb.outcome (step_outcome hb.coherent e)

omit [DecidableEq ι] in
/-- The permits held and available are not too many if no more were released than forgotten or missing at first. -/
theorem held_add_available_le (hb : h.Balanced max initial loose) (hle : initial ≤ max)
    (hreleased : h.released ≤ h.forgotten + (max - initial)) :
    h.semaphore.held.length + loose + h.semaphore.available + h.refused ≤ max := by
  have havailable := hb.available
  have hheld := hb.held
  omega

end Balanced

/-! ## Refusals -/

/-- Where there is room no drop is refused. -/
theorem refused_dropped_of_lt {h : History ι} {s : Semaphore ι} (hlt : s.available < s.max) :
    (h.dropped s.giveBack).refused = h.refused := by
  rw [giveBack_of_lt hlt]
  rfl

/-- Handing out a permit refuses none, even if one held under the same name is dropped for it. -/
theorem refused_handedOut {h : History ι} {s : Semaphore ι} (i : ι) (hheld : s.held = h.semaphore.held)
    (hlt : s.available < s.max) : (h.handedOut i (s.hold i)).refused = h.refused := by
  by_cases hi : i ∈ h.semaphore.held
  · -- The permit that has just been taken leaves room for the old one.
    rw [handedOut, hold, if_pos hi, if_pos (hheld ▸ hi)]
    exact refused_dropped_of_lt hlt
  · rw [handedOut, if_neg hi]

/-- An event that has a permit refused has let go of a name, and has changed nothing else. -/
theorem step_of_refused {max initial : Nat} {h : History ι} (hb : h.Balanced max initial 0) {e : Event ι}
    (hrefused : (h.step e).refused ≠ h.refused) :
    h.semaphore.available = max ∧ ∃ i ∈ h.semaphore.held,
      h.step e = { h with semaphore := h.semaphore.letGo i, refused := h.refused + 1 } := by
  have hmax := hb.max_eq
  have hle := hb.available_le
  generalize hnext : h.step e = next at hrefused ⊢
  have hcome := step_outcome hb.coherent e
  rw [hnext] at hcome
  -- Of all events only a drop can be refused: it lets go of a permit where there is no room for it.
  cases hcome with
  | idle hr hstate => exact absurd rfl hrefused
  | @lent i r hr hstate =>
    have hlt : r.state < h.semaphore.max := by omega
    exact absurd (refused_handedOut (s := { h.semaphore with room := r }) i rfl hlt) hrefused
  | @dropped i hi =>
    by_cases hlt : (h.semaphore.letGo i).available < (h.semaphore.letGo i).max
    · exact absurd (refused_dropped_of_lt hlt) hrefused
    · have hfull : h.semaphore.max ≤ h.semaphore.available := Nat.not_lt.mp hlt
      refine ⟨by omega, i, hi, ?_⟩
      rw [giveBack_of_le (Nat.not_lt.mp hlt)]
      rfl
  | forgotten hi => exact absurd rfl hrefused
  | released hlt => exact absurd rfl hrefused

/-- A release that fails changes nothing at all. -/
theorem step_release_of_error {h : History ι} {cause : Error} (herror : h.semaphore.release = .error cause) :
    h.step .release = h := by
  simp only [step, herror]

/-! ## Whole runs -/

/-- The account is right after every run, by induction over its events. -/
theorem balanced_run {max initial : Nat} {s : Semaphore ι} (hs : withPermits max initial = .ok s)
    (events : List (Event ι)) : (run s events).Balanced max initial 0 := by
  induction events using List.reverseRecOn with
  | nil =>
    obtain ⟨hle, rfl⟩ := withPermits_eq_ok hs
    exact balanced_new hle
  | append_singleton events e ih =>
    rw [run_append_singleton]
    exact ih.step e

/-- No drop is refused if at no point more permits were released than forgotten or missing at first. -/
theorem refused_run {max initial : Nat} {s : Semaphore ι} (hs : withPermits max initial = .ok s)
    (events : List (Event ι))
    (hreleased : ∀ before, before <+: events →
      (run s before).released ≤ (run s before).forgotten + (max - initial)) :
    (run s events).refused = 0 := by
  induction events using List.reverseRecOn with
  | nil => rfl
  | append_singleton events e ih =>
    have hnone := ih fun before hbefore => hreleased before (hbefore.trans (List.prefix_append _ _))
    have hb := balanced_run hs events
    have hbound := hb.held_add_available_le (withPermits_eq_ok hs).1 (hreleased events (List.prefix_append _ _))
    rw [run_append_singleton]
    by_contra hne
    -- A permit that is dropped was held, so there is room for it.
    obtain ⟨hfull, i, hi, -⟩ := step_of_refused hb (e := e) (by rw [hnone]; exact hne)
    have hpos := List.length_pos_of_mem hi
    omega

end History

/-- **The account of a semaphore's permits.** After every run there are no more permits available than there may be, and
exactly those that there were or that came back, by a drop or a release, and were not lent. A return that fails changes
nothing: an event that has one refused has let go of a name. And if at no point of the run more permits were
released than forgotten or missing at first, then the permits held and those available are together no more than
there may be, and no drop was refused. -/
theorem permits_accounted {max initial : Nat} {s : Semaphore ι} (hs : withPermits max initial = .ok s)
    (events : List (Event ι)) :
    let h := History.run s events
    (h.semaphore.available ≤ max ∧
        h.semaphore.available + h.lent = initial + (h.returned + h.released)) ∧
      ((∀ cause, h.semaphore.release = .error cause → h.step .release = h) ∧
        ∀ e, (h.step e).refused ≠ h.refused → ∃ i ∈ h.semaphore.held,
          h.step e = { h with semaphore := h.semaphore.letGo i, refused := h.refused + 1 }) ∧
      ((∀ before, before <+: events →
          (History.run s before).released ≤ (History.run s before).forgotten + (max - initial)) →
        h.semaphore.held.length + h.semaphore.available ≤ max ∧ h.refused = 0) := by
  intro h
  have hb : h.Balanced max initial 0 := History.balanced_run hs events
  refine ⟨⟨hb.available_le, hb.available⟩, ⟨fun cause => History.step_release_of_error, fun e hrefused => ?_⟩,
    fun hreleased => ⟨?_, History.refused_run hs events hreleased⟩⟩
  · exact (History.step_of_refused hb hrefused).2
  -- With the condition on the releases, no more is lent and left than there may be.
  · have hbound := hb.held_add_available_le (withPermits_eq_ok hs).1 (hreleased events List.prefix_rfl)
    omega

/-- One of two permits was missing at first. A task waits until that one is released, and one that was forgotten is
released as well. -/
def missingReleased : List (Event Nat) :=
  [.tryAcquire 1, .acquire 2, .release, .poll 2, .forget 1, .release, .drop 2]

/-- A permit has been released that is still held. -/
def releasedWhileHeld : History Nat := History.run ⟨1, .new 1, []⟩ [.tryAcquire 1, .release]

theorem permits_accounted_released :
    ((History.run ⟨2, .new 1, []⟩ missingReleased).semaphore.available = 2 ∧
        (History.run ⟨2, .new 1, []⟩ missingReleased).lent = 2 ∧
        (History.run ⟨2, .new 1, []⟩ missingReleased).refused = 0) ∧
      releasedWhileHeld.step .release = releasedWhileHeld ∧
        ∃ i ∈ releasedWhileHeld.semaphore.held,
          releasedWhileHeld.step (.drop 1) =
            { releasedWhileHeld with semaphore := releasedWhileHeld.semaphore.letGo i, refused := 1 } := by
  constructor
  · have hreleased : ∀ before ∈ missingReleased.inits,
        (History.run ⟨2, .new 1, []⟩ before).released ≤ (History.run ⟨2, .new 1, []⟩ before).forgotten + (2 - 1) := by
      decide
    have hs : withPermits 2 1 = .ok (⟨2, .new 1, []⟩ : Semaphore Nat) := rfl
    have hrun := (permits_accounted hs missingReleased).2.2 fun before hbefore =>
      hreleased before ((List.mem_inits before missingReleased).mpr hbefore)
    exact ⟨by decide, by decide, hrun.2⟩
  · have hfull : releasedWhileHeld.semaphore.release = .error (.semaphoreOverflow 1) := rfl
    have hrefused : (releasedWhileHeld.step (.drop 1)).refused ≠ releasedWhileHeld.refused := by decide
    have hs : withPermits 1 1 = .ok (⟨1, .new 1, []⟩ : Semaphore Nat) := rfl
    have hrun := (permits_accounted hs [.tryAcquire 1, .release]).2.1
    exact ⟨hrun.1 _ hfull, hrun.2 _ hrefused⟩

end HttpService.Wait.Semaphore
