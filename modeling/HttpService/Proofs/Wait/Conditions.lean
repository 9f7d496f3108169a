import Mathlib.Data.List.Induction
import HttpService.Wait.Condition
import HttpService.Proofs.Wait.Tasks

/-!
# What those who wait for a condition have seen

A condition variable is used by any number of tasks, in any order: the value is changed, one task or all are notified,
tasks that wait start, are polled whether woken or not, and are given up at any time (`ConditionVariable.Event`,
`ConditionVariable.run`). Nobody looks at the value but in a test, so what a task knows of it is what its last test
found.

* `ConditionVariable.wait_cases`, `.poll_cases` — a task that starts or was woken is tested; how the test ends decides
  how the poll ends.
* `ConditionVariable.asleep_of_step` — how a task comes to be asleep: it was just tested in vain, or it was
  asleep before and nobody notified all.
* `ConditionVariable.asleep_after_failed_test` — the same for whole runs. So if all are notified after the value was
  changed last, a task can only sleep whose condition does not hold.
-/

namespace HttpService.Wait

namespace Room

variable {ι τ σ : Type} [DecidableEq ι]

/-- A task that is gone is not found any more. -/
theorem lookup_filter_self (tasks : List (ι × τ)) (i : ι) : (tasks.filter (·.1 ≠ i)).lookup i = none := by
  rw [List.lookup_eq_none_iff]
  intro p hp
  have hne := of_decide_eq_true (List.mem_filter.mp hp).2
  exact bne_iff_ne.mpr (Ne.symm hne)

/-- The others are found as before. -/
theorem lookup_filter_of_ne (tasks : List (ι × τ)) {i j : ι} (hj : j ≠ i) :
    (tasks.filter (·.1 ≠ i)).lookup j = tasks.lookup j := by
  induction tasks with
  | nil => rfl
  | cons p tasks ih =>
    by_cases hp : p.1 = i
    · rw [List.filter_cons_of_neg (by simpa using hp), ih, List.lookup_cons,
        beq_eq_false_iff_ne.mpr (fun h => hj (h.trans hp))]
    · rw [List.filter_cons_of_pos (by simpa using hp), List.lookup_cons, List.lookup_cons, ih]

/-- A task that waits and was not woken. -/
def Asleep (r : Room ι τ σ) (i : ι) (t : τ) : Prop := r.tasks.lookup i = some t ∧ i ∉ r.woken

/-! ## Who is asleep after an operation was so before, unless it was that very task's turn -/

/-- When a task ends, the sleepers are those that slept before, and it is none of them. -/
theorem asleep_of_finished {r : Room ι τ σ} {i j : ι} {t : τ} {state : σ} (h : (r.finished i state).Asleep j t) :
    j ≠ i ∧ r.Asleep j t := by
  obtain ⟨hlookup, hwoken⟩ := h
  change (r.tasks.filter (·.1 ≠ i)).lookup j = some t at hlookup
  have hj : j ≠ i := by
    rintro rfl
    rw [lookup_filter_self] at hlookup
    cases hlookup
  rw [lookup_filter_of_ne _ hj] at hlookup
  exact ⟨hj, hlookup, hwoken⟩

/-- When a task comes, no other falls asleep. -/
theorem asleep_of_opened {r : Room ι τ σ} {i j : ι} {t u : τ} (hj : j ≠ i) (h : (r.opened i u).Asleep j t) :
    r.Asleep j t := by
  obtain ⟨hlookup, hwoken⟩ := h
  refine ⟨?_, hwoken⟩
  change (r.tasks ++ [(i, u)]).lookup j = some t at hlookup
  rw [List.lookup_append, List.lookup_cons, beq_eq_false_iff_ne.mpr hj] at hlookup
  simpa using hlookup

/-- When a woken task is polled, no other falls asleep. -/
theorem asleep_of_roused {r : Room ι τ σ} {i j : ι} {t : τ} (hj : j ≠ i) (h : (r.roused i).Asleep j t) :
    r.Asleep j t := by
  obtain ⟨hlookup, hwoken⟩ := h
  refine ⟨hlookup, fun hmem => hwoken ?_⟩
  show j ∈ r.woken.filter (· ≠ i)
  rw [List.mem_filter]
  exact ⟨hmem, decide_eq_true hj⟩

/-- A wake sends nobody to sleep. -/
theorem Coherent.asleep_of_wakeOne {r : Room ι τ σ} (hr : r.Coherent none) {j : ι} {t : τ}
    (h : r.wakeOne.Asleep j t) : r.Asleep j t := by
  cases hq : r.signal.queue with
  | nil =>
    rw [wakeOne_of_nil hq] at h
    exact h
  | cons i rest =>
    rw [hr.wakeOne_of_cons hq] at h
    exact ⟨h.1, fun hmem => h.2 (List.mem_append_left _ hmem)⟩

/-- After a wake of all nobody sleeps: this is what makes the last wake of all a bound for what a sleeper knows. -/
theorem Coherent.not_asleep_wakeAll {r : Room ι τ σ} (hr : r.Coherent none) (j : ι) (t : τ) :
    ¬ r.wakeAll.Asleep j t := by
  intro h
  rw [hr.wakeAll_eq] at h
  obtain ⟨hlookup, hwoken⟩ := h
  change r.tasks.lookup j = some t at hlookup
  change j ∉ r.woken ++ r.signal.queue at hwoken
  rw [List.mem_append, not_or] at hwoken
  have hwaiting : j ∈ r.waiting := isSome_lookup_iff.mp (by rw [hlookup]; rfl)
  exact hwoken.2 (hr.mem_queue hwaiting hwoken.1)

/-- Giving a task up sends nobody to sleep either, wherever its wake goes. -/
theorem Coherent.asleep_of_cancel {r : Room ι τ σ} (hr : r.Coherent none) {i j : ι} {t : τ}
    (h : (r.cancel i).2.Asleep j t) : r.Asleep j t := by
  have hremoved : (r.removed i).Asleep j t → r.Asleep j t := by
    rintro ⟨hlookup, hwoken⟩
    -- Apart from its registration, the task is gone as one that is finished.
    have hfinished : ((r.roused i).finished i r.state).Asleep j t := ⟨hlookup, hwoken⟩
    obtain ⟨hj, hbefore⟩ := asleep_of_finished hfinished
    exact asleep_of_roused hj hbefore
  rw [hr.cancel_eq] at h
  split at h
  · split at h
    · exact hremoved ((hr.removed i).asleep_of_wakeOne h)
    · exact hremoved h
  · exact h

end Room

namespace ConditionVariable

variable {ι σ ε : Type} [DecidableEq ι]

/-! ## Runs -/

/-- What may happen to a condition variable and its value. -/
inductive Event (ι σ ε : Type) where
  | set (value : σ)
  | notifyOne
  | notifyAll
  /-- A task starts that waits for a condition. If the tests of it never fail it is a plain wait. -/
  | wait (i : ι) (c : Condition σ ε)
  | poll (i : ι)
  | cancel (i : ι)

def value (v : ConditionVariable ι σ ε) : σ := v.room.state.value

/-- How often conditions have been tested. -/
def tests (v : ConditionVariable ι σ ε) : Nat := v.room.state.tests

/-- The condition that an unfinished task waits for. -/
def condition? (v : ConditionVariable ι σ ε) (i : ι) : Option (Condition σ ε) := v.room.tasks.lookup i

/-- One event. A task starts only under a name that no other has, and only a task that there is can be polled. -/
def step (v : ConditionVariable ι σ ε) : Event ι σ ε → ConditionVariable ι σ ε
  | .set value => v.set value
  | .notifyOne => v.notifyOne
  | .notifyAll => v.notifyAll
  | .wait i c => ((v.wait i c).map (·.2)).getD v
  | .poll i => ((v.poll i).map (·.2)).getD v
  | .cancel i => (v.cancel i).2

/-- Events one after the other, on a new condition variable. -/
def run (value : σ) (events : List (Event ι σ ε)) : ConditionVariable ι σ ε := events.foldl step (new value)

/-- The last event of a run is the last step. -/
theorem run_append_singleton (value : σ) (events : List (Event ι σ ε)) (e : Event ι σ ε) :
    run value (events ++ [e]) = (run value events).step e := by
  rw [run, List.foldl_append]
  rfl

/-- The poll that an event makes: of which task, and how it ends. -/
def polled? (v : ConditionVariable ι σ ε) : Event ι σ ε → Option (ι × Signal.Polled ε Unit)
  | .wait i c => (v.wait i c).map fun p => (i, p.1)
  | .poll i => (v.poll i).map fun p => (i, p.1)
  | _ => none

/-- In an event the condition of a task is tested. The value is the same in all tests of one event. -/
def Tests (v : ConditionVariable ι σ ε) (e : Event ι σ ε) (i : ι) (c : Condition σ ε) : Prop :=
  (e = .wait i c ∨ e = .poll i ∧ v.condition? i = some c) ∧ v.tests < (v.step e).tests

/-! ## Tests -/

omit [DecidableEq ι] in
/-- More tests have been made. -/
def tested (r : Room ι (Condition σ ε) (Watched σ)) (n : Nat) : Watched σ :=
  { r.state with tests := r.state.tests + n }

/-- What testing a task without a registration comes to. -/
inductive Tested (c : Condition σ ε) (r : Room ι (Condition σ ε) (Watched σ)) (i : ι) :
    Signal.Polled ε Unit → Room ι (Condition σ ε) (Watched σ) → Prop
  | holds (h : c r.state.value = .ok true) : Tested c r i (.ready ()) (r.finished i (tested r 1))
  | fails {e : ε} (h : c r.state.value = .error e) : Tested c r i (.failed e) (r.finished i (tested r 1))
  | waits (h : c r.state.value = .ok false) {n : Nat} (hn : 0 < n) :
    Tested c r i .pending { r.suspended i with state := tested r n }

/-- A task is tested once, or a second time if that was in vain and a wake was stored. -/
theorem tested_after {r : Room ι (Condition σ ε) (Watched σ)} {i : ι} (hfree : r.signal.Free i)
    (c : Condition σ ε) :
    Tested c r i (r.signal.turns (test c) i r.state).result (r.after i (r.signal.turns (test c) i r.state)) := by
  rw [hfree.turns_eq]
  cases hc : c r.state.value with
  | error e =>
    have htest : test c r.state = (.error e, tested r 1) := by
      rw [test, hc]
      rfl
    simp only [htest]
    exact .fails hc
  | ok b =>
    cases b with
    | true =>
      have htest : test c r.state = (.ok (some ()), tested r 1) := by
        rw [test, hc]
        rfl
      simp only [htest]
      exact .holds hc
    | false =>
      have htest : test c r.state = (.ok none, tested r 1) := by
        rw [test, hc]
        rfl
      -- A second test is of the same value.
      have hagain : test c (tested r 1) = (.ok none, tested r 2) := by
        have hsame : c (tested r 1).value = .ok false := hc
        rw [test, hsame]
        rfl
      by_cases hp : r.signal.permit
      · simp only [htest, hagain, hp, if_true]
        exact .waits hc Nat.two_pos
      · simp only [htest, hp, Bool.false_eq_true, if_false]
        exact .waits hc Nat.one_pos

/-- A task that starts to wait is tested at once, under a new name. -/
theorem wait_cases {v v' : ConditionVariable ι σ ε} (h : v.room.Coherent none) {i : ι} {c : Condition σ ε}
    {p : Signal.Polled ε Unit} (hwait : v.wait i c = some (p, v')) :
    i ∉ v.room.waiting ∧ Tested c (v.room.opened i c) i p v'.room := by
  obtain ⟨⟨p, r⟩, henter, heq⟩ := Option.map_eq_some_iff.mp hwait
  obtain ⟨rfl, rfl⟩ := Prod.mk.inj heq
  obtain ⟨hnew, hfree, hp, hr⟩ := Room.enter_turns h henter
  have htested := tested_after hfree c
  rw [hp, hr]
  exact ⟨hnew, htested⟩

/-- A poll of a task that was not woken does nothing; one that was woken is tested. -/
theorem poll_cases {v v' : ConditionVariable ι σ ε} (h : v.room.Coherent none) {i : ι} {p : Signal.Polled ε Unit}
    (hpoll : v.poll i = some (p, v')) :
    (p = .pending ∧ v' = v) ∨
      ∃ c, i ∈ v.room.woken ∧ v.condition? i = some c ∧ Tested c (v.room.roused i) i p v'.room := by
  obtain ⟨⟨p, r⟩, hroom, heq⟩ := Option.map_eq_some_iff.mp hpoll
  obtain ⟨rfl, rfl⟩ := Prod.mk.inj heq
  rcases Room.poll_turns h hroom with ⟨-, rfl, rfl⟩ | ⟨hwoken, hfree, c, hc, hp, hr⟩
  · exact .inl ⟨rfl, rfl⟩
  · have htested := tested_after hfree c
    refine .inr ⟨c, hwoken, hc, ?_⟩
    rw [hp, hr]
    exact htested

namespace Tested

variable {c : Condition σ ε} {r r' : Room ι (Condition σ ε) (Watched σ)} {i : ι} {p : Signal.Polled ε Unit}

/-- A test leaves the room coherent, however it ends. -/
theorem coherent (ht : Tested c r i p r') (h : r.Coherent (some i)) : r'.Coherent none := by
  cases ht with
  | holds | fails => exact h.finished _
  | waits => exact h.suspended.setState _

/-- A test does not change the value that it is about. -/
theorem value_eq (ht : Tested c r i p r') : r'.state.value = r.state.value := by
  cases ht with
  | holds | fails | waits => rfl

/-- A test is counted, so an event that tests can be told from one that does not. -/
theorem tests_lt (ht : Tested c r i p r') : r.state.tests < r'.state.tests := by
  cases ht with
  | holds | fails => exact Nat.lt_succ_self _
  | waits _ hn => exact Nat.lt_add_of_pos_right hn

/-- A wait ends well only because its condition held at that very test. -/
theorem of_ready {u : Unit} (ht : Tested c r i p r') (hp : p = .ready u) : c r.state.value = .ok true := by
  cases ht with
  | holds h => exact h
  | fails | waits => cases hp

/-- And it fails only with the error of that test. -/
theorem of_failed {e : ε} (ht : Tested c r i p r') (hp : p = .failed e) : c r.state.value = .error e := by
  cases ht with
  | fails h =>
    cases hp
    exact h
  | holds | waits => cases hp

/-- Whoever is asleep afterwards is the task itself after a test in vain, or was asleep before. -/
theorem asleep (ht : Tested c r i p r') {j : ι} {d : Condition σ ε} (h : r'.Asleep j d) :
    (j = i ∧ r.tasks.lookup i = some d ∧ c r.state.value = .ok false) ∨ (j ≠ i ∧ r.Asleep j d) := by
  cases ht with
  | holds | fails => exact .inr (Room.asleep_of_finished h)
  | waits hc =>
    by_cases hj : j = i
    · subst hj
      exact .inl ⟨rfl, h.1, hc⟩
    · exact .inr ⟨hj, h⟩

end Tested

/-! ## Steps -/

/-- The room in which the turn of a task begins. -/
structure Begins (v : ConditionVariable ι σ ε) (e : Event ι σ ε) (i : ι) (c : Condition σ ε)
    (r : Room ι (Condition σ ε) (Watched σ)) : Prop where
  event : e = .wait i c ∨ e = .poll i ∧ v.condition? i = some c
  coherent : r.Coherent (some i)
  state : r.state = v.room.state
  task : r.tasks.lookup i = some c
  others : ∀ {j d}, j ≠ i → r.Asleep j d → v.room.Asleep j d

/-- The turn of a task that has just come. -/
theorem begins_wait {v : ConditionVariable ι σ ε} (h : v.room.Coherent none) {i : ι} (hnew : i ∉ v.room.waiting)
    (c : Condition σ ε) : v.Begins (.wait i c) i c (v.room.opened i c) where
  event := .inl rfl
  coherent := h.opened hnew c
  state := rfl
  task := by
    have hnone : v.room.tasks.lookup i = none := by
      rw [← Option.not_isSome_iff_eq_none, Room.isSome_lookup_iff]
      exact hnew
    show (v.room.tasks ++ [(i, c)]).lookup i = some c
    rw [List.lookup_append, hnone, List.lookup_cons, beq_self_eq_true]
    rfl
  others hj h := Room.asleep_of_opened hj h

/-- The turn of a task that was woken. -/
theorem begins_poll {v : ConditionVariable ι σ ε} (h : v.room.Coherent none) {i : ι} (hwoken : i ∈ v.room.woken)
    {c : Condition σ ε} (hc : v.condition? i = some c) : v.Begins (.poll i) i c (v.room.roused i) where
  event := .inr ⟨rfl, hc⟩
  coherent := h.roused hwoken
  state := rfl
  task := hc
  others hj h := Room.asleep_of_roused hj h

/-- A task that starts or is polled changes nothing and waits on, or it has its turn and is tested. -/
theorem turn_cases {v : ConditionVariable ι σ ε} (h : v.room.Coherent none) {e : Event ι σ ε} {i : ι}
    (he : (∃ c, e = .wait i c) ∨ e = .poll i) :
    (v.step e = v ∧ ∀ j p, v.polled? e = some (j, p) → p = .pending) ∨
      ∃ c r p, v.Begins e i c r ∧ Tested c r i p (v.step e).room ∧ v.polled? e = some (i, p) := by
  -- A wait that does not begin and a poll that finds the task asleep test nothing; any other turn is one test.
  rcases he with ⟨c, rfl⟩ | rfl
  · cases hwait : v.wait i c with
    | none =>
      refine .inl ⟨?_, fun j p hp => ?_⟩
      · rw [step, hwait]
        rfl
      · rw [polled?, hwait] at hp
        cases hp
    | some pv =>
      obtain ⟨hnew, htested⟩ := wait_cases h hwait
      refine .inr ⟨c, _, pv.1, begins_wait h hnew c, ?_, ?_⟩
      · rw [step, hwait]
        exact htested
      · rw [polled?, hwait]
        rfl
  · cases hpoll : v.poll i with
    | none =>
      refine .inl ⟨?_, fun j p hp => ?_⟩
      · rw [step, hpoll]
        rfl
      · rw [polled?, hpoll] at hp
        cases hp
    | some pv =>
      obtain ⟨p, v'⟩ := pv
      rcases poll_cases h hpoll with ⟨rfl, rfl⟩ | ⟨c, hwoken, hc, htested⟩
      · refine .inl ⟨?_, fun j p hp => ?_⟩
        · rw [step, hpoll]
          rfl
        · rw [polled?, hpoll] at hp
          cases hp
          rfl
      · refine .inr ⟨c, _, p, begins_poll h hwoken hc, ?_, ?_⟩
        · rw [step, hpoll]
          exact htested
        · rw [polled?, hpoll]
          rfl

/-- In its turn the condition of the task is tested. -/
theorem Begins.tests {v : ConditionVariable ι σ ε} {e : Event ι σ ε} {i : ι} {c : Condition σ ε}
    {r : Room ι (Condition σ ε) (Watched σ)} {p : Signal.Polled ε Unit} (hb : v.Begins e i c r)
    (ht : Tested c r i p (v.step e).room) : v.Tests e i c := by
  have hmore := ht.tests_lt
  rw [hb.state] at hmore
  exact ⟨hb.event, hmore⟩

/-- Only starting and polling a task can test anything. -/
theorem Tests.turn {v : ConditionVariable ι σ ε} {e : Event ι σ ε} {i : ι} {c : Condition σ ε} (h : v.Tests e i c) :
    (∃ d, e = .wait i d) ∨ e = .poll i := by
  rcases h.1 with rfl | ⟨rfl, -⟩
  · exact .inl ⟨c, rfl⟩
  · exact .inr rfl

/-- Every event keeps tasks and registrations together. -/
theorem coherent_step {v : ConditionVariable ι σ ε} (h : v.room.Coherent none) (e : Event ι σ ε) :
    (v.step e).room.Coherent none := by
  have hturn : ∀ i, ((∃ c, e = .wait i c) ∨ e = .poll i) → (v.step e).room.Coherent none := by
    intro i he
    rcases turn_cases h he with ⟨hsame, -⟩ | ⟨c, r, p, hb, ht, -⟩
    · rwa [hsame]
    · exact ht.coherent hb.coherent
  cases e with
  | set value => exact h.setState _
  | notifyOne => exact h.wakeOne
  | notifyAll => exact h.wakeAll
  | wait i c => exact hturn i (.inl ⟨c, rfl⟩)
  | poll i => exact hturn i (.inr rfl)
  | cancel i => exact h.cancel i

/-- And so does every run, from a new condition variable on. -/
theorem coherent_run (value : σ) (events : List (Event ι σ ε)) : (run value events).room.Coherent none := by
  induction events using List.reverseRecOn with
  | nil => exact Room.coherent_new _
  | append_singleton events e ih =>
    rw [run_append_singleton]
    exact coherent_step ih e

/-- Nothing but a change of the value changes it. -/
theorem value_step {v : ConditionVariable ι σ ε} (h : v.room.Coherent none) {e : Event ι σ ε}
    (he : ∀ value, e ≠ .set value) : (v.step e).value = v.value := by
  -- A condition only reads the value, so a poll leaves it as it was.
  have hturn : ∀ i, ((∃ c, e = .wait i c) ∨ e = .poll i) → (v.step e).value = v.value := by
    intro i hi
    rcases turn_cases h hi with ⟨hsame, -⟩ | ⟨c, r, p, hb, ht, -⟩
    · rw [hsame]
    · have hvalue := ht.value_eq
      rwa [hb.state] at hvalue
  cases e with
  | set value => exact absurd rfl (he value)
  | notifyOne | notifyAll => rfl
  | wait i c => exact hturn i (.inl ⟨c, rfl⟩)
  | poll i => exact hturn i (.inr rfl)
  | cancel i =>
    have hstate := h.state_cancel i
    show (v.room.cancel i).2.state.value = v.room.state.value
    rw [hstate]

/-- **How a task comes to be asleep.** The event was its own turn, and the test was in vain; or it was asleep before,
and the event neither notified all nor tested it. -/
theorem asleep_of_step {v : ConditionVariable ι σ ε} (h : v.room.Coherent none) {e : Event ι σ ε} {j : ι}
    {c : Condition σ ε} (hasleep : (v.step e).room.Asleep j c) :
    (v.Tests e j c ∧ c v.value = .ok false) ∨
      (v.room.Asleep j c ∧ e ≠ .notifyAll ∧ ∀ d, ¬ v.Tests e j d) := by
  have hturn : ∀ i, ((∃ c, e = .wait i c) ∨ e = .poll i) →
      (v.Tests e j c ∧ c v.value = .ok false) ∨
        (v.room.Asleep j c ∧ e ≠ .notifyAll ∧ ∀ d, ¬ v.Tests e j d) := by
    intro i he
    have hall : e ≠ .notifyAll := by
      rintro rfl
      rcases he with ⟨c, he⟩ | he
      · cases he
      · cases he
    rcases turn_cases h he with ⟨hsame, -⟩ | ⟨d, r, p, hb, ht, -⟩
    · rw [hsame] at hasleep
      refine .inr ⟨hasleep, hall, fun d hd => ?_⟩
      have hmore := hd.2
      rw [hsame] at hmore
      exact Nat.lt_irrefl _ hmore
    · rcases ht.asleep hasleep with ⟨rfl, htask, hfalse⟩ | ⟨hj, hbefore⟩
      · obtain rfl : d = c := Option.some.inj (hb.task.symm.trans htask)
        rw [hb.state] at hfalse
        exact .inl ⟨hb.tests ht, hfalse⟩
      · refine .inr ⟨hb.others hj hbefore, hall, fun d hd => ?_⟩
        -- It is the turn of another.
        rcases he with ⟨c, rfl⟩ | rfl
        · rcases hd.turn with ⟨c', heq⟩ | heq
          · cases heq
            exact hj rfl
          · cases heq
        · rcases hd.turn with ⟨c', heq⟩ | heq
          · cases heq
          · cases heq
            exact hj rfl
  cases e with
  | set value => exact .inr ⟨hasleep, by simp, fun d hd => by simpa using hd.turn⟩
  | notifyOne => exact .inr ⟨h.asleep_of_wakeOne hasleep, by simp, fun d hd => by simpa using hd.turn⟩
  | notifyAll => exact absurd hasleep (h.not_asleep_wakeAll j c)
  | wait i c => exact hturn i (.inl ⟨c, rfl⟩)
  | poll i => exact hturn i (.inr rfl)
  | cancel i => exact .inr ⟨h.asleep_of_cancel hasleep, by simp, fun d hd => by simpa using hd.turn⟩

/-! ## Whole runs -/

/-- The value is what it was last set to: neither tests nor wakes change it. -/
theorem value_run_append (value : σ) (events : List (Event ι σ ε)) {since : List (Event ι σ ε)}
    (hset : ∀ x, .set x ∉ since) : (run value (events ++ since)).value = (run value events).value := by
  induction since using List.reverseRecOn with
  | nil => rw [List.append_nil]
  | append_singleton since e ih =>
    have hbefore : ∀ x, .set x ∉ since := fun x hx => hset x (List.mem_append_left _ hx)
    have he : ∀ x, e ≠ .set x := by
      rintro x rfl
      exact hset x (List.mem_append_right _ List.mem_cons_self)
    rw [← List.append_assoc, run_append_singleton, value_step (coherent_run value _) he, ih hbefore]

/-- A poll that ends has tested, and the test says how it ends. -/
theorem of_polled {v : ConditionVariable ι σ ε} (h : v.room.Coherent none) {e : Event ι σ ε} {i : ι}
    {p : Signal.Polled ε Unit} (hp : v.polled? e = some (i, p)) (hends : p ≠ .pending) :
    ∃ c, v.Tests e i c ∧ (∀ u, p = .ready u → c v.value = .ok true) ∧
      ∀ err, p = .failed err → c v.value = .error err := by
  -- Only a wait and a poll have an answer.
  have hturn : ∃ j, (∃ c, e = .wait j c) ∨ e = .poll j := by
    cases e with
    | wait j c => exact ⟨j, .inl ⟨c, rfl⟩⟩
    | poll j => exact ⟨j, .inr rfl⟩
    | set | notifyOne | notifyAll | cancel => cases hp
  obtain ⟨j, he⟩ := hturn
  rcases turn_cases h he with ⟨-, hpending⟩ | ⟨c, r, q, hb, ht, hq⟩
  · exact absurd (hpending i p hp) hends
  · obtain ⟨rfl, rfl⟩ := Prod.mk.inj (Option.some.inj (hq.symm.trans hp))
    have hready := fun u => ht.of_ready (u := u)
    have hfailed := fun err => ht.of_failed (e := err)
    rw [hb.state] at hready hfailed
    exact ⟨c, hb.tests ht, hready, hfailed⟩

/-- The last test of a task in a run: what happened before it, the event that it was part of, and what happened
since. -/
structure LastTest (value : σ) (events : List (Event ι σ ε)) (i : ι) (c : Condition σ ε)
    (before : List (Event ι σ ε)) (e : Event ι σ ε) (since : List (Event ι σ ε)) : Prop where
  events_eq : events = before ++ e :: since
  tests : (run value before).Tests e i c
  last : ∀ between e' after, since = between ++ e' :: after →
    ∀ d, ¬ (run value (before ++ e :: between)).Tests e' i d

/-- An event that tests a condition is the last test of it so far. -/
theorem LastTest.here {value : σ} {events : List (Event ι σ ε)} {e : Event ι σ ε} {i : ι} {c : Condition σ ε}
    (h : (run value events).Tests e i c) : LastTest value (events ++ [e]) i c events e [] where
  events_eq := rfl
  tests := h
  last between e' after heq := by simp at heq

/-- It stays the last as long as the task is not tested again. -/
theorem LastTest.later {value : σ} {events before since : List (Event ι σ ε)} {e e' : Event ι σ ε} {i : ι}
    {c : Condition σ ε} (h : LastTest value events i c before e since)
    (hnone : ∀ d, ¬ (run value events).Tests e' i d) :
    LastTest value (events ++ [e']) i c before e (since ++ [e']) where
  events_eq := by rw [h.events_eq, List.append_assoc, List.cons_append]
  tests := h.tests
  last between f after heq := by
    rcases List.eq_nil_or_concat after with rfl | ⟨after, f', rfl⟩
    · obtain ⟨rfl, hf⟩ := List.append_inj' heq rfl
      cases hf
      rw [← h.events_eq]
      exact hnone
    · rw [List.concat_eq_append, ← List.cons_append, ← List.append_assoc] at heq
      obtain ⟨hsince, -⟩ := List.append_inj' heq rfl
      exact h.last between f after hsince

/-- A task that is asleep was tested in vain, and since then nobody has notified all. -/
theorem exists_lastTest (value : σ) (events : List (Event ι σ ε)) {i : ι} {c : Condition σ ε}
    (h : (run value events).room.Asleep i c) :
    ∃ before e since, LastTest value events i c before e since ∧ c (run value before).value = .ok false ∧
      .notifyAll ∉ since := by
  -- From the last event backwards: either it tested, or the last test is one of those before it.
  induction events using List.reverseRecOn with
  | nil =>
    obtain ⟨hlookup, -⟩ := h
    cases hlookup
  | append_singleton events e ih =>
    rw [run_append_singleton] at h
    rcases asleep_of_step (coherent_run value events) h with ⟨htests, hfalse⟩ | ⟨hbefore, hall, hnone⟩
    · exact ⟨events, e, [], .here htests, hfalse, List.not_mem_nil⟩
    · obtain ⟨before, f, since, hlast, hfalse, hsince⟩ := ih hbefore
      refine ⟨before, f, since ++ [e], hlast.later hnone, hfalse, fun hmem => ?_⟩
      rcases List.mem_append.mp hmem with hmem | hmem
      · exact hsince hmem
      · exact hall (List.mem_singleton.mp hmem).symm

/-- Whoever is asleep was tested after all were notified last. -/
theorem LastTest.since_notifyAll {value : σ} {events before since : List (Event ι σ ε)} {e : Event ι σ ε} {i : ι}
    {c : Condition σ ε} (h : LastTest value events i c before e since) (hsince : .notifyAll ∉ since)
    {prior later : List (Event ι σ ε)} (heq : events = prior ++ .notifyAll :: later) :
    ∃ between, later = between ++ e :: since := by
  have hne : e ≠ .notifyAll := by
    rintro rfl
    simpa using h.tests.turn
  rw [h.events_eq] at heq
  rcases List.append_eq_append_iff.mp heq with ⟨between, rfl, hrest⟩ | ⟨between, rfl, hrest⟩
  · cases between with
    | nil =>
      cases hrest
      exact absurd rfl hne
    | cons f between =>
      -- The notification would have come after the test.
      obtain ⟨-, rfl⟩ := List.cons.inj hrest
      exact absurd (List.mem_append_right _ List.mem_cons_self) hsince
  · cases between with
    | nil =>
      cases hrest
      exact absurd rfl hne
    | cons f between => exact ⟨between, (List.cons.inj hrest).2⟩

/-- **What those who wait have seen.** In every run, whatever happens in whatever order:

* a task is done only in a poll that tested its condition, and the condition held; it fails only with the error of
  such a test;
* a task that waits and was not woken found at its last test that its condition did not hold, and nobody has notified
  all since then;
* if all were notified after the value was changed last, then no condition holds that such a task waits for. So when
  everybody who was woken has been polled, nobody waits for what has come about. -/
theorem asleep_after_failed_test (value : σ) (events : List (Event ι σ ε)) :
    let v := run value events
    (∀ e i, (v.polled? e = some (i, .ready ()) → ∃ c, v.Tests e i c ∧ c v.value = .ok true) ∧
        ∀ err, v.polled? e = some (i, .failed err) → ∃ c, v.Tests e i c ∧ c v.value = .error err) ∧
      (∀ i c, v.room.Asleep i c → ∃ before e since, LastTest value events i c before e since ∧
        c (run value before).value = .ok false ∧ .notifyAll ∉ since) ∧
      ∀ before since, events = before ++ .notifyAll :: since → (∀ x, .set x ∉ since) →
        ∀ i c, v.room.Asleep i c → c v.value = .ok false := by
  intro v
  have hv := coherent_run value events
  refine ⟨fun e i => ⟨fun hp => ?_, fun err hp => ?_⟩, fun i c => exists_lastTest value events, ?_⟩
  · obtain ⟨c, htests, hready, -⟩ := of_polled hv hp (by simp)
    exact ⟨c, htests, hready () rfl⟩
  · obtain ⟨c, htests, -, hfailed⟩ := of_polled hv hp (by simp)
    exact ⟨c, htests, hfailed err rfl⟩
  · intro prior later heq hset i c hasleep
    obtain ⟨before, e, since, hlast, hfalse, hsince⟩ := exists_lastTest value events hasleep
    obtain ⟨between, rfl⟩ := hlast.since_notifyAll hsince heq
    -- From the test on the value has stayed what it was.
    have hsame : v.value = (run value before).value := by
      have hkept : ∀ x, .set x ∉ e :: since := fun x hx => hset x (List.mem_append_right _ hx)
      show (run value events).value = _
      rw [hlast.events_eq, value_run_append value before hkept]
    rw [hsame]
    exact hfalse

/-- Holds from a number on, and fails beyond ten. -/
def reaches (n : Nat) : Condition Nat Nat := fun value => if value > 10 then .error value else .ok (n ≤ value)

/-- Two tasks wait for the value to reach numbers. -/
def twoWait : List (Event Nat Nat Nat) := [.wait 1 (reaches 3), .wait 2 (reaches 5)]

/-- The value comes close, all are notified, and both are polled. -/
def bothPolled : List (Event Nat Nat Nat) :=
  twoWait ++ [.set 1, .notifyOne, .poll 1, .set 2, .notifyAll, .poll 2, .poll 1]

theorem asleep_after_failed_test_both :
    (∃ c, (run 0 (twoWait ++ [.set 4, .notifyAll])).Tests (.poll 1) 1 c ∧ c 4 = .ok true) ∧
      (∃ c, (run 0 (twoWait ++ [.set 11, .notifyAll])).Tests (.poll 2) 2 c ∧ c 11 = .error 11) ∧
      (∃ before e since, LastTest 0 bothPolled 1 (reaches 3) before e since ∧
        reaches 3 (run 0 before).value = .ok false ∧ .notifyAll ∉ since) ∧
      reaches 5 (run 0 bothPolled).value = .ok false := by
  have hready : (run 0 (twoWait ++ [.set 4, .notifyAll])).polled? (.poll 1) = some (1, .ready ()) := by decide
  have hfailed : (run 0 (twoWait ++ [.set 11, .notifyAll])).polled? (.poll 2) = some (2, .failed 11) := by decide
  have hone : (run 0 bothPolled).room.Asleep 1 (reaches 3) := ⟨rfl, by decide⟩
  have htwo : (run 0 bothPolled).room.Asleep 2 (reaches 5) := ⟨rfl, by decide⟩
  have hset : ∀ x, (.set x : Event Nat Nat Nat) ∉ ([.poll 2, .poll 1] : List (Event Nat Nat Nat)) := by simp
  have hevents : bothPolled =
      (twoWait ++ [.set 1, .notifyOne, .poll 1, .set 2]) ++ .notifyAll :: [.poll 2, .poll 1] := rfl
  exact ⟨((asleep_after_failed_test 0 _).1 _ _).1 hready, ((asleep_after_failed_test 0 _).1 _ _).2 11 hfailed,
    (asleep_after_failed_test 0 bothPolled).2.1 1 _ hone,
    (asleep_after_failed_test 0 bothPolled).2.2 _ _ hevents hset 2 _ htwo⟩

end ConditionVariable

end HttpService.Wait
