import Mathlib.Data.List.Induction
import HttpService.Wait.Queue
import HttpService.Proofs.Wait.Tasks

/-!
# What a queue delivers

A queue is used by any number of tasks, in any order: elements are pushed and taken without waiting, tasks that take
one start, are polled whether woken or not, and are given up at any time (`Queue.Event`, `Queue.History`).

* `Queue.delivered_append_toList` — what has been delivered and what is still in the queue are together what was
  pushed, in that order: nothing is lost, doubled or overtaken.
* `Queue.size_le_woken` — while a task waits that was not woken, at least as many others were woken and have yet to
  be polled as there are elements. So when all of those have been polled, tasks wait for an empty queue only.
-/

namespace HttpService.Wait

/-- What a poll has found. -/
def Signal.Polled.found? {ε α : Type} : Signal.Polled ε α → Option α
  | .ready a => some a
  | .pending | .failed _ => none

namespace Queue

variable {ι α : Type} [DecidableEq ι]

/-! ## Runs -/

/-- What may happen to a queue. -/
inductive Event (ι α : Type) where
  /-- An element is pushed; `grows` says whether the storage can take it. -/
  | push (a : α) (grows : Bool)
  | tryTake
  /-- A task starts that takes an element. -/
  | take (i : ι)
  | poll (i : ι)
  | cancel (i : ι)

/-- The element that an event pushes with success. -/
def Event.pushed? : Event ι α → Option α
  | .push a true => some a
  | _ => none

/-- A queue, and what it has delivered so far. -/
structure History (ι α : Type) where
  queue : Queue ι α
  delivered : List α

namespace History

/-- The history after a poll, which may have delivered an element, or after none. -/
def polled (h : History ι α) : Option (Signal.Polled Empty α × Queue ι α) → History ι α
  | none => h
  | some (p, q) => ⟨q, h.delivered ++ p.found?.toList⟩

/-- One event. A task starts only under a name that no other has, and only a task that there is can be polled. -/
def step (h : History ι α) : Event ι α → History ι α
  | .push a grows =>
    match h.queue.offer a grows with
    | .ok q => ⟨q, h.delivered⟩
    | .error _ => h
  | .tryTake => ⟨h.queue.tryTake.2, h.delivered ++ h.queue.tryTake.1.toList⟩
  | .take i => h.polled (h.queue.take i)
  | .poll i => h.polled (h.queue.poll i)
  | .cancel i => ⟨(h.queue.cancel i).2, h.delivered⟩

/-- Events one after the other, on a new queue. -/
def run (events : List (Event ι α)) : History ι α := events.foldl step ⟨new, []⟩

/-- The last event of a run is the last step. -/
theorem run_append_singleton (events : List (Event ι α)) (e : Event ι α) :
    run (events ++ [e]) = (run events).step e := by
  rw [run, List.foldl_append]
  rfl

end History

/-! ## What a run keeps -/

omit [DecidableEq ι] in
/-- Taking the first element draws from the queue as from a stock, one at a time. -/
theorem draws_takeFirst (u : Unit) : (takeFirst u : Signal.Attempt (List α) Empty α).Draws List.length where
  empty state h := by
    rw [List.length_eq_zero_iff.mp h]
    rfl
  taken state h := by
    cases state with
    | nil => exact absurd rfl h
    | cons a as => exact ⟨a, as, rfl, rfl⟩

/-- What a history has delivered and still holds is what was pushed, and enough tasks have been woken for it. -/
structure History.Kept (h : History ι α) (pushed : List α) : Prop where
  coherent : h.queue.room.Coherent none
  answers : h.queue.room.Answers h.queue.size
  order : h.delivered ++ h.queue.toList = pushed

omit [DecidableEq ι] in
/-- A new queue has received and delivered nothing. -/
theorem kept_new : (⟨new, []⟩ : History ι α).Kept [] :=
  ⟨Room.coherent_new [], Room.answers_new [] 0, rfl⟩

namespace History.Kept

variable {h : History ι α} {pushed : List α}

/-- A push appends one element behind all others, and wakes one task for it; where the storage cannot grow nothing
happens. -/
theorem push (hk : h.Kept pushed) (a : α) (grows : Bool) :
    (h.step (.push a grows)).Kept (pushed ++ (Event.push a grows : Event ι α).pushed?.toList) := by
  cases grows with
  | false =>
    show h.Kept (pushed ++ [])
    rwa [List.append_nil]
  | true =>
    -- The element comes first, and then the wake for it.
    have hadded := hk.coherent.setState (h.queue.room.state ++ [a])
    have hanswers : ({ h.queue.room with state := h.queue.room.state ++ [a] } : Room ι Unit (List α)).Answers
        h.queue.size := ⟨hk.answers.single, hk.answers.enough⟩
    refine ⟨hadded.wakeOne, ?_, ?_⟩
    · have hmore := hanswers.wakeOne hadded
      have hsize : (h.queue.push a).size = h.queue.size + 1 := by
        rw [size, toList_push, List.length_append, List.length_singleton]
        rfl
      show (h.queue.push a).room.Answers (h.queue.push a).size
      rw [hsize]
      exact hmore
    · show h.delivered ++ (h.queue.push a).toList = pushed ++ [a]
      rw [toList_push, ← List.append_assoc, hk.order]

/-- Taking without waiting delivers the oldest element, if there is one. -/
theorem tryTake (hk : h.Kept pushed) : (h.step .tryTake).Kept pushed := by
  -- What is taken is the first, so the order of the others is kept.
  have horder := toList_tryTake h.queue
  refine ⟨?_, ?_, ?_⟩
  · show h.queue.tryTake.2.room.Coherent none
    unfold Queue.tryTake
    split
    · exact hk.coherent
    · exact hk.coherent.setState _
  · show h.queue.tryTake.2.room.Answers h.queue.tryTake.2.size
    unfold Queue.tryTake
    split
    · exact hk.answers
    next a as hstate =>
      have hless : as.length ≤ h.queue.size := by
        rw [size, toList, hstate]
        exact Nat.le_succ _
      have hanswers := hk.answers.of_le hless
      exact ⟨hanswers.single, hanswers.enough⟩
  · show h.delivered ++ h.queue.tryTake.1.toList ++ h.queue.tryTake.2.toList = pushed
    rw [List.append_assoc, horder, hk.order]

/-- What a task finds it takes from the front. -/
theorem polled_of_tried (hk : h.Kept pushed) {r r' : Room ι Unit (List α)} {i : ι} {p : Signal.Polled Empty α}
    (htried : Room.Tried (takeFirst ()) List.length r i p r') (hstate : r.state = h.queue.toList)
    (hcoherent : r'.Coherent none) (hanswers : r'.Answers r'.state.length) :
    (⟨⟨r'⟩, h.delivered ++ p.found?.toList⟩ : History ι α).Kept pushed := by
  refine ⟨hcoherent, hanswers, ?_⟩
  -- The oldest one is taken, so it stands before all that is left.
  have horder : p.found?.toList ++ r'.state = r.state := by
    cases htried with
    | @found a state hattempt hstock =>
      cases hr : r.state with
      | nil =>
        rw [hr] at hattempt
        cases hattempt
      | cons b bs =>
        rw [hr] at hattempt
        cases hattempt
        rfl
    | nothing hstock => rfl
  show h.delivered ++ p.found?.toList ++ r'.state = pushed
  rw [List.append_assoc, horder, hstate, hk.order]

/-- So does a task that comes and finds one. -/
theorem take (hk : h.Kept pushed) (i : ι) : (h.step (.take i)).Kept pushed := by
  show (h.polled (h.queue.take i)).Kept pushed
  cases henter : h.queue.room.enter takeFirst i () with
  | none =>
    rw [Queue.take, henter]
    exact hk
  | some pr =>
    obtain ⟨p, r'⟩ := pr
    rw [Queue.take, henter]
    obtain ⟨-, htried⟩ := Room.enter_cases draws_takeFirst hk.coherent henter
    exact hk.polled_of_tried htried rfl (hk.coherent.enter draws_takeFirst henter)
      (hk.answers.enter draws_takeFirst hk.coherent henter)

/-- And so does a task that is polled, if it was woken and finds one. -/
theorem poll (hk : h.Kept pushed) (i : ι) : (h.step (.poll i)).Kept pushed := by
  show (h.polled (h.queue.poll i)).Kept pushed
  cases hpoll : h.queue.room.poll takeFirst i with
  | none =>
    rw [Queue.poll, hpoll]
    exact hk
  | some pr =>
    obtain ⟨p, r'⟩ := pr
    rw [Queue.poll, hpoll]
    have hcoherent := hk.coherent.poll draws_takeFirst hpoll
    have hanswers := Room.Answers.poll draws_takeFirst hk.answers hk.coherent hpoll
    rcases Room.poll_cases draws_takeFirst hk.coherent hpoll with ⟨-, rfl, rfl⟩ | ⟨-, t, htried⟩
    · -- A task that was not woken has looked at nothing.
      refine ⟨hcoherent, hanswers, ?_⟩
      show h.delivered ++ [] ++ h.queue.toList = pushed
      rw [List.append_nil, hk.order]
    · exact hk.polled_of_tried htried rfl hcoherent hanswers

/-- To give a task up delivers nothing and loses nothing, even if it had been woken. -/
theorem cancel (hk : h.Kept pushed) (i : ι) : (h.step (.cancel i)).Kept pushed := by
  have hstate := hk.coherent.state_cancel i
  refine ⟨hk.coherent.cancel i, ?_, ?_⟩
  · have hanswers := hk.answers.cancel hk.coherent i
    show (h.queue.room.cancel i).2.Answers (h.queue.room.cancel i).2.state.length
    rw [hstate]
    exact hanswers
  · show h.delivered ++ (h.queue.room.cancel i).2.state = pushed
    rw [hstate]
    exact hk.order

/-- One event keeps the order of all elements, delivered and still there. -/
theorem step (hk : h.Kept pushed) (e : Event ι α) : (h.step e).Kept (pushed ++ e.pushed?.toList) := by
  -- Only a push adds to what was pushed.
  have hnone : pushed ++ (none : Option α).toList = pushed := List.append_nil pushed
  cases e with
  | push a grows => exact hk.push a grows
  | tryTake => exact hnone.symm ▸ hk.tryTake
  | take i => exact hnone.symm ▸ hk.take i
  | poll i => exact hnone.symm ▸ hk.poll i
  | cancel i => exact hnone.symm ▸ hk.cancel i

end History.Kept

/-- And so does every run: by induction over its events, the last one first. -/
theorem kept_run (events : List (Event ι α)) : (History.run events).Kept (events.filterMap Event.pushed?) := by
  induction events using List.reverseRecOn with
  | nil => exact kept_new
  | append_singleton events e ih =>
    have hpushed : (events ++ [e]).filterMap Event.pushed? =
        events.filterMap Event.pushed? ++ e.pushed?.toList := by
      rw [List.filterMap_append, List.filterMap_cons]
      cases e.pushed? with
      | none => rfl
      | some a => rfl
    rw [History.run_append_singleton, hpushed]
    exact ih.step e

/-- **What is delivered is what was pushed.** After every run the elements delivered so far and those still in the queue
are the elements pushed with success, in the order in which they were pushed. So none is lost, not even by a task that
is given up after it was woken, and none is delivered twice or overtakes another. -/
theorem delivered_append_toList (events : List (Event ι α)) :
    (History.run events).delivered ++ (History.run events).queue.toList = events.filterMap Event.pushed? :=
  (kept_run events).order

/-- **No wake is lost.** After every run, if a task waits that was not woken, then at least as many tasks were woken and
have yet to be polled as there are elements. So if none of these is left, tasks wait only for an empty queue. No task
is counted twice. -/
theorem size_le_woken (events : List (Event ι α)) :
    let q := (History.run events).queue
    q.room.waiting.Nodup ∧
      (∀ i ∈ q.room.waiting, i ∉ q.room.woken →
        q.size ≤ (q.room.waiting.filter (· ∈ q.room.woken)).length) ∧
      ((∀ i ∈ q.room.waiting, i ∉ q.room.woken) → q.room.waiting ≠ [] → q.toList = []) := by
  intro q
  have hk := kept_run events
  have hle : ∀ i ∈ q.room.waiting, i ∉ q.room.woken →
      q.size ≤ (q.room.waiting.filter (· ∈ q.room.woken)).length :=
    fun i hwaiting hwoken => hk.answers.le_of_not_woken hk.coherent hwaiting hwoken
  refine ⟨hk.coherent.nodup_waiting, hle, fun hnone hne => ?_⟩
  obtain ⟨i, hi⟩ := List.exists_mem_of_ne_nil _ hne
  have hsize := hle i hi (hnone i hi)
  -- Nobody is left who was woken.
  have hfilter : q.room.waiting.filter (· ∈ q.room.woken) = [] := by
    rw [List.filter_eq_nil_iff]
    intro j hj
    rw [decide_eq_true_eq]
    exact hnone j hj
  rw [hfilter, List.length_nil, Nat.le_zero] at hsize
  exact List.length_eq_zero_iff.mp hsize

/-- Of four tasks that wait two are woken; one of these is given up, and its wake goes to the third. -/
def someGivenUp : Queue Nat Nat :=
  (History.run [.take 1, .take 2, .take 3, .take 4, .push 10 true, .push 20 true, .cancel 1]).queue

/-- Of two tasks that wait one is woken and polled. -/
def allPolled : Queue Nat Nat := (History.run [.take 1, .take 2, .push 10 true, .poll 1]).queue

theorem size_le_woken_given_up :
    (4 ∈ someGivenUp.room.waiting ∧ 4 ∉ someGivenUp.room.woken ∧ someGivenUp.toList = [10, 20] ∧
        someGivenUp.size ≤ (someGivenUp.room.waiting.filter (· ∈ someGivenUp.room.woken)).length) ∧
      allPolled.room.waiting = [2] ∧ allPolled.room.woken = [] ∧ allPolled.toList = [] := by
  have hfour : 4 ∈ someGivenUp.room.waiting ∧ 4 ∉ someGivenUp.room.woken := by decide
  have hwaiting : allPolled.room.waiting = [2] := by decide
  have hwoken : allPolled.room.woken = [] := by decide
  refine ⟨⟨hfour.1, hfour.2, by decide, (size_le_woken _).2.1 4 hfour.1 hfour.2⟩, hwaiting, hwoken, ?_⟩
  refine (size_le_woken _).2.2 (fun i _ => ?_) ?_
  · show i ∉ allPolled.room.woken
    rw [hwoken]
    exact List.not_mem_nil
  · show allPolled.room.waiting ≠ []
    rw [hwaiting]
    exact List.cons_ne_nil _ _

end Queue

end HttpService.Wait
