import HttpService.Wait.Signal

/-!
# What one poll does to a signal

Between polls every registration either waits suspended in the queue or has been picked, and a wake is stored only
while nobody waits (`Signal.Sound`). A poll begins and ends in such a state.

* `Signal.Free.turns_eq` — a poll of a task without a registration, written out: it uses up a stored wake, and it leaves
  the task at the end of the queue exactly when its last try found nothing.
* `Signal.resume_of_suspended`, `Signal.resume_of_picked` — a poll of a task that waits does nothing before the task
  has been picked, and afterwards is the poll of a task without a registration.
* `Signal.Free.turns_of_draws` — a task that takes from a stock takes one if there is any, and waits otherwise, whatever
  is stored at the signal.
-/

namespace HttpService.Wait

variable {ι σ α ε : Type} [DecidableEq ι]

/-- Taking a name off a list on which it does not stand changes nothing. -/
theorem filter_ne_of_not_mem {l : List ι} {i : ι} (h : i ∉ l) : l.filter (· ≠ i) = l := by
  rw [List.filter_eq_self]
  intro j hj
  rw [decide_eq_true_eq]
  rintro rfl
  exact h hj

/-- On a list on which nobody stands twice, taking somebody off is erasing the one mention. -/
theorem filter_ne_eq_erase {l : List ι} (h : l.Nodup) (i : ι) : l.filter (· ≠ i) = l.erase i := by
  rw [h.erase_eq_filter]
  exact List.filter_congr fun j _ => by simp [bne, Bool.beq_eq_decide_eq]

omit [DecidableEq ι] in
/-- A new name at the end of a queue is no second mention of anybody. -/
theorem nodup_append_singleton {l : List ι} {i : ι} (h : l.Nodup) (hi : i ∉ l) : (l ++ [i]).Nodup := by
  rw [List.nodup_append]
  refine ⟨h, by simp, fun j hj k hk => ?_⟩
  obtain rfl := List.mem_singleton.mp hk
  rintro rfl
  exact hi hj

attribute [ext] Signal

namespace Signal

/-! ## Changes of one registration -/

/-- A stored wake has been used up. -/
def spent (s : Signal ι) : Signal ι := { s with permit := false }

/-- A registration has come to the end of the queue. -/
def queued (s : Signal ι) (i : ι) (g : Stage) : Signal ι :=
  { s.setStage i (some g) with queue := s.queue ++ [i] }

/-- A task waits for the next wake. None is stored then. -/
def joined (s : Signal ι) (i : ι) : Signal ι := s.spent.queued i (.waiting true)

/-- A registration is gone. -/
def without (s : Signal ι) (i : ι) : Signal ι :=
  { s.setStage i none with queue := s.queue.filter (· ≠ i) }

theorem setStage_self (s : Signal ι) (i : ι) (g : Option Stage) : (s.setStage i g).stage i = g := if_pos rfl

/-- A change of one registration leaves the others as they were, which is the frame of every deed below. -/
theorem setStage_of_ne (s : Signal ι) {i j : ι} (h : j ≠ i) (g : Option Stage) :
    (s.setStage i g).stage j = s.stage j := if_neg h

/-- Of two changes of one registration only the later one is seen. -/
theorem setStage_setStage (s : Signal ι) (i : ι) (g g' : Option Stage) :
    (s.setStage i g).setStage i g' = s.setStage i g' := by
  refine Signal.ext rfl rfl (funext fun j => ?_) rfl
  by_cases hj : j = i
  · rw [hj, setStage_self, setStage_self]
  · rw [setStage_of_ne _ hj, setStage_of_ne _ hj, setStage_of_ne _ hj]

/-- Writing down what is there already is no change; a task that looks while it sleeps does no more than this. -/
theorem setStage_eq_self {s : Signal ι} {i : ι} {g : Option Stage} (h : s.stage i = g) : s.setStage i g = s := by
  refine Signal.ext rfl rfl (funext fun j => ?_) rfl
  by_cases hj : j = i
  · rw [hj, setStage_self, h]
  · rw [setStage_of_ne s hj]

omit [DecidableEq ι] in
theorem spent_eq_self {s : Signal ι} (h : s.permit = false) : s.spent = s := by
  rw [spent, ← h]

/-- What a registration had come to does not matter once it is gone. -/
theorem without_setStage (s : Signal ι) (i : ι) (g : Option Stage) : (s.setStage i g).without i = s.without i := by
  rw [without, setStage_setStage]
  rfl

/-- Whoever comes to the end of the queue and goes has changed nothing. -/
theorem without_queued (s : Signal ι) (i : ι) (g : Stage) : (s.queued i g).without i = s.without i := by
  have hqueue : (s.queued i g).queue.filter (· ≠ i) = s.queue.filter (· ≠ i) := by
    show (s.queue ++ [i]).filter _ = _
    rw [List.filter_append, List.filter_cons_of_neg (by simp), List.filter_nil, List.append_nil]
  rw [without, hqueue]
  show ({ (s.setStage i (some g)).setStage i none with queue := _ } : Signal ι) = _
  rw [setStage_setStage]
  rfl

/-- Whoever is not in the queue leaves nothing there. -/
theorem without_of_not_mem {s : Signal ι} {i : ι} (h : i ∉ s.queue) : s.without i = s.setStage i none := by
  rw [without, filter_ne_of_not_mem h]
  rfl

/-- Giving a registration up: it goes, and only a single wake that it had not seen is passed on. -/
theorem leave_eq (s : Signal ι) (i : ι) :
    s.leave i = if s.stage i = some (.picked .single) then (s.without i).wakeOne else (s.without i, []) := rfl

/-! ## One poll -/

/-- The task has no registration. -/
structure Free (s : Signal ι) (i : ι) : Prop where
  stage : s.stage i = none
  not_mem : i ∉ s.queue

omit [DecidableEq ι] in
/-- A stored wake is nobody's registration. -/
theorem Free.spent {s : Signal ι} {i : ι} (h : s.Free i) : s.spent.Free i := ⟨h.stage, h.not_mem⟩

theorem Free.without {s : Signal ι} {i : ι} (h : s.Free i) : s.without i = s := by
  rw [without_of_not_mem h.not_mem, setStage_eq_self h.stage]

/-- A first registration has nothing to give up, and so wakes nobody. -/
theorem Free.arm {s : Signal ι} {i : ι} (h : s.Free i) : s.arm i = (s.setStage i (some (.armed s.wakes)), []) := by
  rw [Signal.arm, leave_eq, if_neg (by rw [h.stage]; simp), h.without]

/-- A fresh registration is over at once if a wake is stored, which it uses up. -/
theorem Free.registered {s : Signal ι} {i : ι} (h : s.Free i) :
    s.registered i =
      if s.permit then (true, s.spent.setStage i (some .finished)) else (false, s.queued i (.waiting false)) := by
  have hwakes : ¬ (s.wakes ≠ (s.setStage i (some (.armed s.wakes))).wakes) := fun hne => hne rfl
  rw [Signal.registered, h.arm, look, setStage_self]
  simp only [if_neg hwakes]
  show (if s.permit then _ else _) = _
  by_cases hp : s.permit
  · rw [if_pos hp, if_pos hp, setStage_setStage]
    rfl
  · rw [if_neg hp, if_neg hp, setStage_setStage]
    rfl

/-- Leaving after a try that ends the poll: nothing is left of the registration but a wake that it used up. -/
theorem Free.leave_registered {s : Signal ι} {i : ι} (h : s.Free i) : ((s.registered i).2.leave i).1 = s.spent := by
  rw [h.registered]
  by_cases hp : s.permit
  · rw [if_pos hp, leave_eq, setStage_self, if_neg (by simp), without_setStage, h.spent.without]
  · have hstage : (s.queued i (.waiting false)).stage i = some (.waiting false) := setStage_self s i _
    rw [if_neg hp, leave_eq, hstage, if_neg (by simp), without_queued, h.without,
      spent_eq_self (Bool.eq_false_iff.mpr hp)]

/-- One turn: another follows only if the try found nothing and a wake was stored. -/
theorem Free.turn_eq {s : Signal ι} {i : ι} (h : s.Free i) (attempt : Attempt σ ε α) (state : σ) :
    turn attempt s i state =
      match attempt state with
      | (.error e, state) => .ended ⟨.failed e, 1, s.spent, state⟩
      | (.ok (some a), state) => .ended ⟨.ready a, 1, s.spent, state⟩
      | (.ok none, state) => if s.permit then .again s.spent state else .ended ⟨.pending, 1, s.joined i, state⟩ := by
  unfold turn
  -- A try that ends gives the registration up again; one that is in vain looks whether a wake has come, which only a
  -- stored one can have.
  rcases attempt state with ⟨(e | _ | a), state'⟩
  · simp only [h.leave_registered]
  · by_cases hp : s.permit
    · -- The registration is over, and looking at it again changes nothing.
      have hlook : (s.registered i).2.look true i = (true, s.spent.setStage i (some .finished)) := by
        rw [h.registered, if_pos hp, look, setStage_self]
      have hleave : ((s.spent.setStage i (some .finished)).leave i).1 = s.spent := by
        have hleft := h.leave_registered
        rwa [h.registered, if_pos hp] at hleft
      simp only [hlook, hleave, hp, if_true]
    · have hstage : (s.queued i (.waiting false)).stage i = some (.waiting false) := setStage_self s i _
      have hjoined : (s.queued i (.waiting false)).setStage i (some (.waiting true)) = s.joined i := by
        rw [joined, spent_eq_self (Bool.eq_false_iff.mpr hp)]
        show ({ (s.setStage i _).setStage i _ with queue := _ } : Signal ι) = _
        rw [setStage_setStage]
        rfl
      have hlook : (s.registered i).2.look true i = (false, s.joined i) := by
        rw [h.registered, if_neg hp, look, hstage, ← hjoined]
        rfl
      simp only [hlook, hp, Bool.false_eq_true, if_false]
  · simp only [h.leave_registered]

/-- **A poll of a task without a registration.** It tries once, and a second time only if it found nothing and a wake
was stored. A stored wake is gone afterwards, and the task waits exactly when its last try found nothing. -/
theorem Free.turns_eq {s : Signal ι} {i : ι} (h : s.Free i) (attempt : Attempt σ ε α) (state : σ) :
    turns attempt s i state =
      match attempt state with
      | (.error e, state) => ⟨.failed e, 1, s.spent, state⟩
      | (.ok (some a), state) => ⟨.ready a, 1, s.spent, state⟩
      | (.ok none, state) =>
        if s.permit then
          match attempt state with
          | (.error e, state) => ⟨.failed e, 2, s.spent, state⟩
          | (.ok (some a), state) => ⟨.ready a, 2, s.spent, state⟩
          | (.ok none, state) => ⟨.pending, 2, s.joined i, state⟩
        else ⟨.pending, 1, s.joined i, state⟩ := by
  rw [turns, h.turn_eq]
  rcases attempt state with ⟨(e | _ | a), state'⟩
  · rfl
  · by_cases hp : s.permit
    · simp only [hp, if_true]
      -- In the second turn no wake is stored.
      rw [h.spent.turn_eq]
      rcases attempt state' with ⟨(e | _ | a), state''⟩
      · rfl
      · rfl
      · rfl
    · simp only [hp, Bool.false_eq_true, if_false]
  · rfl

/-- A task that has not been picked is not tried. -/
theorem resume_of_suspended {s : Signal ι} {i : ι} (h : s.stage i = some (.waiting true)) (attempt : Attempt σ ε α)
    (state : σ) : resume attempt s i state = ⟨.pending, 0, s, state⟩ := by
  have hlook : s.look true i = (false, s) := by
    rw [look, h]
    simp only [Bool.or_true, setStage_eq_self h]
  rw [resume, hlook]
  rfl

/-- A task that has been picked begins anew. -/
theorem resume_of_picked {s : Signal ι} {i : ι} {by_ : Pick} (h : s.stage i = some (.picked by_)) (hnot : i ∉ s.queue)
    (attempt : Attempt σ ε α) (state : σ) :
    resume attempt s i state = turns attempt (s.setStage i none) i state := by
  -- Looking at the registration ends it, and what is left of it goes with nothing to pass on.
  have hlook : s.look true i = (true, s.setStage i (some .finished)) := by rw [look, h]
  have hleave : ((s.setStage i (some .finished)).leave i).1 = s.setStage i none := by
    rw [leave_eq, setStage_self, if_neg (by simp), without_setStage, without_of_not_mem hnot]
  rw [resume, hlook]
  simp only [if_true, hleave]

/-! ## Taking from a stock -/

/-- An attempt that takes one of a stock if there is any, and otherwise finds nothing and changes nothing. -/
structure Attempt.Draws (attempt : Attempt σ ε α) (stock : σ → Nat) : Prop where
  empty : ∀ state, stock state = 0 → attempt state = (.ok none, state)
  taken : ∀ state, stock state ≠ 0 →
    ∃ a state', attempt state = (.ok (some a), state') ∧ stock state = stock state' + 1

/-- What the task takes it takes once, whatever is stored at the signal. -/
theorem Free.turns_of_draws {s : Signal ι} {i : ι} (h : s.Free i) {attempt : Attempt σ ε α} {stock : σ → Nat}
    (hd : attempt.Draws stock) (state : σ) :
    (stock state = 0 ∧ ∃ tries, turns attempt s i state = ⟨.pending, tries, s.joined i, state⟩) ∨
      ∃ a state', attempt state = (.ok (some a), state') ∧ stock state = stock state' + 1 ∧
        turns attempt s i state = ⟨.ready a, 1, s.spent, state'⟩ := by
  rw [h.turns_eq]
  by_cases hstock : stock state = 0
  · refine .inl ⟨hstock, ?_⟩
    simp only [hd.empty state hstock]
    by_cases hp : s.permit
    · exact ⟨2, by rw [if_pos hp]⟩
    · exact ⟨1, by rw [if_neg hp]⟩
  · obtain ⟨a, state', hattempt, hless⟩ := hd.taken state hstock
    exact .inr ⟨a, state', hattempt, hless, by rw [hattempt]⟩

/-! ## Registrations between polls -/

/-- The registrations are as polls leave them. -/
structure Sound (s : Signal ι) : Prop where
  nodup : s.queue.Nodup
  mem_queue : ∀ i, i ∈ s.queue ↔ s.stage i = some (.waiting true)
  stages : ∀ i g, s.stage i = some g → g = .waiting true ∨ ∃ by_, g = .picked by_
  permit : s.permit = true → s.queue = []

omit [DecidableEq ι] in
/-- Between polls, at first: there are no registrations at all. -/
theorem sound_new : (new : Signal ι).Sound where
  nodup := List.nodup_nil
  mem_queue _ := by simp [new]
  stages _ _ h := by cases h
  permit _ := rfl

omit [DecidableEq ι] in
/-- Between polls a task without a registration is not in the queue either. -/
theorem Sound.free {s : Signal ι} (h : s.Sound) {i : ι} (hi : s.stage i = none) : s.Free i where
  stage := hi
  not_mem hmem := by
    rw [h.mem_queue, hi] at hmem
    cases hmem

omit [DecidableEq ι] in
/-- Whoever has been picked has left the queue, so no second wake can be spent on it. -/
theorem Sound.not_mem_of_picked {s : Signal ι} (h : s.Sound) {i : ι} {by_ : Pick}
    (hi : s.stage i = some (.picked by_)) : i ∉ s.queue := by
  intro hmem
  rw [h.mem_queue, hi] at hmem
  cases hmem

omit [DecidableEq ι] in
theorem Sound.spent {s : Signal ι} (h : s.Sound) : s.spent.Sound :=
  ⟨h.nodup, h.mem_queue, h.stages, fun hp => by cases hp⟩

/-- A task that goes to sleep comes to the end of the queue. -/
theorem Sound.joined {s : Signal ι} (h : s.Sound) {i : ι} (hi : s.stage i = none) : (s.joined i).Sound where
  nodup := nodup_append_singleton h.nodup (h.free hi).not_mem
  mem_queue j := by
    show j ∈ s.queue ++ [i] ↔ (s.setStage i _).stage j = _
    rw [List.mem_append, List.mem_singleton]
    -- The task that joins is in the line, and for the others nothing changes.
    by_cases hj : j = i
    · rw [hj, setStage_self]
      exact iff_of_true (.inr rfl) rfl
    · rw [setStage_of_ne s hj, h.mem_queue, or_iff_left hj]
  stages j g hg := by
    change (s.setStage i _).stage j = _ at hg
    by_cases hj : j = i
    · rw [hj, setStage_self] at hg
      exact .inl (Option.some.inj hg).symm
    · rw [setStage_of_ne s hj] at hg
      exact h.stages j g hg
  permit hp := by cases hp

/-- A registration may go at any time, from wherever in the queue. -/
theorem Sound.without {s : Signal ι} (h : s.Sound) (i : ι) : (s.without i).Sound where
  nodup := h.nodup.filter _
  mem_queue j := by
    show j ∈ s.queue.filter _ ↔ (s.setStage i none).stage j = _
    rw [List.mem_filter, decide_eq_true_eq]
    -- The registration itself is gone, and the others are where they were.
    by_cases hj : j = i
    · rw [hj, setStage_self]
      exact iff_of_false (fun hmem => hmem.2 rfl) (by simp)
    · rw [setStage_of_ne s hj, h.mem_queue, and_iff_left hj]
  stages j g hg := by
    change (s.setStage i none).stage j = _ at hg
    by_cases hj : j = i
    · rw [hj, setStage_self] at hg
      cases hg
    · rw [setStage_of_ne s hj] at hg
      exact h.stages j g hg
  permit hp := by
    show s.queue.filter _ = []
    rw [h.permit hp, List.filter_nil]

/-! ## Wakes -/

/-- With nobody in the queue a wake is stored. -/
theorem wakeOne_of_nil {s : Signal ι} (hq : s.queue = []) : s.wakeOne = ({ s with permit := true }, []) := by
  rw [wakeOne, hq]

/-- A wake picks the one that has waited longest. -/
def pickedFirst (s : Signal ι) (i : ι) (rest : List ι) : Signal ι :=
  { s.setStage i (some (.picked .single)) with queue := rest }

/-- With somebody in the queue a wake picks whoever has waited longest, and that task is to be polled. -/
theorem Sound.wakeOne_of_cons {s : Signal ι} (h : s.Sound) {i : ι} {rest : List ι} (hq : s.queue = i :: rest) :
    s.wakeOne = (s.pickedFirst i rest, [i]) := by
  have hsuspended : s.isSuspended i = true := by
    rw [isSuspended, (h.mem_queue i).mp (hq ▸ List.mem_cons_self)]
    rfl
  rw [Signal.wakeOne, hq]
  simp only [hsuspended, if_true]
  rfl

/-- A single wake keeps the registrations as polls leave them. -/
theorem Sound.wakeOne {s : Signal ι} (h : s.Sound) : s.wakeOne.1.Sound := by
  cases hq : s.queue with
  | nil =>
    rw [wakeOne_of_nil hq]
    exact ⟨h.nodup, h.mem_queue, h.stages, fun _ => hq⟩
  | cons i rest =>
    rw [h.wakeOne_of_cons hq]
    have hnodup := h.nodup
    rw [hq, List.nodup_cons] at hnodup
    refine ⟨hnodup.2, fun j => ?_, fun j g hg => ?_, fun hp => ?_⟩
    -- Whoever was picked is in the queue no longer, and the others are where they were.
    · show j ∈ rest ↔ (s.setStage i _).stage j = _
      by_cases hj : j = i
      · rw [hj, setStage_self]
        exact iff_of_false hnodup.1 (by simp)
      · rw [setStage_of_ne s hj, ← h.mem_queue, hq, List.mem_cons, or_iff_right hj]
    · change (s.setStage i _).stage j = _ at hg
      by_cases hj : j = i
      · rw [hj, setStage_self] at hg
        exact .inr ⟨.single, (Option.some.inj hg).symm⟩
      · rw [setStage_of_ne s hj] at hg
        exact h.stages j g hg
    · -- No wake is stored while somebody waits.
      have hnil := h.permit hp
      rw [hq] at hnil
      cases hnil

/-- A wake of all picks everybody in the queue. -/
def pickedAll (s : Signal ι) : Signal ι :=
  { s with
    wakes := s.wakes + 1
    stage := fun j => if j ∈ s.queue then some (.picked .all) else s.stage j
    queue := [] }

/-- Everybody in the queue is suspended, so all of them are woken. -/
theorem Sound.wakeAll_eq {s : Signal ι} (h : s.Sound) : s.wakeAll = (s.pickedAll, s.queue) := by
  have hsuspended : s.queue.filter s.isSuspended = s.queue := by
    rw [List.filter_eq_self]
    intro i hi
    rw [isSuspended, (h.mem_queue i).mp hi]
    rfl
  rw [wakeAll, hsuspended]
  rfl

/-- So does a wake of all: the queue is empty afterwards. -/
theorem Sound.pickedAll {s : Signal ι} (h : s.Sound) : s.pickedAll.Sound where
  nodup := List.nodup_nil
  mem_queue i := by
    show i ∈ [] ↔ (if i ∈ s.queue then some (.picked .all) else s.stage i) = some (.waiting true)
    -- Everyone in the line has been picked, and nobody else was waiting.
    refine iff_of_false List.not_mem_nil ?_
    by_cases hi : i ∈ s.queue
    · rw [if_pos hi]
      simp
    · rw [if_neg hi, ← h.mem_queue]
      exact hi
  stages i g hg := by
    change (if i ∈ s.queue then some (.picked .all) else s.stage i) = some g at hg
    by_cases hi : i ∈ s.queue
    · rw [if_pos hi] at hg
      exact .inr ⟨.all, (Option.some.inj hg).symm⟩
    · rw [if_neg hi] at hg
      exact h.stages i g hg
  permit _ := rfl

end Signal

end HttpService.Wait
