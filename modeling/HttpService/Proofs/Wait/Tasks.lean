import Mathlib.Data.List.Perm.Subperm
import HttpService.Wait.Room
import HttpService.Proofs.Wait.Turns

/-!
# Tasks and their wakes

Between polls every unfinished task has one registration: it waits in the queue of the signal, or it has been picked
and is on the list of the woken (`Room.Coherent`). What the operations of a room do is said once (`enter_turns`,
`poll_turns`, `cancel_eq`, `wakeOne_of_cons`, `wakeAll_eq`); everything else follows from that.

* `Room.Coherent.enter`, `.poll`, `.cancel`, `.wakeOne`, `.wakeAll` — every operation keeps this.
* `Room.Answers` — while anybody waits in the queue, as many tasks are woken and not yet polled as there is stock. A
  wake for each addition to the stock keeps this up (`Answers.wakeOne`), whoever is polled or cancelled in between.
-/

namespace HttpService.Wait

variable {ι τ σ α ε : Type} [DecidableEq ι]

namespace Room

/-! ## What the operations do -/

/-- A task can be found under its name exactly while it is unfinished. -/
theorem isSome_lookup_iff {r : Room ι τ σ} {i : ι} : (r.tasks.lookup i).isSome ↔ i ∈ r.waiting := by
  rw [List.lookup_isSome_iff, waiting, List.mem_map]
  constructor
  · rintro ⟨p, hp, hi⟩
    exact ⟨p, hp, (beq_iff_eq.mp hi).symm⟩
  · rintro ⟨p, hp, rfl⟩
    exact ⟨p, hp, beq_self_eq_true _⟩

/-- A task has come and is about to be tried. -/
def opened (r : Room ι τ σ) (i : ι) (t : τ) : Room ι τ σ := { r with tasks := r.tasks ++ [(i, t)] }

/-- A task that was picked is about to be tried. -/
def roused (r : Room ι τ σ) (i : ι) : Room ι τ σ :=
  { r with signal := r.signal.setStage i none, woken := r.woken.filter (· ≠ i) }

/-- A task that was tried waits. -/
def suspended (r : Room ι τ σ) (i : ι) : Room ι τ σ := { r with signal := r.signal.joined i }

/-- A task that was tried is finished. -/
def finished (r : Room ι τ σ) (i : ι) (state : σ) : Room ι τ σ :=
  { r with signal := r.signal.spent, state, tasks := r.tasks.filter (·.1 ≠ i) }

/-- A task is gone with its registration and its wake. -/
def removed (r : Room ι τ σ) (i : ι) : Room ι τ σ :=
  { r with
    signal := r.signal.without i
    tasks := r.tasks.filter (·.1 ≠ i)
    woken := r.woken.filter (· ≠ i) }

/-- What trying a task without a registration comes to, for a task that takes from a stock. -/
inductive Tried (attempt : Signal.Attempt σ ε α) (stock : σ → Nat) (r : Room ι τ σ) (i : ι) :
    Signal.Polled ε α → Room ι τ σ → Prop
  | found {a : α} {state : σ} (hattempt : attempt r.state = (.ok (some a), state))
      (hstock : stock r.state = stock state + 1) : Tried attempt stock r i (.ready a) (r.finished i state)
  | nothing (hstock : stock r.state = 0) : Tried attempt stock r i .pending (r.suspended i)

/-- A poll of a task without a registration is a try at the stock, whatever is stored at the signal. -/
theorem tried_after {r : Room ι τ σ} {i : ι} (hfree : r.signal.Free i) {attempt : Signal.Attempt σ ε α}
    {stock : σ → Nat} (hd : attempt.Draws stock) :
    Tried attempt stock r i (r.signal.turns attempt i r.state).result
      (r.after i (r.signal.turns attempt i r.state)) := by
  rcases hfree.turns_of_draws hd r.state with ⟨hstock, tries, hturns⟩ | ⟨a, state, hattempt, hstock, hturns⟩
  · rw [hturns]
    exact .nothing hstock
  · rw [hturns]
    exact .found hattempt hstock

/-! ## Tasks and registrations -/

/-- Tasks, registrations and the list of the woken belong together. A task that is being polled has no registration. -/
structure Coherent (r : Room ι τ σ) (running : Option ι) : Prop where
  sound : r.signal.Sound
  nodup_waiting : r.waiting.Nodup
  nodup_woken : r.woken.Nodup
  mem_waiting : ∀ i, i ∈ r.waiting ↔ r.signal.stage i ≠ none ∨ running = some i
  mem_woken : ∀ i, i ∈ r.woken ↔ ∃ by_, r.signal.stage i = some (.picked by_)
  free : ∀ i, running = some i → r.signal.stage i = none

omit [DecidableEq ι] in
/-- An empty room is coherent: there are neither tasks nor registrations. -/
theorem coherent_new (state : σ) : (new state : Room ι τ σ).Coherent none where
  sound := Signal.sound_new
  nodup_waiting := List.nodup_nil
  nodup_woken := List.nodup_nil
  mem_waiting i := by simp [new, waiting, Signal.new]
  mem_woken i := by simp [new, Signal.new]
  free i h := by cases h

omit [DecidableEq ι] in
/-- The state plays no part in it. -/
theorem Coherent.setState {r : Room ι τ σ} {running : Option ι} (h : r.Coherent running) (state : σ) :
    ({ r with state } : Room ι τ σ).Coherent running :=
  ⟨h.sound, h.nodup_waiting, h.nodup_woken, h.mem_waiting, h.mem_woken, h.free⟩

omit [DecidableEq ι] in
/-- A task that is not woken waits in the queue. -/
theorem Coherent.mem_queue {r : Room ι τ σ} (h : r.Coherent none) {i : ι} (hwaiting : i ∈ r.waiting)
    (hwoken : i ∉ r.woken) : i ∈ r.signal.queue := by
  rw [h.mem_waiting, or_iff_left (by simp)] at hwaiting
  obtain ⟨g, hg⟩ := Option.ne_none_iff_exists'.mp hwaiting
  rcases h.sound.stages i g hg with rfl | ⟨by_, rfl⟩
  · exact (h.sound.mem_queue i).mpr hg
  · exact absurd ((h.mem_woken i).mpr ⟨by_, hg⟩) hwoken

omit [DecidableEq ι] in
/-- Whoever is on the list of the woken is an unfinished task, so polling it makes sense. -/
theorem Coherent.mem_waiting_of_woken {r : Room ι τ σ} (h : r.Coherent none) {i : ι} (hwoken : i ∈ r.woken) :
    i ∈ r.waiting := by
  obtain ⟨by_, hstage⟩ := (h.mem_woken i).mp hwoken
  rw [h.mem_waiting, hstage]
  exact .inl (by simp)

/-- The names of the tasks that are left when one goes. -/
theorem waiting_filter (tasks : List (ι × τ)) (i : ι) :
    (tasks.filter (·.1 ≠ i)).map (·.1) = (tasks.map (·.1)).filter (· ≠ i) := by
  rw [List.filter_map]
  rfl

/-- They are still no two alike. -/
theorem Coherent.nodup_waiting_filter {r : Room ι τ σ} {running : Option ι} (h : r.Coherent running) (i : ι) :
    ((r.tasks.filter (·.1 ≠ i)).map (·.1)).Nodup := by
  rw [waiting_filter]
  exact h.nodup_waiting.filter _

/-- Whoever loses the registration goes off the list of the woken. -/
theorem Coherent.mem_woken_filter {r : Room ι τ σ} {running : Option ι} (h : r.Coherent running) (i j : ι) :
    j ∈ r.woken.filter (· ≠ i) ↔ ∃ by_, (r.signal.setStage i none).stage j = some (.picked by_) := by
  rw [List.mem_filter, decide_eq_true_eq]
  by_cases hj : j = i
  · rw [hj, Signal.setStage_self]
    exact iff_of_false (fun hmem => hmem.2 rfl) (by simp)
  · rw [Signal.setStage_of_ne _ hj, h.mem_woken, and_iff_left hj]

omit [DecidableEq ι] in
/-- A task that has come is running: it has a name, and no registration yet. -/
theorem Coherent.opened {r : Room ι τ σ} (h : r.Coherent none) {i : ι} (hnew : i ∉ r.waiting) (t : τ) :
    (r.opened i t).Coherent (some i) where
  sound := h.sound
  nodup_waiting := by
    show ((r.tasks ++ [(i, t)]).map (·.1)).Nodup
    rw [List.map_append]
    exact nodup_append_singleton h.nodup_waiting hnew
  nodup_woken := h.nodup_woken
  mem_waiting j := by
    show j ∈ (r.tasks ++ [(i, t)]).map (·.1) ↔ _
    rw [List.map_append, List.mem_append, ← waiting, h.mem_waiting]
    simp [Room.opened, eq_comm]
  mem_woken := h.mem_woken
  -- A task that is new here has no stage, or it would be among those that wait.
  free j hj := by
    obtain rfl := Option.some.inj hj
    rw [h.mem_waiting, not_or, Classical.not_not] at hnew
    exact hnew.1

/-- A task that was picked and is polled is running: its wake and its registration are used up. -/
theorem Coherent.roused {r : Room ι τ σ} (h : r.Coherent none) {i : ι} (hwoken : i ∈ r.woken) :
    (r.roused i).Coherent (some i) := by
  obtain ⟨by_, hstage⟩ := (h.mem_woken i).mp hwoken
  -- Whoever was picked is out of the line already, so leaving it there changes nothing.
  have hsound := h.sound.without i
  rw [Signal.without_of_not_mem (h.sound.not_mem_of_picked hstage)] at hsound
  refine ⟨hsound, h.nodup_waiting, h.nodup_woken.filter _, fun j => ?_, fun j => ?_, fun j hj => ?_⟩
  · show j ∈ r.waiting ↔ (r.signal.setStage i none).stage j ≠ none ∨ _
    by_cases hj : j = i
    · rw [hj]
      exact iff_of_true (h.mem_waiting_of_woken hwoken) (.inr rfl)
    · rw [Signal.setStage_of_ne _ hj, h.mem_waiting]
      simp [Ne.symm hj]
  · exact h.mem_woken_filter i j
  · obtain rfl := Option.some.inj hj
    exact Signal.setStage_self _ _ _

/-- A task that is finished leaves no registration. -/
theorem Coherent.finished {r : Room ι τ σ} {i : ι} (h : r.Coherent (some i)) (state : σ) :
    (r.finished i state).Coherent none := by
  have hfree := h.free i rfl
  refine ⟨h.sound.spent, h.nodup_waiting_filter i, h.nodup_woken, fun j => ?_, h.mem_woken, fun j hj => by cases hj⟩
  show j ∈ (r.tasks.filter _).map (·.1) ↔ r.signal.stage j ≠ none ∨ _
  rw [waiting_filter, List.mem_filter, decide_eq_true_eq, ← waiting, h.mem_waiting]
  by_cases hj : j = i
  · rw [hj, hfree]
    simp
  · simp [hj, Ne.symm hj]

/-- A task that goes on waiting has a registration again. -/
theorem Coherent.suspended {r : Room ι τ σ} {i : ι} (h : r.Coherent (some i)) : (r.suspended i).Coherent none := by
  have hfree := h.free i rfl
  refine ⟨h.sound.joined hfree, h.nodup_waiting, h.nodup_woken, fun j => ?_, fun j => ?_, fun j hj => by cases hj⟩
  · show j ∈ r.waiting ↔ (r.signal.setStage i _).stage j ≠ none ∨ _
    rw [h.mem_waiting]
    -- The stage of the task itself is the one that changes.
    by_cases hj : j = i
    · rw [hj, Signal.setStage_self]
      simp
    · rw [Signal.setStage_of_ne _ hj]
      simp [Ne.symm hj]
  · show j ∈ r.woken ↔ ∃ by_, (r.signal.setStage i _).stage j = _
    rw [h.mem_woken]
    by_cases hj : j = i
    · rw [hj, Signal.setStage_self, hfree]
      simp
    · rw [Signal.setStage_of_ne _ hj]

/-- However a try ends, afterwards nobody is running. -/
theorem Tried.coherent {attempt : Signal.Attempt σ ε α} {stock : σ → Nat} {r r' : Room ι τ σ} {i : ι}
    {p : Signal.Polled ε α} (ht : Tried attempt stock r i p r') (h : r.Coherent (some i)) : r'.Coherent none := by
  cases ht with
  | @found a state => exact h.finished state
  | nothing => exact h.suspended

/-! ## Operations -/

/-- A task enters under a new name, and is polled without a registration. -/
theorem enter_turns {attempt : τ → Signal.Attempt σ ε α} {r r' : Room ι τ σ} (h : r.Coherent none) {i : ι} {t : τ}
    {p : Signal.Polled ε α} (henter : r.enter attempt i t = some (p, r')) :
    i ∉ r.waiting ∧ (r.opened i t).signal.Free i ∧
      p = (r.signal.turns (attempt t) i r.state).result ∧
      r' = (r.opened i t).after i (r.signal.turns (attempt t) i r.state) := by
  unfold enter at henter
  by_cases hmem : (r.tasks.lookup i).isSome
  · rw [if_pos hmem] at henter
    cases henter
  · rw [if_neg hmem] at henter
    have hnew : i ∉ r.waiting := fun hwaiting => hmem (isSome_lookup_iff.mpr hwaiting)
    have hrunning := h.opened hnew t
    obtain ⟨rfl, rfl⟩ := Prod.mk.inj (Option.some.inj henter)
    exact ⟨hnew, hrunning.sound.free (hrunning.free i rfl), rfl, rfl⟩

/-- A poll changes nothing unless the task was woken; then the task begins anew without a registration. -/
theorem poll_turns {attempt : τ → Signal.Attempt σ ε α} {r r' : Room ι τ σ} (h : r.Coherent none) {i : ι}
    {p : Signal.Polled ε α} (hpoll : r.poll attempt i = some (p, r')) :
    (i ∉ r.woken ∧ p = .pending ∧ r' = r) ∨
      (i ∈ r.woken ∧ (r.roused i).signal.Free i ∧ ∃ t, r.tasks.lookup i = some t ∧
        p = ((r.roused i).signal.turns (attempt t) i r.state).result ∧
        r' = (r.roused i).after i ((r.roused i).signal.turns (attempt t) i r.state)) := by
  unfold poll at hpoll
  obtain ⟨t, ht, hp⟩ := Option.map_eq_some_iff.mp hpoll
  obtain ⟨rfl, rfl⟩ := Prod.mk.inj hp
  have hwaiting : i ∈ r.waiting := isSome_lookup_iff.mp (by rw [ht]; rfl)
  by_cases hwoken : i ∈ r.woken
  · obtain ⟨by_, hstage⟩ := (h.mem_woken i).mp hwoken
    have hrunning := h.roused hwoken
    rw [Signal.resume_of_picked hstage (h.sound.not_mem_of_picked hstage)]
    exact .inr ⟨hwoken, hrunning.sound.free (hrunning.free i rfl), t, ht, rfl, rfl⟩
  -- A task that nobody woke is still in the line, and looking at it again leaves it there.
  · have hstage := (h.sound.mem_queue i).mp (h.mem_queue hwaiting hwoken)
    rw [Signal.resume_of_suspended hstage, filter_ne_of_not_mem hwoken]
    exact .inl ⟨hwoken, rfl, rfl⟩

/-- A task enters under a new name, and is tried. -/
theorem enter_cases {attempt : τ → Signal.Attempt σ ε α} {stock : σ → Nat} (hd : ∀ t, (attempt t).Draws stock)
    {r r' : Room ι τ σ} (h : r.Coherent none) {i : ι} {t : τ} {p : Signal.Polled ε α}
    (henter : r.enter attempt i t = some (p, r')) :
    i ∉ r.waiting ∧ Tried (attempt t) stock (r.opened i t) i p r' := by
  obtain ⟨hnew, hfree, rfl, rfl⟩ := enter_turns h henter
  exact ⟨hnew, tried_after hfree (hd t)⟩

/-- Every poll changes nothing, or it is a try of a task that was woken. -/
theorem poll_cases {attempt : τ → Signal.Attempt σ ε α} {stock : σ → Nat} (hd : ∀ t, (attempt t).Draws stock)
    {r r' : Room ι τ σ} (h : r.Coherent none) {i : ι} {p : Signal.Polled ε α}
    (hpoll : r.poll attempt i = some (p, r')) :
    (i ∉ r.woken ∧ p = .pending ∧ r' = r) ∨ (i ∈ r.woken ∧ ∃ t, Tried (attempt t) stock (r.roused i) i p r') := by
  rcases poll_turns h hpoll with hsame | ⟨hwoken, hfree, t, -, rfl, rfl⟩
  · exact .inl hsame
  · exact .inr ⟨hwoken, t, tried_after hfree (hd t)⟩

omit [DecidableEq ι] in
/-- Whoever is in the queue has not been woken, so a wake puts nobody on the list twice. -/
theorem Coherent.not_mem_woken {r : Room ι τ σ} {running : Option ι} (h : r.Coherent running) {i : ι}
    (hmem : i ∈ r.signal.queue) : i ∉ r.woken := by
  rw [h.mem_woken, (h.sound.mem_queue i).mp hmem]
  simp

/-- With nobody in the queue a wake is stored, and nobody is put on the list. -/
theorem wakeOne_of_nil {r : Room ι τ σ} (hq : r.signal.queue = []) :
    r.wakeOne = { r with signal := { r.signal with permit := true } } := by
  rw [wakeOne, Signal.wakeOne_of_nil hq]
  rfl

/-- A wake puts the task that has waited longest on the list. -/
theorem Coherent.wakeOne_of_cons {r : Room ι τ σ} {running : Option ι} (h : r.Coherent running) {i : ι}
    {rest : List ι} (hq : r.signal.queue = i :: rest) :
    r.wakeOne = { r with signal := r.signal.pickedFirst i rest, woken := r.woken ++ [i] } := by
  have hnot := h.not_mem_woken (hq ▸ List.mem_cons_self : i ∈ r.signal.queue)
  rw [Room.wakeOne, h.sound.wakeOne_of_cons hq]
  simp only [wake, List.foldl_cons, List.foldl_nil, if_neg hnot]

/-- A wake moves one task from the queue to the list of the woken. -/
theorem Coherent.wakeOne {r : Room ι τ σ} {running : Option ι} (h : r.Coherent running) :
    r.wakeOne.Coherent running := by
  have hsound := h.sound.wakeOne
  cases hq : r.signal.queue with
  | nil =>
    rw [Signal.wakeOne_of_nil hq] at hsound
    rw [wakeOne_of_nil hq]
    exact ⟨hsound, h.nodup_waiting, h.nodup_woken, h.mem_waiting, h.mem_woken, h.free⟩
  | cons i rest =>
    rw [h.sound.wakeOne_of_cons hq] at hsound
    rw [h.wakeOne_of_cons hq]
    -- The one woken leaves the queue for the list, and is picked.
    have hmem : i ∈ r.signal.queue := hq ▸ List.mem_cons_self
    have hstage := (h.sound.mem_queue i).mp hmem
    have hnot := h.not_mem_woken hmem
    refine ⟨hsound, h.nodup_waiting, nodup_append_singleton h.nodup_woken hnot, fun j => ?_, fun j => ?_,
      fun j hj => ?_⟩
    · show j ∈ r.waiting ↔ (r.signal.setStage i _).stage j ≠ none ∨ _
      rw [h.mem_waiting]
      by_cases hj : j = i
      · rw [hj, Signal.setStage_self, hstage]
        simp
      · rw [Signal.setStage_of_ne _ hj]
    · show j ∈ r.woken ++ [i] ↔ ∃ by_, (r.signal.setStage i _).stage j = _
      rw [List.mem_append, List.mem_singleton, h.mem_woken]
      by_cases hj : j = i
      · rw [hj, Signal.setStage_self]
        exact iff_of_true (.inr rfl) ⟨.single, rfl⟩
      · rw [Signal.setStage_of_ne _ hj, or_iff_left hj]
    · show (r.signal.setStage i _).stage j = none
      have hfree := h.free j hj
      have hne : j ≠ i := by
        rintro rfl
        rw [hstage] at hfree
        cases hfree
      rw [Signal.setStage_of_ne _ hne, hfree]

/-- A task that is gone has taken its registration and its wake with it. -/
theorem Coherent.removed {r : Room ι τ σ} (h : r.Coherent none) (i : ι) : (r.removed i).Coherent none where
  sound := h.sound.without i
  nodup_waiting := h.nodup_waiting_filter i
  nodup_woken := h.nodup_woken.filter _
  mem_waiting j := by
    show j ∈ (r.tasks.filter _).map (·.1) ↔ (r.signal.setStage i none).stage j ≠ none ∨ _
    rw [waiting_filter, List.mem_filter, decide_eq_true_eq, ← waiting, h.mem_waiting]
    by_cases hj : j = i
    · rw [hj, Signal.setStage_self]
      simp
    · rw [Signal.setStage_of_ne _ hj, and_iff_left hj]
  mem_woken j := h.mem_woken_filter i j
  free j hj := by cases hj

/-- A task that is given up is gone, and passes on a single wake that it had not seen. -/
theorem Coherent.cancel_eq {r : Room ι τ σ} (h : r.Coherent none) (i : ι) :
    r.cancel i =
      if i ∈ r.waiting then
        (true, if r.signal.stage i = some (.picked .single) then (r.removed i).wakeOne else r.removed i)
      else (false, r) := by
  unfold cancel
  by_cases hwaiting : i ∈ r.waiting
  · rw [if_pos (isSome_lookup_iff.mpr hwaiting), if_pos hwaiting, Signal.leave_eq]
    by_cases hpicked : r.signal.stage i = some (.picked .single)
    · rw [if_pos hpicked, if_pos hpicked]
      cases hq : (r.signal.without i).queue with
      | nil =>
        rw [Signal.wakeOne_of_nil hq, wakeOne_of_nil hq]
        rfl
      | cons j rest =>
        have hj : j ∈ (r.signal.without i).queue := by
          rw [hq]
          exact List.mem_cons_self
        obtain ⟨hmem, hne⟩ := List.mem_filter.mp hj
        -- The one woken is another, so it stays on the list.
        have hkept : [j].filter (· ≠ i) = [j] := List.filter_cons_of_pos hne
        rw [(h.sound.without i).wakeOne_of_cons hq, (h.removed i).wakeOne_of_cons hq]
        simp only [wake, List.foldl_cons, List.foldl_nil, if_neg (h.not_mem_woken hmem), List.filter_append, hkept]
        rfl
    · rw [if_neg hpicked, if_neg hpicked]
      rfl
  · rw [if_neg (fun hsome => hwaiting (isSome_lookup_iff.mp hsome)), if_neg hwaiting]

/-- A task that comes and is polled leaves the room coherent, finished or waiting. -/
theorem Coherent.enter {attempt : τ → Signal.Attempt σ ε α} {stock : σ → Nat} (hd : ∀ t, (attempt t).Draws stock)
    {r r' : Room ι τ σ} (h : r.Coherent none) {i : ι} {t : τ} {p : Signal.Polled ε α}
    (henter : r.enter attempt i t = some (p, r')) : r'.Coherent none := by
  obtain ⟨hnew, htried⟩ := enter_cases hd h henter
  exact htried.coherent (h.opened hnew t)

/-- So does one that is polled again. -/
theorem Coherent.poll {attempt : τ → Signal.Attempt σ ε α} {stock : σ → Nat} (hd : ∀ t, (attempt t).Draws stock)
    {r r' : Room ι τ σ} (h : r.Coherent none) {i : ι} {p : Signal.Polled ε α}
    (hpoll : r.poll attempt i = some (p, r')) : r'.Coherent none := by
  rcases poll_cases hd h hpoll with ⟨-, -, rfl⟩ | ⟨hwoken, t, htried⟩
  · exact h
  · exact htried.coherent (h.roused hwoken)

/-- And so does giving one up, wherever its wake goes. -/
theorem Coherent.cancel {r : Room ι τ σ} (h : r.Coherent none) (i : ι) : (r.cancel i).2.Coherent none := by
  rw [h.cancel_eq]
  split
  · split
    · exact (h.removed i).wakeOne
    · exact h.removed i
  · exact h

/-- To give a task up takes nothing away and adds nothing. -/
theorem Coherent.state_cancel {r : Room ι τ σ} (h : r.Coherent none) (i : ι) : (r.cancel i).2.state = r.state := by
  rw [h.cancel_eq]
  split
  · split
    · rfl
    · rfl
  · rfl

/-! ## Waking all -/

/-- Names that are on no list yet are put on it in their order. -/
theorem wake_eq_append (r : Room ι τ σ) {ids : List ι} (hnodup : ids.Nodup) (hnew : ∀ i ∈ ids, i ∉ r.woken) :
    r.wake ids = { r with woken := r.woken ++ ids } := by
  induction ids generalizing r with
  | nil =>
    rw [List.append_nil]
    rfl
  | cons i ids ih =>
    obtain ⟨hi, hnodup⟩ := List.nodup_cons.mp hnodup
    -- Each task is put behind those that are to be polled already, unless it is one of them.
    have hput : r.wake (i :: ids) = ({ r with woken := r.woken ++ [i] } : Room ι τ σ).wake ids := by
      rw [wake, List.foldl_cons, if_neg (hnew i List.mem_cons_self)]
      rfl
    rw [hput, ih _ hnodup]
    · show ({ r with woken := r.woken ++ [i] ++ ids } : Room ι τ σ) = _
      rw [List.append_assoc, List.singleton_append]
    · intro j hj hmem
      rcases List.mem_append.mp hmem with hbefore | hsame
      · exact hnew j (List.mem_cons_of_mem i hj) hbefore
      · obtain rfl := List.mem_singleton.mp hsame
        exact hi hj

/-- A wake of all puts everybody in the queue on the list. -/
theorem Coherent.wakeAll_eq {r : Room ι τ σ} {running : Option ι} (h : r.Coherent running) :
    r.wakeAll = { r with signal := r.signal.pickedAll, woken := r.woken ++ r.signal.queue } := by
  rw [Room.wakeAll, h.sound.wakeAll_eq]
  exact wake_eq_append { r with signal := r.signal.pickedAll } h.sound.nodup fun i hi => h.not_mem_woken hi

/-- A wake of all moves everybody from the queue to the list. -/
theorem Coherent.wakeAll {r : Room ι τ σ} {running : Option ι} (h : r.Coherent running) :
    r.wakeAll.Coherent running := by
  rw [h.wakeAll_eq]
  have hnodup : (r.woken ++ r.signal.queue).Nodup := by
    rw [List.nodup_append]
    refine ⟨h.nodup_woken, h.sound.nodup, fun i hi j hj => ?_⟩
    rintro rfl
    exact h.not_mem_woken hj hi
  refine ⟨h.sound.pickedAll, h.nodup_waiting, hnodup, fun j => ?_, fun j => ?_, fun j hj => ?_⟩
  · show j ∈ r.waiting ↔ (if j ∈ r.signal.queue then _ else r.signal.stage j) ≠ none ∨ _
    rw [h.mem_waiting]
    by_cases hj : j ∈ r.signal.queue
    · rw [if_pos hj, (h.sound.mem_queue j).mp hj]
      simp
    · rw [if_neg hj]
  · show j ∈ r.woken ++ r.signal.queue ↔ ∃ by_, (if j ∈ r.signal.queue then _ else r.signal.stage j) = _
    rw [List.mem_append]
    by_cases hj : j ∈ r.signal.queue
    · rw [if_pos hj]
      exact iff_of_true (.inr hj) ⟨.all, rfl⟩
    · rw [if_neg hj, or_iff_left hj, h.mem_woken]
  · show (if j ∈ r.signal.queue then _ else r.signal.stage j) = none
    have hfree := h.free j hj
    -- Whoever runs has no registration, so is not in the queue.
    rw [if_neg (fun hmem => by rw [(h.sound.mem_queue j).mp hmem] at hfree; cases hfree), hfree]

/-! ## Enough wakes -/

/-- While anybody waits in the queue there are at least so many tasks woken and not yet polled. All picks were single,
so each of them is passed on if it is not seen. -/
structure Answers (r : Room ι τ σ) (n : Nat) : Prop where
  single : ∀ i, r.signal.stage i ≠ some (.picked .all)
  enough : r.signal.queue ≠ [] → n ≤ r.woken.length

omit [DecidableEq ι] in
/-- In an empty room nobody waits, so nobody has to answer for anything. -/
theorem answers_new (state : σ) (n : Nat) : (new state : Room ι τ σ).Answers n where
  single i := by simp [new, Signal.new]
  enough h := absurd rfl h

omit [DecidableEq ι] in
/-- For less there is enough too. -/
theorem Answers.of_le {r : Room ι τ σ} {m n : Nat} (h : r.Answers n) (hle : m ≤ n) : r.Answers m :=
  ⟨h.single, fun hq => Nat.le_trans hle (h.enough hq)⟩

/-- No change of one registration but a wake of all makes it one that all were picked by. -/
theorem single_setStage {s : Signal ι} (h : ∀ j, s.stage j ≠ some (.picked .all)) (i : ι)
    {g : Option Stage} (hg : g ≠ some (.picked .all)) (j : ι) : (s.setStage i g).stage j ≠ some (.picked .all) := by
  by_cases hj : j = i
  · rwa [hj, Signal.setStage_self]
  · rw [Signal.setStage_of_ne _ hj]
    exact h j

/-- A wake makes up for one more. -/
theorem Answers.wakeOne {r : Room ι τ σ} {running : Option ι} {n : Nat} (h : r.Answers n)
    (hr : r.Coherent running) : r.wakeOne.Answers (n + 1) := by
  cases hq : r.signal.queue with
  | nil =>
    rw [wakeOne_of_nil hq]
    exact ⟨h.single, fun hne => absurd hq hne⟩
  | cons i rest =>
    rw [hr.wakeOne_of_cons hq]
    refine ⟨single_setStage h.single i (by simp), fun _ => ?_⟩
    have henough := h.enough (by rw [hq]; simp)
    show n + 1 ≤ (r.woken ++ [i]).length
    rw [List.length_append, List.length_singleton]
    omega

/-- Whoever goes off a list on which it stands once makes it shorter by one. -/
theorem length_filter_ne {l : List ι} (h : l.Nodup) {i : ι} (hi : i ∈ l) :
    (l.filter (· ≠ i)).length + 1 = l.length := by
  have hpos := List.length_pos_of_mem hi
  rw [filter_ne_eq_erase h, List.length_erase_of_mem hi]
  omega

/-- A task that was woken and is polled takes away one wake. -/
theorem Answers.roused {r : Room ι τ σ} {n : Nat} (h : r.Answers n) (hr : r.Coherent none) {i : ι}
    (hwoken : i ∈ r.woken) : (r.roused i).Answers (n - 1) where
  single := single_setStage h.single i (by simp)
  enough hq := by
    have henough := h.enough hq
    have hlen := length_filter_ne hr.nodup_woken hwoken
    show n - 1 ≤ (r.woken.filter _).length
    omega

/-- Whoever finds something takes it away, and whoever finds nothing has left nothing to be woken for. -/
theorem Tried.answers {attempt : Signal.Attempt σ ε α} {stock : σ → Nat} {r r' : Room ι τ σ} {i : ι}
    {p : Signal.Polled ε α} (ht : Tried attempt stock r i p r') (h : r.Answers (stock r.state - 1)) :
    r'.Answers (stock r'.state) := by
  cases ht with
  | @found a state hattempt hstock =>
    rw [hstock, Nat.add_sub_cancel] at h
    exact ⟨h.single, h.enough⟩
  | nothing hstock =>
    refine ⟨single_setStage h.single i (by simp), fun _ => ?_⟩
    show stock r.state ≤ _
    rw [hstock]
    exact Nat.zero_le _

/-- A newcomer takes one of the stock without a wake, or finds that there is none: either way enough are woken. -/
theorem Answers.enter {attempt : τ → Signal.Attempt σ ε α} {stock : σ → Nat} (hd : ∀ t, (attempt t).Draws stock)
    {r r' : Room ι τ σ} (h : r.Answers (stock r.state)) (hr : r.Coherent none) {i : ι} {t : τ}
    {p : Signal.Polled ε α} (henter : r.enter attempt i t = some (p, r')) : r'.Answers (stock r'.state) := by
  obtain ⟨-, htried⟩ := enter_cases hd hr henter
  have hopened : (r.opened i t).Answers (stock r.state) := ⟨h.single, h.enough⟩
  exact htried.answers (hopened.of_le (Nat.sub_le _ _))

/-- A woken task takes one for its wake, or finds that there is none. -/
theorem Answers.poll {attempt : τ → Signal.Attempt σ ε α} {stock : σ → Nat} (hd : ∀ t, (attempt t).Draws stock)
    {r r' : Room ι τ σ} (h : r.Answers (stock r.state)) (hr : r.Coherent none) {i : ι} {p : Signal.Polled ε α}
    (hpoll : r.poll attempt i = some (p, r')) : r'.Answers (stock r'.state) := by
  rcases poll_cases hd hr hpoll with ⟨-, -, rfl⟩ | ⟨hwoken, t, htried⟩
  · exact h
  · exact htried.answers (h.roused hr hwoken)

/-- A task that is given up passes its wake on, so as many answer as before. -/
theorem Answers.cancel {r : Room ι τ σ} {n : Nat} (h : r.Answers n) (hr : r.Coherent none) (i : ι) :
    (r.cancel i).2.Answers n := by
  rw [hr.cancel_eq]
  by_cases hwaiting : i ∈ r.waiting
  · rw [if_pos hwaiting]
    have hsingle := single_setStage h.single i (g := none) (by simp)
    -- Whoever waits after the task is gone has waited before.
    have hqueue : (r.removed i).signal.queue ≠ [] → r.signal.queue ≠ [] := by
      intro hne hnil
      exact hne (by show r.signal.queue.filter _ = []; rw [hnil, List.filter_nil])
    by_cases hwoken : i ∈ r.woken
    · have hlen := length_filter_ne hr.nodup_woken hwoken
      have hremoved : (r.removed i).Answers (n - 1) := by
        refine ⟨hsingle, fun hne => ?_⟩
        have henough := h.enough (hqueue hne)
        show n - 1 ≤ (r.woken.filter _).length
        omega
      -- The wake that goes with it is passed on.
      have hpicked : r.signal.stage i = some (.picked .single) := by
        obtain ⟨by_, hstage⟩ := (hr.mem_woken i).mp hwoken
        cases by_ with
        | single => exact hstage
        | all => exact absurd hstage (h.single i)
      rw [if_pos hpicked]
      exact (hremoved.wakeOne (hr.removed i)).of_le (by omega)
    · have hpicked : r.signal.stage i ≠ some (.picked .single) :=
        fun hstage => hwoken ((hr.mem_woken i).mpr ⟨.single, hstage⟩)
      rw [if_neg hpicked]
      refine ⟨hsingle, fun hne => ?_⟩
      show n ≤ (r.woken.filter _).length
      rw [filter_ne_of_not_mem hwoken]
      exact h.enough (hqueue hne)
  · rw [if_neg hwaiting]
    exact h

/-- **No wake is lost.** If a task waits that was not woken, there are at least as many others woken and not yet polled
as there is stock. -/
theorem Answers.le_of_not_woken {r : Room ι τ σ} {n : Nat} (h : r.Answers n) (hr : r.Coherent none) {i : ι}
    (hwaiting : i ∈ r.waiting) (hwoken : i ∉ r.woken) : n ≤ (r.waiting.filter (· ∈ r.woken)).length := by
  have hmem := hr.mem_queue hwaiting hwoken
  have henough := h.enough (List.ne_nil_of_mem hmem)
  refine Nat.le_trans henough ?_
  -- Every name on the list is that of a task.
  refine (List.subperm_of_subset hr.nodup_woken fun j hj => ?_).length_le
  rw [List.mem_filter, decide_eq_true_eq]
  exact ⟨hr.mem_waiting_of_woken hj, hj⟩

/-- Once everybody who was woken has been polled, tasks wait only for an empty stock. -/
theorem Answers.eq_zero_of_not_woken {r : Room ι τ σ} {n : Nat} (h : r.Answers n) (hr : r.Coherent none)
    (hnone : ∀ i ∈ r.waiting, i ∉ r.woken) (hne : r.waiting ≠ []) : n = 0 := by
  obtain ⟨i, hi⟩ := List.exists_mem_of_ne_nil _ hne
  have hle := h.le_of_not_woken hr hi (hnone i hi)
  have hfilter : r.waiting.filter (· ∈ r.woken) = [] := by
    rw [List.filter_eq_nil_iff]
    intro j hj
    rw [decide_eq_true_eq]
    exact hnone j hj
  rw [hfilter, List.length_nil, Nat.le_zero] at hle
  exact hle

end Room

end HttpService.Wait
