import HttpService.Proofs.Wait.Turns

/-!
# What is done at a signal

Who holds a registration is only one of many at a signal: others register, look, leave and wake in any order, and not
all of them are tasks. What they do is a list of deeds, each of them one operation of the signal.

* `Signal.Regular` — the queue holds those who wait, once each. Every deed keeps this (`Regular.run`), whatever has been
  done before.
* `Signal.Regular.stage_run` — a deed of others leaves a registration as it is, or picks it while it waits.
* `Signal.Deed.Quiet.kept` — deeds that wake nobody leave a registration of others alone, and store no wake.
* `Signal.Stored.run` — whatever is done, a wake is stored only while nobody waits.
-/

namespace HttpService.Wait.Signal

variable {ι : Type} [DecidableEq ι]

/-- One thing that is done at a signal. -/
inductive Deed (ι : Type) where
  | wakeOne
  | wakeAll
  | arm (i : ι)
  | look (suspend : Bool) (i : ι)
  | leave (i : ι)
deriving DecidableEq

namespace Deed

/-- The signal after a deed. -/
def run (s : Signal ι) : Deed ι → Signal ι
  | wakeOne => s.wakeOne.1
  | wakeAll => s.wakeAll.1
  | arm i => (s.arm i).1
  | look suspend i => (s.look suspend i).2
  | leave i => (s.leave i).1

/-- The signal after some deeds. -/
def runAll (s : Signal ι) (ds : List (Deed ι)) : Signal ι := ds.foldl run s

/-- Deeds one after the other may be cut anywhere. -/
theorem runAll_append (s : Signal ι) (ds ds' : List (Deed ι)) : runAll s (ds ++ ds') = runAll (runAll s ds) ds' :=
  List.foldl_append

/-- The deed is not done with this registration. -/
def Spares (i : ι) : Deed ι → Prop
  | wakeOne | wakeAll => True
  | arm j | look _ j | leave j => j ≠ i

/-- The deed wakes somebody, or stores a wake if nobody waits. -/
def Wakes (s : Signal ι) : Deed ι → Prop
  | wakeOne | wakeAll => True
  | look .. => False
  -- Giving a registration up passes on the wake that has picked it.
  | arm i | leave i => s.stage i = some (.picked .single)

/-- None of the deeds wakes anybody at the time when it is done. -/
def Quiet (s : Signal ι) : List (Deed ι) → Prop
  | [] => True
  | d :: ds => ¬ d.Wakes s ∧ Quiet (d.run s) ds

end Deed

/-! ## Registrations in any order -/

/-- The queue holds those who wait, once each. -/
structure Regular (s : Signal ι) : Prop where
  nodup : s.queue.Nodup
  mem_queue : ∀ i, i ∈ s.queue ↔ ∃ suspended, s.stage i = some (.waiting suspended)

omit [DecidableEq ι] in
/-- Nobody waits at first. -/
theorem regular_new : (new : Signal ι).Regular where
  nodup := List.nodup_nil
  mem_queue i := by simp [new]

/-- Whom a single wake picks does not depend on whether its owner sleeps already. -/
theorem wakeOne_of_cons {s : Signal ι} {i : ι} {rest : List ι} (hq : s.queue = i :: rest) :
    s.wakeOne.1 = s.pickedFirst i rest := by
  rw [wakeOne, hq]
  rfl

namespace Regular

variable {s : Signal ι} {i j : ι}

omit [DecidableEq ι] in
/-- A registration that does not wait is not in the queue. -/
theorem not_mem_queue (h : s.Regular) (hi : ∀ suspended, s.stage i ≠ some (.waiting suspended)) : i ∉ s.queue := by
  rw [h.mem_queue]
  rintro ⟨suspended, hstage⟩
  exact hi suspended hstage

omit [DecidableEq ι] in
/-- Nor is a task that has none. -/
theorem free (h : s.Regular) (hi : s.stage i = none) : s.Free i where
  stage := hi
  not_mem := h.not_mem_queue (by simp [hi])

/-- A registration that is not in the queue may come to any stage but waiting. -/
theorem setStage (h : s.Regular) (hi : i ∉ s.queue) {g : Option Stage}
    (hg : ∀ suspended, g ≠ some (.waiting suspended)) : (s.setStage i g).Regular where
  nodup := h.nodup
  mem_queue j := by
    show j ∈ s.queue ↔ _
    by_cases hj : j = i
    · rw [hj, setStage_self]
      refine iff_of_false hi ?_
      rintro ⟨suspended, hstage⟩
      exact hg suspended hstage
    · rw [setStage_of_ne s hj, h.mem_queue]

/-- One that waits may change whether its owner is to be woken. -/
theorem setWaiting (h : s.Regular) (hi : i ∈ s.queue) (suspended : Bool) :
    (s.setStage i (some (.waiting suspended))).Regular where
  nodup := h.nodup
  mem_queue j := by
    show j ∈ s.queue ↔ _
    by_cases hj : j = i
    · rw [hj, setStage_self]
      exact iff_of_true hi ⟨suspended, rfl⟩
    · rw [setStage_of_ne s hj, h.mem_queue]

/-- A registration that starts to wait comes to the end of the queue. -/
theorem queued (h : s.Regular) (hi : i ∉ s.queue) (suspended : Bool) :
    (s.queued i (.waiting suspended)).Regular where
  nodup := nodup_append_singleton h.nodup hi
  mem_queue j := by
    show j ∈ s.queue ++ [i] ↔ ∃ b, (s.setStage i _).stage j = _
    rw [List.mem_append, List.mem_singleton]
    by_cases hj : j = i
    · rw [hj, setStage_self]
      exact iff_of_true (.inr rfl) ⟨suspended, rfl⟩
    · rw [setStage_of_ne s hj, h.mem_queue, or_iff_left hj]

omit [DecidableEq ι] in
/-- A stored wake plays no part in the order of the queue. -/
theorem withPermit (h : s.Regular) (permit : Bool) : ({ s with permit } : Signal ι).Regular := ⟨h.nodup, h.mem_queue⟩

theorem without (h : s.Regular) (i : ι) : (s.without i).Regular where
  nodup := h.nodup.filter _
  mem_queue j := by
    show j ∈ s.queue.filter _ ↔ ∃ b, (s.setStage i none).stage j = _
    rw [List.mem_filter, decide_eq_true_eq]
    by_cases hj : j = i
    · rw [hj, setStage_self]
      exact iff_of_false (fun hmem => hmem.2 rfl) (by simp)
    · rw [setStage_of_ne s hj, h.mem_queue, and_iff_left hj]

/-- Whoever is first in the queue may leave it. -/
theorem pickedFirst (h : s.Regular) {rest : List ι} (hq : s.queue = i :: rest) : (s.pickedFirst i rest).Regular := by
  have hnodup := h.nodup
  rw [hq, List.nodup_cons] at hnodup
  refine ⟨hnodup.2, fun j => ?_⟩
  show j ∈ rest ↔ ∃ b, (s.setStage i _).stage j = _
  by_cases hj : j = i
  · rw [hj, setStage_self]
    exact iff_of_false hnodup.1 (by simp)
  · rw [setStage_of_ne s hj, ← h.mem_queue, hq, List.mem_cons, or_iff_right hj]

/-- A single wake takes the first out of the queue, or nobody. -/
theorem wakeOne (h : s.Regular) : s.wakeOne.1.Regular := by
  cases hq : s.queue with
  | nil =>
    rw [wakeOne_of_nil hq]
    exact h.withPermit true
  | cons i rest =>
    rw [wakeOne_of_cons hq]
    exact h.pickedFirst hq

/-- A wake of all leaves an empty queue, and nobody who still waits. -/
theorem wakeAll (h : s.Regular) : s.wakeAll.1.Regular where
  nodup := List.nodup_nil
  mem_queue j := by
    show j ∈ [] ↔ ∃ b, (if j ∈ s.queue then some (.picked .all) else s.stage j) = _
    refine iff_of_false List.not_mem_nil ?_
    rintro ⟨b, hb⟩
    by_cases hj : j ∈ s.queue
    · rw [if_pos hj] at hb
      cases hb
    · rw [if_neg hj] at hb
      exact hj ((h.mem_queue j).mpr ⟨b, hb⟩)

/-- Giving a registration up may pick another one, which is a wake like any other. -/
theorem leave (h : s.Regular) (i : ι) : (s.leave i).1.Regular := by
  rw [leave_eq]
  split
  · exact (h.without i).wakeOne
  · exact h.without i

/-- Whoever has left has no registration, whoever was woken in its place. -/
theorem stage_leave (h : s.Regular) (i : ι) : (s.leave i).1.stage i = none := by
  have hstage : (s.without i).stage i = none := setStage_self s i none
  rw [leave_eq]
  split
  · cases hq : (s.without i).queue with
    | nil =>
      rw [wakeOne_of_nil hq]
      exact hstage
    | cons k rest =>
      -- The one that is picked waits, and so is another.
      have hk : i ≠ k := by
        rintro rfl
        obtain ⟨b, hb⟩ := ((h.without i).mem_queue i).mp (hq ▸ List.mem_cons_self)
        rw [hstage] at hb
        cases hb
      rw [wakeOne_of_cons hq]
      show ((s.without i).setStage k _).stage i = none
      rw [setStage_of_ne _ hk, hstage]
  · exact hstage

/-- To register is to give up what there was and to begin anew outside of the queue. -/
theorem arm (h : s.Regular) (i : ι) : (s.arm i).1.Regular := by
  have hleft : i ∉ (s.leave i).1.queue := ((h.leave i).free (h.stage_leave i)).not_mem
  exact (h.leave i).setStage hleft (by simp)

/-- To look is the one deed by which a registration comes into the queue, and it does so only if no wake is stored. -/
theorem look (h : s.Regular) (suspend : Bool) (i : ι) : (s.look suspend i).2.Regular := by
  unfold Signal.look
  cases hstage : s.stage i with
  | none => exact h
  | some g =>
    cases g with
    -- A task that is only armed is in no line yet: it takes a wake of everyone, or the permit, or joins.
    | armed wakes =>
      have hnot : i ∉ s.queue := h.not_mem_queue (by simp [hstage])
      simp only
      split
      · exact h.setStage hnot (by simp)
      · split
        · exact (h.setStage hnot (by simp)).withPermit false
        · exact h.queued hnot suspend
    | waiting suspended => exact h.setWaiting ((h.mem_queue i).mpr ⟨suspended, hstage⟩) _
    | picked by_ => exact h.setStage (h.not_mem_queue (by simp [hstage])) (by simp)
    | finished => exact h

/-- **Every deed keeps the queue in order.** -/
theorem run (h : s.Regular) (d : Deed ι) : (d.run s).Regular := by
  cases d with
  | wakeOne => exact h.wakeOne
  | wakeAll => exact h.wakeAll
  | arm i => exact h.arm i
  | look suspend i => exact h.look suspend i
  | leave i => exact h.leave i

theorem runAll (h : s.Regular) (ds : List (Deed ι)) : (Deed.runAll s ds).Regular := by
  induction ds generalizing s with
  | nil => exact h
  | cons d ds ih => exact ih (h.run d)

/-! ## What becomes of a registration of others -/

/-- A single wake picks one that waits and leaves every other registration alone. -/
theorem stage_wakeOne (h : s.Regular) (i : ι) :
    s.wakeOne.1.stage i = s.stage i ∨
      (∃ suspended, s.stage i = some (.waiting suspended)) ∧ ∃ by_, s.wakeOne.1.stage i = some (.picked by_) := by
  cases hq : s.queue with
  | nil =>
    rw [wakeOne_of_nil hq]
    exact .inl rfl
  | cons k rest =>
    rw [wakeOne_of_cons hq]
    show (s.setStage k _).stage i = _ ∨ _ ∧ ∃ by_, (s.setStage k _).stage i = _
    by_cases hi : i = k
    · subst hi
      exact .inr ⟨(h.mem_queue i).mp (hq ▸ List.mem_cons_self), .single, setStage_self s i _⟩
    · exact .inl (setStage_of_ne s hi _)

/-- When somebody else gives up, a registration can only be picked in its place. -/
theorem stage_leave_of_ne (h : s.Regular) (hj : j ≠ i) :
    (s.leave j).1.stage i = s.stage i ∨
      (∃ suspended, s.stage i = some (.waiting suspended)) ∧ ∃ by_, (s.leave j).1.stage i = some (.picked by_) := by
  have hsame : (s.without j).stage i = s.stage i := setStage_of_ne s hj.symm none
  rw [leave_eq]
  split
  · have hwoken := (h.without j).stage_wakeOne i
    rwa [hsame] at hwoken
  · exact .inl hsame

end Regular

/-- Looking is everybody's own affair. -/
theorem stage_look_of_ne (s : Signal ι) {i j : ι} (hj : j ≠ i) (suspend : Bool) :
    (s.look suspend j).2.stage i = s.stage i := by
  unfold look
  split
  · rfl
  · split
    · exact setStage_of_ne s hj.symm _
    · split
      · exact setStage_of_ne s hj.symm _
      · exact setStage_of_ne s hj.symm _
  · exact setStage_of_ne s hj.symm _
  · exact setStage_of_ne s hj.symm _
  · rfl

/-- **What others do to a registration.** It stays as it is, or it waits and is picked. -/
theorem Regular.stage_run {s : Signal ι} (h : s.Regular) {i : ι} {d : Deed ι} (hd : d.Spares i) :
    (d.run s).stage i = s.stage i ∨
      (∃ suspended, s.stage i = some (.waiting suspended)) ∧ ∃ by_, (d.run s).stage i = some (.picked by_) := by
  cases d with
  | wakeOne => exact h.stage_wakeOne i
  | wakeAll =>
    show (if i ∈ s.queue then _ else _) = _ ∨ _ ∧ ∃ by_, (if i ∈ s.queue then _ else _) = _
    by_cases hi : i ∈ s.queue
    · rw [if_pos hi]
      exact .inr ⟨(h.mem_queue i).mp hi, .all, rfl⟩
    · rw [if_neg hi]
      exact .inl rfl
  -- Registering gives up what the task had before, and that may pass a wake on.
  | arm j =>
    have harmed : (s.arm j).1.stage i = (s.leave j).1.stage i := setStage_of_ne _ (Ne.symm hd) _
    show (s.arm j).1.stage i = _ ∨ _ ∧ ∃ by_, (s.arm j).1.stage i = _
    rw [harmed]
    exact h.stage_leave_of_ne hd
  | look suspend j => exact .inl (stage_look_of_ne s hd suspend)
  | leave j => exact h.stage_leave_of_ne hd

/-- What others do in several deeds to a registration: it stays as it is, or it waits and is picked. -/
theorem Regular.stage_runAll {s : Signal ι} (h : s.Regular) {i : ι} {ds : List (Deed ι)}
    (hds : ∀ d ∈ ds, d.Spares i) :
    (Deed.runAll s ds).stage i = s.stage i ∨
      (∃ b, s.stage i = some (.waiting b)) ∧ ∃ by_, (Deed.runAll s ds).stage i = some (.picked by_) := by
  induction ds generalizing s with
  | nil => exact .inl rfl
  | cons d ds ih =>
    obtain ⟨hd, hrest⟩ := List.forall_mem_cons.mp hds
    show (Deed.runAll (d.run s) ds).stage i = _ ∨ _ ∧ ∃ by_, (Deed.runAll (d.run s) ds).stage i = _
    rcases h.stage_run hd with hsame | ⟨hwaits, by_, hpicked⟩
    · rw [← hsame]
      exact ih (h.run d) hrest
    · -- Whoever has been picked stays picked.
      rcases ih (h.run d) hrest with hsame | ⟨⟨b, hb⟩, -⟩
      · exact .inr ⟨hwaits, by_, hsame.trans hpicked⟩
      · rw [hpicked] at hb
        cases hb

/-- Whoever waits after the deeds of others has waited before. -/
theorem Regular.waiting_of_runAll {s : Signal ι} (h : s.Regular) {i : ι} {ds : List (Deed ι)}
    (hds : ∀ d ∈ ds, d.Spares i) {b : Bool} (hwaits : (Deed.runAll s ds).stage i = some (.waiting b)) :
    s.stage i = some (.waiting b) := by
  rcases h.stage_runAll hds with hsame | ⟨-, by_, hpicked⟩
  · exact hsame.symm.trans hwaits
  · rw [hpicked] at hwaits
    cases hwaits

/-! ## Deeds that wake nobody -/

/-- Whoever was not picked by a single wake has none to pass on. -/
theorem leave_of_not_wakes {s : Signal ι} {i : ι} (h : s.stage i ≠ some (.picked .single)) :
    s.leave i = (s.without i, []) := by
  rw [leave_eq, if_neg h]

/-- To look may use a stored wake up, but never stores one. -/
theorem permit_look (s : Signal ι) (suspend : Bool) (i : ι) (h : s.permit = false) :
    (s.look suspend i).2.permit = false := by
  unfold look
  split
  · exact h
  · split
    · exact h
    · split
      · rfl
      · exact h
  · exact h
  · exact h
  · exact h

namespace Deed

variable {s : Signal ι} {i : ι} {d : Deed ι} {ds : List (Deed ι)}

/-- One deed that wakes nobody leaves the registrations of others as they are. -/
theorem stage_run_of_not_wakes (hd : d.Spares i) (hw : ¬ d.Wakes s) : (d.run s).stage i = s.stage i := by
  cases d with
  | wakeOne | wakeAll => exact absurd trivial hw
  | arm j =>
    show ((s.leave j).1.setStage j _).stage i = _
    rw [leave_of_not_wakes hw, setStage_of_ne _ (Ne.symm hd)]
    exact setStage_of_ne s (Ne.symm hd) none
  | look suspend j => exact stage_look_of_ne s hd suspend
  | leave j =>
    show (s.leave j).1.stage i = _
    rw [leave_of_not_wakes hw]
    exact setStage_of_ne s (Ne.symm hd) none

/-- Nor does it store a wake where there was none. -/
theorem permit_run_of_not_wakes (hw : ¬ d.Wakes s) (hp : s.permit = false) : (d.run s).permit = false := by
  cases d with
  | wakeOne | wakeAll => exact absurd trivial hw
  | arm j =>
    show ((s.leave j).1.setStage j _).permit = false
    rw [leave_of_not_wakes hw]
    exact hp
  | look suspend j => exact permit_look s suspend j hp
  | leave j =>
    show (s.leave j).1.permit = false
    rw [leave_of_not_wakes hw]
    exact hp

/-- **Deeds that wake nobody** leave a registration of others alone, and where no wake is stored they store none. -/
theorem Quiet.kept (h : Quiet s ds) (hds : ∀ d ∈ ds, d.Spares i) :
    (runAll s ds).stage i = s.stage i ∧ (s.permit = false → (runAll s ds).permit = false) := by
  induction ds generalizing s with
  | nil => exact ⟨rfl, id⟩
  | cons d ds ih =>
    obtain ⟨hw, hrest⟩ := h
    obtain ⟨hstage, hpermit⟩ := ih hrest fun e he => hds e (List.mem_cons_of_mem d he)
    refine ⟨hstage.trans (stage_run_of_not_wakes (hds d List.mem_cons_self) hw), fun hp => ?_⟩
    exact hpermit (permit_run_of_not_wakes hw hp)

end Deed

/-! ## Wakes that are stored -/

/-- A wake is stored only while nobody waits. -/
def Stored (s : Signal ι) : Prop := s.permit = true → s.queue = []

/-- A wake is stored only because nobody was there to take it. -/
theorem Stored.wakeOne {s : Signal ι} (h : s.Stored) : s.wakeOne.1.Stored := by
  cases hq : s.queue with
  | nil =>
    rw [wakeOne_of_nil hq]
    exact fun _ => hq
  | cons i rest =>
    rw [wakeOne_of_cons hq]
    intro hp
    have hnil := h hp
    rw [hq] at hnil
    cases hnil

/-- A wake that is passed on is a wake like any other. -/
theorem Stored.leave {s : Signal ι} (h : s.Stored) (i : ι) : (s.leave i).1.Stored := by
  have hwithout : (s.without i).Stored := fun hp => by
    show s.queue.filter _ = []
    rw [h hp, List.filter_nil]
  rw [leave_eq]
  split
  · exact hwithout.wakeOne
  · exact hwithout

/-- Every deed keeps this, whoever does it. -/
theorem Stored.run {s : Signal ι} (h : s.Stored) (d : Deed ι) : (d.run s).Stored := by
  cases d with
  | wakeOne => exact h.wakeOne
  | wakeAll => exact fun _ => rfl
  | arm i => exact h.leave i
  | leave i => exact h.leave i
  | look suspend i =>
    show (s.look suspend i).2.Stored
    unfold look
    split
    · exact h
    · split
      · exact h
      · split
        · exact fun hp => by cases hp
        -- Only here does anybody come to the queue, and no wake is stored.
        next hp => exact fun hp' => absurd hp' hp
    · exact h
    · exact h
    · exact h

/-- So it holds after any deeds, whoever has done them and in whatever order. -/
theorem Stored.runAll {s : Signal ι} (h : s.Stored) (ds : List (Deed ι)) : (Deed.runAll s ds).Stored := by
  induction ds generalizing s with
  | nil => exact h
  | cons d ds ih => exact ih (h.run d)

end HttpService.Wait.Signal
