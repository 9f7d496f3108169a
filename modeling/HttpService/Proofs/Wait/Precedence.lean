import HttpService.Proofs.Wait.Conditions
import HttpService.Proofs.Wait.Moves

/-!
# The order of registration and try

Why a task registers before it tries: what it does not find at its try can only come later, and the wake for that finds
the registration. This is seen only if the polls of tasks are interleaved with what others do.

* `Scene.waiting_of_step` — no move but its own brings a task to wait, and after a wake of all nobody waits.
* `Scene.registered_before_try` — whoever waits in vain registered before its last try, and since it registered nobody
  has woken all.
-/

namespace HttpService.Wait.Scene

variable {ι τ σ α ε : Type} [DecidableEq ι] {c c' : Scene ι τ σ} {i j : ι}

variable {attempt : τ → Signal.Attempt σ ε α} {stock : σ → Nat} {state : σ} {t : τ}

/-- What another task does leaves a task where it is, and does not make it wait. -/
theorem Went.waiting_of_ne {other : Signal.Attempt σ ε α} (hw : Went other c j c') (hfit : c.Fit) (hij : i ≠ j)
    (hlookup : c'.tasks.lookup i = some t) {b : Bool} (hwaits : c'.signal.stage i = some (.waiting b)) :
    c.tasks.lookup i = some t ∧ c.signal.stage i = some (.waiting b) ∧ c'.point i = c.point i := by
  have hpoint : ∀ p, (c.moved j p).point i = c.point i := fun p => c.point_moved_of_ne hij p
  -- What another task does may pick this one, but never makes it wait.
  have hbefore : ∀ ds : List (Signal.Deed ι), (∀ d ∈ ds, d.Spares i) →
      (Signal.Deed.runAll c.signal ds).stage i = some (.waiting b) → c.signal.stage i = some (.waiting b) :=
    fun ds hds h => hfit.regular.waiting_of_runAll hds h
  cases hw with
  | registered =>
    exact ⟨hlookup, hbefore [.arm j, .look false j] (by simp [Signal.Deed.Spares, hij.symm]) hwaits, hpoint _⟩
  | ended =>
    change (c.tasks.filter (·.1 ≠ j)).lookup i = some t at hlookup
    rw [Room.lookup_filter_of_ne _ hij] at hlookup
    exact ⟨hlookup, hbefore [.leave j] (by simp [Signal.Deed.Spares, hij.symm]) hwaits, hpoint _⟩
  | vain => exact ⟨hlookup, hwaits, hpoint _⟩
  | woken =>
    exact ⟨hlookup, hbefore [.look true j, .leave j] (by simp [Signal.Deed.Spares, hij.symm]) hwaits, hpoint _⟩
  | waits => exact ⟨hlookup, hbefore [.look true j] (by simp [Signal.Deed.Spares, hij.symm]) hwaits, hpoint _⟩

/-- No move but its own brings a task to wait, and a wake of all lets nobody wait. -/
theorem waiting_of_step (hfit : c.Fit) {m : Move ι τ σ} (hm : m ≠ .go i)
    (hlookup : (step attempt stock c m).tasks.lookup i = some t) {b : Bool}
    (hwaits : (step attempt stock c m).signal.stage i = some (.waiting b)) :
    m ≠ .wakeAll ∧ c.tasks.lookup i = some t ∧ c.signal.stage i = some (.waiting b) ∧
      (step attempt stock c m).point i = c.point i := by
  cases m with
  | enter j u =>
    simp only [step] at hlookup hwaits ⊢
    split at hlookup
    next hold =>
      rw [if_pos hold] at hwaits ⊢
      exact ⟨by simp, hlookup, hwaits, rfl⟩
    next hnew =>
      rw [if_neg hnew] at hwaits ⊢
      -- A task that comes finds no registration under its name, so it is not the one that waits.
      have hij : i ≠ j := by
        rintro rfl
        have hnone := (hfit.stages i).2 (.inl hnew)
        cases hnone.symm.trans hwaits
      change (c.tasks ++ [(j, u)]).lookup i = some t at hlookup
      rw [List.lookup_append, List.lookup_cons, beq_eq_false_iff_ne.mpr hij] at hlookup
      exact ⟨by simp, by simpa using hlookup, hwaits, c.point_moved_of_ne hij _⟩
  | go j =>
    have hij : i ≠ j := fun hij => hm (hij ▸ rfl)
    refine ⟨by simp, ?_⟩
    simp only [step] at hlookup hwaits ⊢
    cases hj : c.tasks.lookup j with
    | none =>
      simp only [hj] at hlookup hwaits
      exact ⟨hlookup, hwaits, rfl⟩
    | some u =>
      simp only [hj] at hlookup hwaits
      -- Whatever another task does, it can pick this one, but it cannot make it wait.
      exact (c.went_after j (attempt u)).waiting_of_ne hfit hij hlookup hwaits
  | giveUp j =>
    simp only [step] at hlookup hwaits ⊢
    split at hlookup
    next hj =>
      rw [if_pos hj] at hwaits ⊢
      change (c.tasks.filter (·.1 ≠ j)).lookup i = some t at hlookup
      have hij : i ≠ j := by
        rintro rfl
        cases (Room.lookup_filter_self c.tasks i).symm.trans hlookup
      rw [Room.lookup_filter_of_ne _ hij] at hlookup
      have hspares : ∀ d ∈ [Signal.Deed.leave j], d.Spares i := by simp [Signal.Deed.Spares, hij.symm]
      exact ⟨by simp, hlookup, hfit.regular.waiting_of_runAll hspares hwaits, c.point_moved_of_ne hij _⟩
    next hj =>
      rw [if_neg hj] at hwaits ⊢
      exact ⟨by simp, hlookup, hwaits, rfl⟩
  | change state => exact ⟨by simp, hlookup, hwaits, rfl⟩
  | wakeOne =>
    have hspares : ∀ d ∈ [Signal.Deed.wakeOne], d.Spares i := by simp [Signal.Deed.Spares]
    exact ⟨by simp, hlookup, hfit.regular.waiting_of_runAll hspares hwaits, rfl⟩
  | wakeAll =>
    -- After a wake of all nobody is left in the queue.
    have hnone := (hfit.regular.wakeAll.mem_queue i).mpr ⟨b, hwaits⟩
    cases hnone

variable (attempt stock state) in
/-- A task registered at some point, and nobody has woken all since. -/
def Registered (i : ι) (t : τ) (moves : List (Move ι τ σ)) : Prop :=
  ∃ before mid, moves = before ++ .go i :: mid ∧ .wakeAll ∉ mid ∧
    (run attempt stock state before).tasks.lookup i = some t ∧ (run attempt stock state before).point i = .outset

variable (attempt stock state) in
/-- A task tried in vain at some point, after it had registered, and nobody has woken all since it registered. -/
def TriedInVain (i : ι) (t : τ) (moves : List (Move ι τ σ)) : Prop :=
  ∃ before later, moves = before ++ .go i :: later ∧ .wakeAll ∉ later ∧ Registered attempt stock state i t before ∧
    (run attempt stock state before).point i = .trying ∧
    (attempt t (run attempt stock state before).state).1 = .ok none

/-- A registration lasts through every move but a wake of all. -/
theorem Registered.append {moves : List (Move ι τ σ)} (h : Registered attempt stock state i t moves)
    {m : Move ι τ σ} (hm : m ≠ .wakeAll) : Registered attempt stock state i t (moves ++ [m]) := by
  obtain ⟨before, mid, rfl, hmid, hbefore⟩ := h
  exact ⟨before, mid ++ [m], by simp, by simp [hmid, hm.symm], hbefore⟩

/-- And so does what the task knows from its last try. -/
theorem TriedInVain.append {moves : List (Move ι τ σ)} (h : TriedInVain attempt stock state i t moves)
    {m : Move ι τ σ} (hm : m ≠ .wakeAll) : TriedInVain attempt stock state i t (moves ++ [m]) := by
  obtain ⟨before, later, rfl, hlater, hbefore⟩ := h
  exact ⟨before, later ++ [m], by simp, by simp [hlater, hm.symm], hbefore⟩

/-- What a task's own move leads to, if its registration waits afterwards: it has just registered, or it has just tried
in vain, or it has looked once more. -/
theorem Went.own_cases {own : Signal.Attempt σ ε α} (hw : Went own c i c') (hfit : c.Fit)
    (hlookup : c'.tasks.lookup i = some t) {b : Bool} (hwaits : c'.signal.stage i = some (.waiting b)) :
    c.tasks.lookup i = some t ∧
      ((c.point i = .outset ∧ c'.point i = .trying) ∨
        (c.point i = .trying ∧ c'.point i = .waiting ∧ c.signal.stage i = some (.waiting b) ∧
          (own c.state).1 = .ok none) ∨
        c.point i = .waiting ∧ c'.point i = .waiting ∧ ∃ b', c.signal.stage i = some (.waiting b')) := by
  cases hw with
  | registered hp => exact ⟨hlookup, .inl ⟨hp, c.point_moved_self i _⟩⟩
  | ended =>
    -- A task that is done has no registration.
    cases (hfit.regular.stage_leave i).symm.trans hwaits
  | vain hp htry =>
    exact ⟨hlookup, .inr (.inl ⟨hp, c.point_moved_self i _, hwaits, by rw [htry]⟩)⟩
  | woken => cases ((hfit.regular.look true i).stage_leave i).symm.trans hwaits
  | waits hp hlook =>
    have hi : i ∈ c.names := mem_names_of_lookup (c := c) hlookup
    rcases (hfit.held hi (by simp [hp])).look_cases with ⟨b', hstage, -⟩ | ⟨-, hover⟩
    · exact ⟨hlookup, .inr (.inr ⟨hp, c.point_moved_self i _, b', hstage⟩)⟩
    · rw [hover] at hlook
      cases hlook

/-- What is behind a task whose registration waits. -/
theorem registered_run (moves : List (Move ι τ σ)) {b : Bool}
    (hlookup : (run attempt stock state moves).tasks.lookup i = some t)
    (hwaits : (run attempt stock state moves).signal.stage i = some (.waiting b)) :
    ((run attempt stock state moves).point i = .trying → Registered attempt stock state i t moves) ∧
      ((run attempt stock state moves).point i = .waiting → TriedInVain attempt stock state i t moves) := by
  induction moves using List.reverseRecOn generalizing b with
  | nil => cases hlookup
  | append_singleton moves m ih =>
    have hfit := fit_run attempt stock state moves
    rw [run_append_singleton] at hlookup hwaits ⊢
    -- By the last move: the task's own one says where it is now, and after any other it is where it was.
    by_cases hm : m = .go i
    · subst hm
      have hstep : ∃ u, (run attempt stock state moves).tasks.lookup i = some u := by
        simp only [step] at hlookup
        split at hlookup
        next hnone => cases hnone.symm.trans hlookup
        next u hu => exact ⟨u, hu⟩
      obtain ⟨u, hu⟩ := hstep
      simp only [step, hu] at hlookup hwaits ⊢
      obtain ⟨hbefore, hcases⟩ :=
        ((run attempt stock state moves).went_after i (attempt u)).own_cases hfit hlookup hwaits
      obtain rfl : u = t := Option.some.inj (hu.symm.trans hbefore)
      -- The task has just registered, or just tried in vain, or just looked and found no wake.
      rcases hcases with ⟨hp, hp'⟩ | ⟨hp, hp', hwaited, hvain⟩ | ⟨hp, hp', b', hwaited⟩
      · rw [hp']
        exact ⟨fun _ => ⟨moves, [], rfl, List.not_mem_nil, hbefore, hp⟩, by simp⟩
      · rw [hp']
        have hregistered := (ih hbefore hwaited).1 hp
        exact ⟨by simp, fun _ => ⟨moves, [], rfl, List.not_mem_nil, hregistered, hp, hvain⟩⟩
      · rw [hp']
        exact ⟨by simp, fun _ => ((ih hbefore hwaited).2 hp).append (by simp)⟩
    · obtain ⟨hall, hbefore, hwaited, hpoint⟩ := waiting_of_step hfit hm hlookup hwaits
      rw [hpoint]
      obtain ⟨hregistered, hvain⟩ := ih hbefore hwaited
      exact ⟨fun hp => (hregistered hp).append hall, fun hp => (hvain hp).append hall⟩

/-- **Whoever waits in vain registered before its last try**, and nobody has woken all since it registered. So no wake
of all can come between the try and the registration and be missed. -/
theorem registered_before_try (moves : List (Move ι τ σ)) (hi : (run attempt stock state moves).Idle i) :
    ∃ t, (run attempt stock state moves).tasks.lookup i = some t ∧ TriedInVain attempt stock state i t moves := by
  obtain ⟨hmem, hpoint, b, hstage⟩ := hi
  obtain ⟨t, ht⟩ := Option.isSome_iff_exists.mp (isSome_lookup_iff.mpr hmem)
  exact ⟨t, ht, (registered_run moves ht hstage).2 hpoint⟩

end HttpService.Wait.Scene
