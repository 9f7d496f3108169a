import Mathlib.Algebra.GroupWithZero.Nat
import HttpService.Wait.Semaphore
import HttpService.Proofs.Wait.Moves

/-!
# Enough wakes, however polls are interleaved

A task that waits in vain (`Scene.Idle`) may only do so while those who are under way will take what is there. Who is
under way is counted with what it answers for (`Scene.load`): a task that is about to try takes one, and a task that a
single wake has picked passes the wake on if it does not need it. A move of a task never lowers what all answer for by
more than what it takes from the stock, and a wake raises it by one.

* `Scene.stock_le_answering` — while a task waits in vain, for each of the stock there is somebody who will take it or
  pass a wake on, or a wake that is still to come.
* `Scene.stock_eq_zero_of_idle` — so if all wakes have come and all tasks wait in vain, nothing is left.
-/

namespace HttpService.Wait

/-! ## Sums over names -/

section Sums

variable {ι : Type} [DecidableEq ι]

/-- A sum over names is the value of one of them and the sum over the others. -/
theorem sum_map_eq_filter_add {l : List ι} (hl : l.Nodup) {i : ι} (hi : i ∈ l) (f : ι → Nat) :
    (l.map f).sum = ((l.filter (· ≠ i)).map f).sum + f i := by
  rw [filter_ne_eq_erase hl, ((List.perm_cons_erase hi).map f).sum_nat, List.map_cons, List.sum_cons, Nat.add_comm]

/-- Two sums differ by what the values of one name differ by, if they agree on the others. -/
theorem sum_map_add_of_eq_off {l : List ι} (hl : l.Nodup) {i : ι} (hi : i ∈ l) {f g : ι → Nat}
    (h : ∀ j, j ≠ i → f j = g j) : (l.map f).sum + g i = (l.map g).sum + f i := by
  have hoff : (l.filter (· ≠ i)).map f = (l.filter (· ≠ i)).map g :=
    List.map_congr_left fun j hj => h j (of_decide_eq_true (List.mem_filter.mp hj).2)
  rw [sum_map_eq_filter_add hl hi f, sum_map_eq_filter_add hl hi g, hoff]
  omega

end Sums

namespace Scene

variable {ι τ σ α ε : Type} [DecidableEq ι] {c c' : Scene ι τ σ} {i j : ι}

/-! ## Enough for what is there -/

/-- How much of the stock a task answers for. If it is about to try it will take one. If a single wake has picked it, it
will try again, or pass the wake on; so a task that was picked before it tried does both. -/
def load (c : Scene ι τ σ) (i : ι) : Nat :=
  (if c.point i = .waiting then 0 else 1) + if c.signal.stage i = some (.picked .single) then 1 else 0

/-- How much all tasks together answer for. -/
def answering (c : Scene ι τ σ) : Nat := (c.names.map c.load).sum

/-- While anybody waits in vain, the tasks and the wakes that are to come answer for so much. -/
def Enough (c : Scene ι τ σ) (n : Nat) : Prop := ∀ i, c.Idle i → n ≤ c.answering + c.owed

omit [DecidableEq ι] in
/-- For less there is enough too. -/
theorem Enough.of_le {m n : Nat} (h : c.Enough n) (hle : m ≤ n) : c.Enough m :=
  fun i hi => Nat.le_trans hle (h i hi)

/-- A move of one task that answers for no less than before, and does not come to wait in vain by it. -/
theorem Enough.of_eq_off {n : Nat} (h : c.Enough n) (hnodup : c.names.Nodup) (hi : i ∈ c.names)
    (hnames : c'.names = c.names) (howed : c'.owed = c.owed) (hpoint : ∀ j, j ≠ i → c'.point j = c.point j)
    (hstage : ∀ j, j ≠ i → c'.signal.stage j = c.signal.stage j) (hload : c.load i ≤ c'.load i)
    (hidle : c'.Idle i → c.Idle i) : c'.Enough n := by
  intro j hj
  -- Who is idle now was idle before, so the step made nobody wait that has to be answered for.
  have hbefore : c.Idle j := by
    by_cases hji : j = i
    · exact hji ▸ hidle (hji ▸ hj)
    · exact ⟨hnames ▸ hj.mem, hpoint j hji ▸ hj.point, hstage j hji ▸ hj.stage⟩
  have hloads : ∀ j, j ≠ i → c'.load j = c.load j := fun j hji => by
    rw [load, load, hpoint j hji, hstage j hji]
  have hsum := sum_map_add_of_eq_off hnodup hi hloads
  have hle := h j hbefore
  rw [howed, answering, hnames]
  rw [answering] at hle
  omega

/-- A wake picks somebody who waits in vain or is about to try, and who then answers for one more. -/
theorem Enough.wakeOne {n : Nat} (h : c.Enough n) (hregular : c.signal.Regular) (hnodup : c.names.Nodup)
    (hqueue : ∀ k ∈ c.signal.queue, k ∈ c.names) :
    ({ c with signal := c.signal.wakeOne.1 } : Scene ι τ σ).Enough (n + 1) := by
  intro j hj
  obtain ⟨hmem, hpoint, b, hstage⟩ := hj
  cases hq : c.signal.queue with
  | nil =>
    -- Nobody waits, so nobody waits in vain.
    change c.signal.wakeOne.1.stage j = _ at hstage
    rw [Signal.wakeOne_of_nil hq] at hstage
    have hin := (hregular.mem_queue j).mpr ⟨b, hstage⟩
    rw [hq] at hin
    cases hin
  | cons k rest =>
    have hk : k ∈ c.signal.queue := hq ▸ List.mem_cons_self
    obtain ⟨b', hwaits⟩ := (hregular.mem_queue k).mp hk
    have hpicked : c.signal.wakeOne.1 = c.signal.pickedFirst k rest := Signal.wakeOne_of_cons hq
    have hothers : ∀ j, j ≠ k → (c.signal.pickedFirst k rest).stage j = c.signal.stage j :=
      fun j hjk => Signal.setStage_of_ne c.signal hjk _
    have hself : (c.signal.pickedFirst k rest).stage k = some (.picked .single) := Signal.setStage_self c.signal k _
    change c.signal.wakeOne.1.stage j = _ at hstage
    rw [hpicked] at hstage
    have hjk : j ≠ k := by
      rintro rfl
      rw [hself] at hstage
      cases hstage
    have hle := h j ⟨hmem, hpoint, b, (hothers j hjk) ▸ hstage⟩
    rw [hpicked]
    have hloads : ∀ j, j ≠ k →
        ({ c with signal := c.signal.pickedFirst k rest } : Scene ι τ σ).load j = c.load j := fun j hjk => by
      show (_ + if (c.signal.pickedFirst k rest).stage j = _ then 1 else 0) = _
      rw [hothers j hjk]
      rfl
    have hmore : ({ c with signal := c.signal.pickedFirst k rest } : Scene ι τ σ).load k = c.load k + 1 := by
      simp [load, hself, hwaits]
    have hsum := sum_map_add_of_eq_off hnodup (hqueue k hk) hloads
    show n + 1 ≤ (c.names.map _).sum + c.owed
    rw [answering] at hle
    omega

/-- A task that goes passes a single wake on, so it takes away only what it would have taken itself. -/
theorem Enough.left {n : Nat} (h : c.Enough n) (hfit : c.Fit) (hi : i ∈ c.names) (state : σ) :
    ({ c.dismissed i with signal := (c.signal.leave i).1, state } : Scene ι τ σ).Enough
      (n - if c.point i = .waiting then 0 else 1) := by
  -- First the task goes with all that it answers for, and then its wake is passed on.
  let gone : Scene ι τ σ := { c.dismissed i with signal := c.signal.without i, state }
  have hnames : gone.names = c.names.filter (· ≠ i) := names_dismissed c i
  have hmem : ∀ j, j ∈ gone.names ↔ j ∈ c.names ∧ j ≠ i := fun j => by
    rw [hnames, List.mem_filter, decide_eq_true_eq]
  have hstage : ∀ j, j ≠ i → gone.signal.stage j = c.signal.stage j :=
    fun j hj => Signal.setStage_of_ne c.signal hj none
  have hpoint : ∀ j, j ≠ i → gone.point j = c.point j := fun j hj => c.point_moved_of_ne hj _
  have hloads : gone.names.map gone.load = gone.names.map c.load := List.map_congr_left fun j hj => by
    have hne := ((hmem j).mp hj).2
    rw [load, load, hstage j hne, hpoint j hne]
  have hgone : gone.Enough (n - c.load i) := by
    intro j hj
    obtain ⟨hbefore, hne⟩ := (hmem j).mp hj.mem
    have hle := h j ⟨hbefore, hpoint j hne ▸ hj.point, hstage j hne ▸ hj.stage⟩
    have hsum := sum_map_eq_filter_add hfit.nodup hi c.load
    rw [answering, hloads, hnames]
    rw [answering] at hle
    show n - c.load i ≤ _ + c.owed
    omega
  have hload : c.load i = (if c.point i = .waiting then 0 else 1) +
      if c.signal.stage i = some (.picked .single) then 1 else 0 := rfl
  rw [Signal.leave_eq]
  by_cases hpicked : c.signal.stage i = some (.picked .single)
  · rw [if_pos hpicked] at hload ⊢
    have hqueue : ∀ k ∈ gone.signal.queue, k ∈ gone.names := fun k hk => by
      obtain ⟨hbefore, hne⟩ := List.mem_filter.mp hk
      exact (hmem k).mpr ⟨hfit.mem_names_of_queue hbefore, of_decide_eq_true hne⟩
    have hnodup : gone.names.Nodup := hnames ▸ hfit.nodup.filter _
    have hwoken := hgone.wakeOne (hfit.regular.without i) hnodup hqueue
    have hle : (n - if c.point i = .waiting then 0 else 1) ≤ n - c.load i + 1 := by omega
    exact fun j hj => Nat.le_trans hle (hwoken j hj)
  · rw [if_neg hpicked, Nat.add_zero] at hload
    rw [if_neg hpicked, ← hload]
    exact hgone

/-! ### One case for each move of a task -/

section Cases

variable {n : Nat} (h : c.Enough n) (hfit : c.Fit)

include h hfit

/-- Registering changes nothing: the task was about to try before. -/
theorem Enough.registered (hi : i ∈ c.names) (hp : c.point i = .outset) :
    ({ c.moved i .trying with signal := (c.signal.registered i).2 } : Scene ι τ σ).Enough n := by
  have hfree := hfit.free (.inr hp)
  refine h.of_eq_off hfit.nodup hi rfl rfl (fun j hj => c.point_moved_of_ne hj _) (fun j hj => ?_) ?_ (fun hidle => ?_)
  · show (c.signal.registered i).2.stage j = _
    rw [hfree.registered]
    split
    · exact Signal.setStage_of_ne c.signal.spent hj _
    · exact Signal.setStage_of_ne c.signal hj _
  · simp [load, hp, hfree.stage, point_moved_self]
  · cases (c.point_moved_self i .trying).symm.trans hidle.point

/-- A task whose registration is over will try again. -/
theorem Enough.woken (hi : i ∈ c.names) (hp : c.point i = .waiting) (hlook : (c.signal.look true i).1 = true) :
    ({ c.moved i .outset with signal := ((c.signal.look true i).2.leave i).1 } : Scene ι τ σ).Enough n := by
  rcases (hfit.held hi (by simp [hp])).look_cases with ⟨b, -, hwaits⟩ | ⟨-, hover⟩
  · rw [hwaits] at hlook
    cases hlook
  -- The look has seen its wake, so giving the registration up passes none on.
  · have hsignal : ((c.signal.look true i).2.leave i).1 = c.signal.without i := by
      rw [hover, Signal.leave_eq, Signal.setStage_self, if_neg (by simp), Signal.without_setStage]
    rw [hsignal]
    refine h.of_eq_off hfit.nodup hi rfl rfl (fun j hj => c.point_moved_of_ne hj _)
      (fun j hj => Signal.setStage_of_ne c.signal hj _) ?_ (fun hidle => ?_)
    · -- It answered for a wake at most, and now it answers for its try.
      have hle : c.load i ≤ 1 := by
        rw [load, if_pos hp]
        split
        · exact Nat.le_refl 1
        · exact Nat.zero_le 1
      refine Nat.le_trans hle ?_
      rw [load, if_neg (by show (c.moved i .outset).point i ≠ _; rw [point_moved_self]; simp)]
      exact Nat.le_add_right 1 _
    · cases (c.point_moved_self i .outset).symm.trans hidle.point

/-- A task that is still not picked waits on. -/
theorem Enough.waits (hi : i ∈ c.names) (hp : c.point i = .waiting) (hlook : (c.signal.look true i).1 = false) :
    ({ c.moved i .waiting with signal := (c.signal.look true i).2 } : Scene ι τ σ).Enough n := by
  rcases (hfit.held hi (by simp [hp])).look_cases with ⟨b, hstage, hwaits⟩ | ⟨-, hover⟩
  · rw [hwaits]
    refine h.of_eq_off hfit.nodup hi rfl rfl (fun j hj => c.point_moved_of_ne hj _)
      (fun j hj => Signal.setStage_of_ne c.signal hj _) ?_ (fun _ => ⟨hi, hp, b, hstage⟩)
    simp [load, hp, hstage]
  · rw [hover] at hlook
    cases hlook

omit hfit in
/-- Whoever comes only adds to those who answer. -/
theorem Enough.entered (hnew : i ∉ c.names) (t : τ) :
    ({ c.moved i .outset with tasks := c.tasks ++ [(i, t)] } : Scene ι τ σ).Enough n := by
  intro j hj
  -- Whoever was there stands where it stood, and the one that comes is still to try.
  have hpoint : ∀ j, j ≠ i → (c.moved i .outset).point j = c.point j := fun j hj => c.point_moved_of_ne hj _
  have hji : j ≠ i := by
    rintro rfl
    cases (c.point_moved_self j .outset).symm.trans hj.point
  have hmem : j ∈ c.names := by
    have hmem : j ∈ (c.tasks ++ [(i, t)]).map (·.1) := hj.mem
    rw [List.map_append, List.mem_append, List.map_singleton, List.mem_singleton, or_iff_left hji] at hmem
    exact hmem
  have hle := h j ⟨hmem, (hpoint j hji).symm.trans hj.point, hj.stage⟩
  -- So no load gets less, and the sum has one summand more.
  have hloads : c.names.map (Scene.load { c.moved i .outset with tasks := c.tasks ++ [(i, t)] }) =
      c.names.map c.load := List.map_congr_left fun j hj => by
    rw [load, load]
    show (if (c.moved i .outset).point j = _ then _ else _) + _ = _
    rw [hpoint j (fun hji => hnew (hji ▸ hj))]
    rfl
  show n ≤ (((c.tasks ++ [(i, t)]).map (·.1)).map _).sum + c.owed
  rw [List.map_append, List.map_append, List.sum_append]
  show _ ≤ (c.names.map _).sum + _ + c.owed
  rw [hloads]
  rw [answering] at hle
  omega

end Cases

/-- What a task does leaves enough: if it takes one, there is one less to answer for. -/
theorem Went.enough {attempt : Signal.Attempt σ ε α} {stock : σ → Nat} (hd : attempt.Draws stock)
    (hw : Went attempt c i c') (h : c.Enough (stock c.state)) (hfit : c.Fit) (hi : i ∈ c.names) :
    c'.Enough (stock c'.state) := by
  cases hw with
  | registered hp => exact h.registered hfit hi hp
  | woken hp hlook => exact h.woken hfit hi hp hlook
  | waits hp hlook => exact h.waits hfit hi hp hlook
  | @ended hp outcome state htry hsome =>
    have hleft := h.left hfit hi state
    rw [if_neg (by simp [hp])] at hleft
    refine hleft.of_le ?_
    by_cases hstock : stock c.state = 0
    · rw [hd.empty c.state hstock] at htry
      cases htry
      exact absurd rfl hsome
    · obtain ⟨a, state', htaken, hless⟩ := hd.taken c.state hstock
      obtain rfl : state' = state := congrArg Prod.snd (htaken.symm.trans htry)
      show stock state' ≤ _
      omega
  | @vain hp state htry =>
    -- Nothing was found because nothing is there.
    have hstock : stock c.state = 0 := by
      by_contra hne
      obtain ⟨a, state', htaken, -⟩ := hd.taken c.state hne
      rw [htaken] at htry
      cases htry
    rw [hd.empty c.state hstock] at htry
    cases htry
    intro j hj
    show stock c.state ≤ _
    rw [hstock]
    exact Nat.zero_le _

/-- Every move leaves enough: what it adds to the stock is owed, and what it takes away somebody answered for. -/
theorem Enough.step {attempt : τ → Signal.Attempt σ ε α} {stock : σ → Nat} (hd : ∀ t, (attempt t).Draws stock)
    (h : c.Enough (stock c.state)) (hfit : c.Fit) (m : Move ι τ σ) :
    (Scene.step attempt stock c m).Enough (stock (Scene.step attempt stock c m).state) := by
  cases m with
  | enter i t =>
    simp only [Scene.step]
    split
    · exact h
    next hnew => exact h.entered hnew t
  | go i =>
    simp only [Scene.step]
    cases hi : c.tasks.lookup i with
    | none => exact h
    | some t => exact (c.went_after i (attempt t)).enough (hd t) h hfit (mem_names_of_lookup hi)
  | giveUp i =>
    simp only [Scene.step]
    split
    next hwaits =>
      have hleft := h.left hfit hwaits.1 c.state
      rwa [if_pos hwaits.2] at hleft
    · exact h
  | change state =>
    intro j hj
    have hle := h j ⟨hj.mem, hj.point, hj.stage⟩
    show stock state ≤ c.answering + (c.owed + (stock state - stock c.state))
    omega
  | wakeOne =>
    intro j hj
    have hqueue : ∀ k ∈ c.signal.queue, k ∈ c.names := fun k => hfit.mem_names_of_queue
    have hle := h.wakeOne hfit.regular hfit.nodup hqueue j ⟨hj.mem, hj.point, hj.stage⟩
    have hsame : (Scene.step attempt stock c .wakeOne).answering =
        ({ c with signal := c.signal.wakeOne.1 } : Scene ι τ σ).answering := rfl
    rw [hsame]
    show stock c.state ≤ _ + (c.owed - 1)
    change stock c.state + 1 ≤ _ + c.owed at hle
    omega
  | wakeAll =>
    intro j hj
    -- Everybody who waited has been picked.
    have hnone := (hfit.regular.wakeAll.mem_queue j).mpr hj.stage
    cases hnone

/-- So there is enough after all moves, by induction on them. -/
theorem enough_run {attempt : τ → Signal.Attempt σ ε α} {stock : σ → Nat} (hd : ∀ t, (attempt t).Draws stock)
    (state : σ) (moves : List (Move ι τ σ)) :
    (run attempt stock state moves).Enough (stock (run attempt stock state moves).state) := by
  induction moves using List.reverseRecOn with
  | nil => exact fun i hi => absurd hi.mem List.not_mem_nil
  | append_singleton moves m ih =>
    rw [run_append_singleton]
    exact ih.step hd (fit_run attempt stock state moves) m

/-- **No wake is lost, however the polls are interleaved.** After all moves, while a task waits in vain, for each of the
stock there is a task that will take it or pass a wake on, or a wake that is still to come. -/
theorem stock_le_answering {attempt : τ → Signal.Attempt σ ε α} {stock : σ → Nat} (hd : ∀ t, (attempt t).Draws stock)
    (state : σ) (moves : List (Move ι τ σ)) (hi : (run attempt stock state moves).Idle i) :
    stock (run attempt stock state moves).state ≤
      (run attempt stock state moves).answering + (run attempt stock state moves).owed :=
  enough_run hd state moves i hi

/-- **If all wakes have come and all tasks wait in vain, nothing is left.** -/
theorem stock_eq_zero_of_idle {attempt : τ → Signal.Attempt σ ε α} {stock : σ → Nat}
    (hd : ∀ t, (attempt t).Draws stock) (state : σ) (moves : List (Move ι τ σ))
    (hidle : ∀ i ∈ (run attempt stock state moves).names, (run attempt stock state moves).Idle i)
    (hnames : (run attempt stock state moves).names ≠ []) (howed : (run attempt stock state moves).owed = 0) :
    stock (run attempt stock state moves).state = 0 := by
  obtain ⟨i, hi⟩ := List.exists_mem_of_ne_nil _ hnames
  have hle := stock_le_answering hd state moves (hidle i hi)
  have hnone : (run attempt stock state moves).answering = 0 := by
    rw [answering, List.sum_eq_zero_iff_forall_eq_nat]
    intro n hn
    obtain ⟨j, hj, rfl⟩ := List.mem_map.mp hn
    obtain ⟨-, hpoint, b, hstage⟩ := hidle j hj
    rw [load, if_pos hpoint, if_neg (by rw [hstage]; simp)]
  omega

/-- A wake that comes before the permit it is for is used up in vain: the permit is there, and the task sleeps. -/
example :
    let c := run Semaphore.takePermit id 0 [.enter 0 (), .go 0, .wakeOne, .go 0, .go 0, .go 0, .go 0, .go 0, .change 1]
    c.state = 1 ∧ c.names = [0] ∧ c.answering = 0 ∧ c.point 0 = .waiting ∧ c.signal.stage 0 = some (.waiting true) := by
  decide

end Scene

end HttpService.Wait
