import HttpService.Proofs.Wait.Deeds

/-!
# The loop of a waiting task

A task waits in a loop: it registers, tries, looks whether its registration is over, and begins anew if it is. Nothing
in the loop counts its turns. Here it is written down one thing after the other (`Signal.next`), for tries that may use
the signal themselves, and a poll is what the loop does until it ends (`Signal.Polls`).

* `Signal.polls_turns`, `Signal.polls_resume` — for a try that does not use the signal the loop ends, and with what
  `turns` and `resume` say.
* `Signal.Free.polls_of_no_permit` — where no wake is stored and the try wakes nobody, the first turn is the last.
* `Signal.Reached.kept` — between its polls a task waits or has been picked, and since the registration that it has it
  tried once, in vain.
* `Signal.Reached.poll_ends` — so every poll ends, after two tries at most.
* `Signal.Reached.polled_other` — the polls of other tasks are among what may happen in between.
* `Signal.not_polls_waking` — a try that wakes keeps the loop going for ever.
-/

namespace HttpService.Wait.Signal

variable {ι σ α ε : Type} [DecidableEq ι]

/-- A try that may look at the signal and do something there. The registration of the task itself is out of its
reach. -/
structure Trial (i : ι) (σ ε α : Type) where
  run : Signal ι → σ → Except ε (Option α) × List (Deed ι) × σ
  spares : ∀ s state, ∀ d ∈ (run s state).2.1, d.Spares i

namespace Trial

/-- A try that does not use the signal. -/
def ofAttempt (i : ι) (attempt : Attempt σ ε α) : Trial i σ ε α where
  run _ state := ((attempt state).1, [], (attempt state).2)
  spares _ _ _ hd := absurd hd List.not_mem_nil

/-- The try wakes nobody, at whatever signal. -/
def Wakeless {i : ι} (t : Trial i σ ε α) : Prop := ∀ s state, Deed.Quiet s (t.run s state).2.1

end Trial

/-! ## The loop -/

/-- Where a task is in its loop. -/
inductive Point where
  /-- About to register. -/
  | outset
  /-- Registered, and about to try. -/
  | trying
  /-- Nothing was found: about to look at the registration. -/
  | waiting
deriving DecidableEq, Repr

/-- One thing that a task does in its loop. -/
inductive Action (ε α : Type) where
  /-- It registers; `spent` says whether that used up a stored wake. -/
  | registered (spent : Bool)
  | tried (outcome : Except ε (Option α))
  /-- It looks whether its registration is over. -/
  | looked (isOver : Bool)

namespace Action

def isTry : Action ε α → Bool
  | tried _ => true
  | registered _ | looked _ => false

/-- Of a registration, whether it used up a stored wake. -/
def spent? : Action ε α → Option Bool
  | registered spent => some spent
  | tried _ | looked _ => none

end Action

/-- How often a task tried. -/
def tries (trace : List (Action ε α)) : Nat := trace.countP Action.isTry

/-- For each registration that a task made, whether it used up a stored wake. -/
def registrations (trace : List (Action ε α)) : List Bool := trace.filterMap Action.spent?

@[simp]
theorem tries_nil : tries ([] : List (Action ε α)) = 0 := rfl

/-- To register is no try. -/
@[simp]
theorem tries_registered (spent : Bool) (trace : List (Action ε α)) :
    tries (.registered spent :: trace) = tries trace := List.countP_cons_of_neg Bool.false_ne_true

/-- A try counts, whatever came of it. -/
@[simp]
theorem tries_tried (outcome : Except ε (Option α)) (trace : List (Action ε α)) :
    tries (.tried outcome :: trace) = tries trace + 1 := List.countP_cons_of_pos rfl

/-- To look is no try. -/
@[simp]
theorem tries_looked (isOver : Bool) (trace : List (Action ε α)) :
    tries (.looked isOver :: trace) = tries trace := List.countP_cons_of_neg Bool.false_ne_true

/-- A task in its loop, with the signal and the state. -/
structure Moment (ι σ : Type) where
  point : Point
  signal : Signal ι
  state : σ

/-- How a poll ends, and what it leaves behind. -/
structure Ending (ι σ ε α : Type) where
  result : Polled ε α
  signal : Signal ι
  state : σ

/-- Whether registering now uses up a stored wake. -/
def spends (s : Signal ι) (i : ι) : Bool := s.permit && !(s.registered i).2.permit

/-- The next thing that a task does: it goes on in its loop, or the poll ends. -/
def next {i : ι} (t : Trial i σ ε α) (m : Moment ι σ) : Action ε α × (Moment ι σ ⊕ Ending ι σ ε α) :=
  match m.point with
  | .outset => (.registered (m.signal.spends i), .inl ⟨.trying, (m.signal.registered i).2, m.state⟩)
  | .trying =>
    match t.run m.signal m.state with
    -- However the poll ends, the registration is given up.
    | (.error e, ds, state) =>
      (.tried (.error e), .inr ⟨.failed e, ((Deed.runAll m.signal ds).leave i).1, state⟩)
    | (.ok (some a), ds, state) =>
      (.tried (.ok (some a)), .inr ⟨.ready a, ((Deed.runAll m.signal ds).leave i).1, state⟩)
    | (.ok none, ds, state) => (.tried (.ok none), .inl ⟨.waiting, Deed.runAll m.signal ds, state⟩)
  | .waiting =>
    let looked := m.signal.look true i
    (.looked looked.1,
      if looked.1 then .inl ⟨.outset, (looked.2.leave i).1, m.state⟩ else .inr ⟨.pending, looked.2, m.state⟩)

section Next

variable {i : ι} {t : Trial i σ ε α} {s : Signal ι} {state state' : σ} {ds : List (Deed ι)}

/-- The task registers first of all, before it knows whether there is anything to wait for. -/
theorem next_outset : next t ⟨.outset, s, state⟩ =
    (.registered (s.spends i), .inl ⟨.trying, (s.registered i).2, state⟩) := rfl

/-- A try that fails ends the poll, and the registration is given up. -/
theorem next_of_failed {e : ε} (h : t.run s state = (.error e, ds, state')) : next t ⟨.trying, s, state⟩ =
    (.tried (.error e), .inr ⟨.failed e, ((Deed.runAll s ds).leave i).1, state'⟩) := by
  simp only [next, h]

/-- A try that finds something ends the poll in the same way. -/
theorem next_of_found {a : α} (h : t.run s state = (.ok (some a), ds, state')) : next t ⟨.trying, s, state⟩ =
    (.tried (.ok (some a)), .inr ⟨.ready a, ((Deed.runAll s ds).leave i).1, state'⟩) := by
  simp only [next, h]

/-- A try in vain leads to the look at the registration, with nothing given up. -/
theorem next_of_nothing (h : t.run s state = (.ok none, ds, state')) : next t ⟨.trying, s, state⟩ =
    (.tried (.ok none), .inl ⟨.waiting, Deed.runAll s ds, state'⟩) := by
  simp only [next, h]

/-- If the registration is over the loop begins anew, without one. -/
theorem next_of_over (h : (s.look true i).1 = true) : next t ⟨.waiting, s, state⟩ =
    (.looked true, .inl ⟨.outset, ((s.look true i).2.leave i).1, state⟩) := by
  simp only [next, h, if_true]

/-- If it is not, the task goes to sleep with its registration, and the poll is pending. -/
theorem next_of_not_over (h : (s.look true i).1 = false) : next t ⟨.waiting, s, state⟩ =
    (.looked false, .inr ⟨.pending, (s.look true i).2, state⟩) := by
  simp only [next, h, Bool.false_eq_true, if_false]

end Next

/-- A poll: what a task does from some point of its loop on, and how that ends. -/
inductive Polls {i : ι} (t : Trial i σ ε α) : Moment ι σ → List (Action ε α) → Ending ι σ ε α → Prop where
  | ends {m : Moment ι σ} {a : Action ε α} {e : Ending ι σ ε α} (h : next t m = (a, .inr e)) : Polls t m [a] e
  | goesOn {m m' : Moment ι σ} {a : Action ε α} {trace : List (Action ε α)} {e : Ending ι σ ε α}
      (h : next t m = (a, .inl m')) (rest : Polls t m' trace e) : Polls t m (a :: trace) e

/-- A poll has one course. -/
theorem Polls.unique {i : ι} {t : Trial i σ ε α} {m : Moment ι σ} {trace trace' : List (Action ε α)}
    {e e' : Ending ι σ ε α} (h : Polls t m trace e) (h' : Polls t m trace' e') : trace' = trace ∧ e' = e := by
  -- Along the first of the two polls: each of its moves is the only one from its place.
  induction h generalizing trace' with
  | ends hnext =>
    cases h' with
    | ends hnext' =>
      rw [hnext] at hnext'
      cases hnext'
      exact ⟨rfl, rfl⟩
    | goesOn hnext' rest =>
      rw [hnext] at hnext'
      cases hnext'
  | goesOn hnext rest ih =>
    cases h' with
    | ends hnext' =>
      rw [hnext] at hnext'
      cases hnext'
    | goesOn hnext' rest' =>
      rw [hnext] at hnext'
      cases hnext'
      obtain ⟨rfl, rfl⟩ := ih rest'
      exact ⟨rfl, rfl⟩

/-! ## Tries that do not use the signal -/

section Attempts

variable {i : ι} {attempt : Attempt σ ε α} {s s' : Signal ι} {state state' : σ}

/-- The poll with its count of tries. -/
def Ending.counted (e : Ending ι σ ε α) (trace : List (Action ε α)) : Poll ι σ ε α :=
  ⟨e.result, tries trace, e.signal, e.state⟩

omit [DecidableEq ι] in
/-- A try that does not use the signal leaves no deeds there. -/
theorem run_ofAttempt {outcome : Except ε (Option α)} (h : attempt state = (outcome, state')) (s : Signal ι) :
    (Trial.ofAttempt i attempt).run s state = (outcome, [], state') := by
  show ((attempt state).1, _, (attempt state).2) = _
  rw [h]

/-- A turn that is the last one ends the loop. -/
theorem polls_of_turn_ended {poll : Poll ι σ ε α} (h : turn attempt s i state = .ended poll) :
    ∃ trace e, Polls (Trial.ofAttempt i attempt) ⟨.outset, s, state⟩ trace e ∧ e.counted trace = poll := by
  unfold turn at h
  -- By what the try comes to: it ends the loop, or the look behind it does.
  rcases hattempt : attempt state with ⟨(e | _ | a), state'⟩
  · simp only [hattempt] at h
    obtain rfl := Turn.ended.inj h
    exact ⟨_, _, .goesOn next_outset (.ends (next_of_failed (run_ofAttempt hattempt _))), rfl⟩
  · simp only [hattempt] at h
    split at h
    · cases h
    next hover =>
      obtain rfl := Turn.ended.inj h
      have hwaits := next_of_nothing (run_ofAttempt (i := i) hattempt (s.registered i).2)
      have hends : next (Trial.ofAttempt i attempt) ⟨.waiting, (s.registered i).2, state'⟩ = _ :=
        next_of_not_over (Bool.eq_false_iff.mpr hover)
      exact ⟨_, _, .goesOn next_outset (.goesOn hwaits (.ends hends)), rfl⟩
  · simp only [hattempt] at h
    obtain rfl := Turn.ended.inj h
    exact ⟨_, _, .goesOn next_outset (.ends (next_of_found (run_ofAttempt hattempt _))), rfl⟩

/-- After any other turn the loop goes on. -/
theorem polls_of_turn_again (h : turn attempt s i state = .again s' state') {trace : List (Action ε α)}
    {e : Ending ι σ ε α} (rest : Polls (Trial.ofAttempt i attempt) ⟨.outset, s', state'⟩ trace e) :
    Polls (Trial.ofAttempt i attempt) ⟨.outset, s, state⟩
      (.registered (s.spends i) :: .tried (.ok none) :: .looked true :: trace) e := by
  unfold turn at h
  rcases hattempt : attempt state with ⟨(e | _ | a), state''⟩
  · simp only [hattempt] at h
    cases h
  · simp only [hattempt] at h
    split at h
    -- The one turn is three steps: registered, tried in vain, and seen the wake.
    next hover =>
      obtain ⟨rfl, rfl⟩ := Turn.again.inj h
      have hwaits := next_of_nothing (run_ofAttempt (i := i) hattempt (s.registered i).2)
      exact .goesOn next_outset (.goesOn hwaits (.goesOn (next_of_over hover) rest))
    · cases h
  · simp only [hattempt] at h
    cases h

/-- **The loop of a task without a registration is what `turns` says.** The third turn that `turns` has no room for
never comes. -/
theorem polls_turns (free : s.stage i = none) (attempt : Attempt σ ε α) (state : σ) :
    ∃ trace e, Polls (Trial.ofAttempt i attempt) ⟨.outset, s, state⟩ trace e ∧
      e.counted trace = turns attempt s i state := by
  rw [turns]
  cases hfirst : turn attempt s i state with
  | ended poll => exact polls_of_turn_ended hfirst
  | again s' state' =>
    obtain ⟨-, hpermit, hfree⟩ := permit_of_again free hfirst
    obtain ⟨poll, hsecond⟩ : ∃ poll, turn attempt s' i state' = .ended poll := turn_eq_ended hfree hpermit
    obtain ⟨trace, e, hpolls, rfl⟩ := polls_of_turn_ended hsecond
    refine ⟨_, e, polls_of_turn_again hfirst hpolls, ?_⟩
    simp only [hsecond, Ending.counted, tries_registered, tries_tried, tries_looked]

/-- **The loop of a task that waits is what `resume` says.** -/
theorem polls_resume (hregular : s.Regular) (attempt : Attempt σ ε α) (state : σ) :
    ∃ trace e, Polls (Trial.ofAttempt i attempt) ⟨.waiting, s, state⟩ trace e ∧
      e.counted trace = resume attempt s i state := by
  rw [resume]
  cases hover : (s.look true i).1 with
  | true =>
    have hfree := (hregular.look true i).stage_leave i
    obtain ⟨trace, e, hpolls, hcounted⟩ := polls_turns hfree attempt state
    refine ⟨.looked true :: trace, e, .goesOn (next_of_over hover) hpolls, ?_⟩
    simp only [hover, if_true, ← hcounted, Ending.counted, tries_looked]
  | false =>
    refine ⟨[.looked false], _, .ends (next_of_not_over hover), ?_⟩
    simp only [hover, Bool.false_eq_true, if_false]
    rfl

end Attempts

/-! ## Tries that wake nobody -/

/-- Of the tries since the last registration there was one, in vain, and the registration has not been over since. -/
def InVain (history : List (Action ε α)) : Prop :=
  ∃ before looks, history =
    before ++ .registered false :: .tried (.ok none) :: List.replicate (looks + 1) (.looked false)

/-- What came before does not matter for the last registration. -/
theorem InVain.append {trace : List (Action ε α)} (h : InVain trace) (before : List (Action ε α)) :
    InVain (before ++ trace) := by
  obtain ⟨front, looks, rfl⟩ := h
  exact ⟨before ++ front, looks, (List.append_assoc _ _ _).symm⟩

/-- Another look that finds the registration unchanged does not make the last try any less in vain. -/
theorem InVain.looked {history : List (Action ε α)} (h : InVain history) : InVain (history ++ [.looked false]) := by
  obtain ⟨before, looks, rfl⟩ := h
  refine ⟨before, looks + 1, ?_⟩
  rw [List.replicate_succ' (n := looks + 1), List.append_assoc, List.cons_append, List.cons_append]

/-- What is known of a poll that registers at least once. -/
structure Course (i : ι) (trace : List (Action ε α)) (e : Ending ι σ ε α) : Prop where
  regular : e.signal.Regular
  tries_le : tries trace ≤ 2
  spent : tries trace = 2 → (registrations trace).head? = some true
  inVain : e.result = .pending → InVain trace ∧ e.signal.stage i = some (.waiting true)

section Wakeless

variable {i : ι} {t : Trial i σ ε α} {s : Signal ι} {state : σ}

/-- The signal after a try of which nothing came is as it was before, as far as the task can tell. -/
structure Trial.Quieted (s s' : Signal ι) (i : ι) : Prop where
  regular : s'.Regular
  stage : s'.stage i = s.stage i
  permit : s.permit = false → s'.permit = false

/-- A try that wakes nobody leaves the registration of its own task as it was. -/
theorem Trial.Wakeless.quieted (ht : t.Wakeless) (hs : s.Regular) (state : σ) :
    Trial.Quieted s (Deed.runAll s (t.run s state).2.1) i := by
  obtain ⟨hstage, hpermit⟩ := (ht s state).kept (t.spares s state)
  exact ⟨hs.runAll _, hstage, hpermit⟩

/-- Registering uses up a stored wake exactly if there is one. -/
theorem spends_eq (free : s.Free i) : s.spends i = s.permit := by
  rw [spends, free.registered]
  cases hp : s.permit with
  | true => rfl
  | false => rfl

/-- A registration that is over stays so, however often it is looked at. -/
theorem look_of_finished (h : s.stage i = some .finished) : s.look true i = (true, s) := by
  rw [look, h]

/-- A registration that waits goes on waiting, and its owner is to be woken from then on. -/
theorem look_of_waiting {suspended : Bool} (h : s.stage i = some (.waiting suspended)) :
    s.look true i = (false, s.setStage i (some (.waiting true))) := by
  rw [look, h]
  simp only [Bool.or_true]

/-- A try that finds something or fails ends the poll. If it finds nothing, the task comes to its registration with no
wake more than before. -/
theorem tried_cases (ht : t.Wakeless) (hs : s.Regular) (state : σ) :
    (∃ trace e, Polls t ⟨.outset, s, state⟩ trace e ∧ tries trace = 1 ∧ Course i trace e) ∨
      ∃ s' state', next t ⟨.trying, (s.registered i).2, state⟩ = (.tried (.ok none), .inl ⟨.waiting, s', state'⟩) ∧
        Trial.Quieted (s.registered i).2 s' i := by
  have hregistered : (s.registered i).2.Regular := (hs.arm i).look false i
  have hquieted := ht.quieted hregistered state
  rcases hrun : t.run (s.registered i).2 state with ⟨(e | _ | a), ds, state'⟩
  · have hregular := (hregistered.runAll ds).leave i
    exact .inl ⟨_, _, .goesOn next_outset (.ends (next_of_failed hrun)), by simp, hregular, by simp, by simp, nofun⟩
  · rw [hrun] at hquieted
    exact .inr ⟨_, state', next_of_nothing hrun, hquieted⟩
  · have hregular := (hregistered.runAll ds).leave i
    exact .inl ⟨_, _, .goesOn next_outset (.ends (next_of_found hrun)), by simp, hregular, by simp, by simp, nofun⟩

/-- **Where no wake is stored the first turn is the last.** -/
theorem Free.polls_of_no_permit (free : s.Free i) (hs : s.Regular) (ht : t.Wakeless) (hp : s.permit = false)
    (state : σ) : ∃ trace e, Polls t ⟨.outset, s, state⟩ trace e ∧ tries trace = 1 ∧ Course i trace e := by
  rcases tried_cases ht hs state with hends | ⟨s', state', hnext, hquieted⟩
  · exact hends
  · -- The registration waits before the try, and nobody picks it during the try.
    have hregistered : (s.registered i).2 = s.queued i (.waiting false) := by
      rw [free.registered, if_neg (by rw [hp]; exact Bool.false_ne_true)]
    have hstage : s'.stage i = some (.waiting false) := by
      rw [hquieted.stage, hregistered]
      exact setStage_self s i _
    have hlook := look_of_waiting hstage
    -- The look finds no wake, so the poll ends as pending and leaves its registration in the line.
    have hends : next t ⟨.waiting, s', state'⟩ =
        (.looked false, .inr ⟨.pending, s'.setStage i (some (.waiting true)), state'⟩) := by
      rw [next_of_not_over (by rw [hlook]), hlook]
    refine ⟨_, _, .goesOn next_outset (.goesOn hnext (.ends hends)), by simp, ?_, by simp, by simp, fun _ => ⟨?_, ?_⟩⟩
    · exact hquieted.regular.setWaiting ((hquieted.regular.mem_queue i).mpr ⟨false, hstage⟩) true
    · rw [spends_eq free, hp]
      exact ⟨[], 0, rfl⟩
    · exact setStage_self s' i _

/-- **A poll of a task without a registration.** Another turn follows only if a wake was stored, and it is used up
then. -/
theorem Free.polls_of_outset (free : s.Free i) (hs : s.Regular) (ht : t.Wakeless) (state : σ) :
    ∃ trace e, Polls t ⟨.outset, s, state⟩ trace e ∧ Course i trace e := by
  -- A stored wake is seen at the first look, and then the loop goes round once more, with none stored.
  cases hp : s.permit with
  | false =>
    obtain ⟨trace, e, hpolls, -, hcourse⟩ := free.polls_of_no_permit hs ht hp state
    exact ⟨trace, e, hpolls, hcourse⟩
  | true =>
    rcases tried_cases ht hs state with ⟨trace, e, hpolls, -, hcourse⟩ | ⟨s', state', hnext, hquieted⟩
    · exact ⟨trace, e, hpolls, hcourse⟩
    · -- The registration was over at once, and with it the stored wake.
      have hregistered : (s.registered i).2 = s.spent.setStage i (some .finished) := by
        rw [free.registered, if_pos hp]
      have hstage : s'.stage i = some .finished := by
        rw [hquieted.stage, hregistered]
        exact setStage_self s.spent i _
      have hpermit : s'.permit = false := hquieted.permit (by rw [hregistered]; rfl)
      have hlook := look_of_finished hstage
      have hover : next t ⟨.waiting, s', state'⟩ = (.looked true, .inl ⟨.outset, s'.without i, state'⟩) := by
        rw [next_of_over (by rw [hlook]), hlook, leave_of_not_wakes (by rw [hstage]; simp)]
      have hleft := hquieted.regular.without i
      have hfree : (s'.without i).Free i := hleft.free (setStage_self s' i none)
      obtain ⟨trace, e, hpolls, htries, hcourse⟩ := hfree.polls_of_no_permit hleft ht hpermit state'
      refine ⟨_, e, .goesOn next_outset (.goesOn hnext (.goesOn hover hpolls)), hcourse.regular, ?_, fun _ => ?_, ?_⟩
      · simp [htries]
      · rw [spends_eq free, hp]
        rfl
      · intro hpending
        obtain ⟨hvain, hwaits⟩ := hcourse.inVain hpending
        exact ⟨hvain.append [.registered (s.spends i), .tried (.ok none), .looked true], hwaits⟩

/-- A task that was picked begins anew. -/
theorem Regular.polls_of_picked (hs : s.Regular) {by_ : Pick} (hpicked : s.stage i = some (.picked by_))
    (ht : t.Wakeless) (state : σ) : ∃ trace e, Polls t ⟨.waiting, s, state⟩ trace e ∧ Course i trace e := by
  have hlook : s.look true i = (true, s.setStage i (some .finished)) := by rw [Signal.look, hpicked]
  have hleft := (hs.look true i).leave i
  have hfree := hleft.free ((hs.look true i).stage_leave i)
  obtain ⟨trace, e, hpolls, hcourse⟩ := hfree.polls_of_outset hleft ht state
  refine ⟨_, e, .goesOn (next_of_over (by rw [hlook])) hpolls, hcourse.regular, ?_, ?_, fun hpending => ?_⟩
  · rw [tries_looked]
    exact hcourse.tries_le
  · rw [tries_looked]
    exact hcourse.spent
  · obtain ⟨hvain, hwaits⟩ := hcourse.inVain hpending
    exact ⟨hvain.append [.looked true], hwaits⟩

/-- A task that was not picked does not try. -/
theorem polls_of_suspended (hwaits : s.stage i = some (.waiting true)) (t : Trial i σ ε α) (state : σ) :
    Polls t ⟨.waiting, s, state⟩ [.looked false] ⟨.pending, s, state⟩ := by
  have hlook : s.look true i = (false, s) := by rw [look_of_waiting hwaits, setStage_eq_self hwaits]
  refine .ends ?_
  rw [next_of_not_over (by rw [hlook]), hlook]

end Wakeless

/-! ## Whole lives -/

/-- Where the next poll of a task begins after a poll that ended so; nowhere if the task is done. -/
def Ending.entry (e : Ending ι σ ε α) : Option Point :=
  match e.result with
  | .pending => some .waiting
  | .ready _ | .failed _ => none

/-- A task between its polls: the signal, the state, what the task has done so far, and where its next poll begins. -/
structure Life (ι σ ε α : Type) where
  signal : Signal ι
  state : σ
  history : List (Action ε α)
  entry : Option Point

/-- What can become of a task. It is polled whenever somebody likes, and between its polls others do what they like with
the signal, but for its registration, and with the state. -/
inductive Reached {i : ι} (t : Trial i σ ε α) : Life ι σ ε α → Prop where
  | created (state : σ) : Reached t ⟨new, state, [], some .outset⟩
  | done {l : Life ι σ ε α} (h : Reached t l) {d : Deed ι} (hd : d.Spares i) :
      Reached t { l with signal := d.run l.signal }
  | changed {l : Life ι σ ε α} (h : Reached t l) (state : σ) : Reached t { l with state }
  | polled {l : Life ι σ ε α} (h : Reached t l) {p : Point} (hp : l.entry = some p) {trace : List (Action ε α)}
      {e : Ending ι σ ε α} (hpolls : Polls t ⟨p, l.signal, l.state⟩ trace e) :
      Reached t ⟨e.signal, e.state, l.history ++ trace, e.entry⟩

/-- Between its polls a task has not registered, or it waits or has been picked. In the second case it has tried once
since it registered, in vain. -/
structure Kept (i : ι) (l : Life ι σ ε α) : Prop where
  regular : l.signal.Regular
  entry : ∀ p, l.entry = some p →
    (p = .outset ∧ l.signal.stage i = none) ∨
      (p = .waiting ∧ InVain l.history ∧
        (l.signal.stage i = some (.waiting true) ∨ ∃ by_, l.signal.stage i = some (.picked by_)))

variable {i : ι} {t : Trial i σ ε α} {l : Life ι σ ε α}

/-- What others do at the signal can pick a task that waits, and no more than that. -/
theorem Kept.done (hl : Kept i l) {d : Deed ι} (hd : d.Spares i) : Kept i { l with signal := d.run l.signal } where
  regular := hl.regular.run d
  entry p hp := by
    -- Others leave the registration as it is, or pick it while it waits.
    rcases hl.entry p hp with ⟨rfl, hnone⟩ | ⟨rfl, hvain, hstage⟩
    · rcases hl.regular.stage_run hd with hsame | ⟨⟨b, hwaiting⟩, -⟩
      · exact .inl ⟨rfl, hsame.trans hnone⟩
      · rw [hnone] at hwaiting
        cases hwaiting
    · refine .inr ⟨rfl, hvain, ?_⟩
      rcases hl.regular.stage_run hd with hsame | ⟨-, hpicked⟩
      · show (d.run l.signal).stage i = _ ∨ ∃ by_, (d.run l.signal).stage i = _
        rw [hsame]
        exact hstage
      · exact .inr hpicked

/-- **A poll in the course of a life.** It ends, and what it did tells how. -/
theorem Kept.polls (hl : Kept i l) (ht : t.Wakeless) {p : Point} (hp : l.entry = some p) :
    ∃ trace e, Polls t ⟨p, l.signal, l.state⟩ trace e ∧ e.signal.Regular ∧ tries trace ≤ 2 ∧
      (tries trace = 2 → (registrations trace).head? = some true) ∧
      (p = .waiting → (∀ by_, l.signal.stage i ≠ some (.picked by_)) → tries trace = 0) ∧
      (e.result = .pending → InVain (l.history ++ trace) ∧ e.signal.stage i = some (.waiting true)) := by
  rcases hl.entry p hp with ⟨rfl, hnone⟩ | ⟨rfl, hvain, hwaits | ⟨by_, hpicked⟩⟩
  · obtain ⟨trace, e, hpolls, hcourse⟩ := (hl.regular.free hnone).polls_of_outset hl.regular ht l.state
    refine ⟨trace, e, hpolls, hcourse.regular, hcourse.tries_le, hcourse.spent, nofun, fun hpending => ?_⟩
    exact (hcourse.inVain hpending).imp_left fun h => h.append l.history
  · refine ⟨_, _, polls_of_suspended hwaits t l.state, hl.regular, by simp, by simp, fun _ _ => rfl, fun _ => ?_⟩
    exact ⟨hvain.looked, hwaits⟩
  · obtain ⟨trace, e, hpolls, hcourse⟩ := hl.regular.polls_of_picked hpicked ht l.state
    refine ⟨trace, e, hpolls, hcourse.regular, hcourse.tries_le, hcourse.spent, fun _ hnot => ?_, fun hpending => ?_⟩
    · exact absurd hpicked (hnot by_)
    · exact (hcourse.inVain hpending).imp_left fun h => h.append l.history

/-- A poll that is pending leaves the task asleep after a try in vain; any other poll is the last. -/
theorem Kept.polled (hl : Kept i l) (ht : t.Wakeless) {p : Point} (hp : l.entry = some p) {trace : List (Action ε α)}
    {e : Ending ι σ ε α} (hpolls : Polls t ⟨p, l.signal, l.state⟩ trace e) :
    Kept i ⟨e.signal, e.state, l.history ++ trace, e.entry⟩ := by
  obtain ⟨trace', e', hpolls', hregular, -, -, -, hpending⟩ := hl.polls ht hp
  obtain ⟨rfl, rfl⟩ := hpolls.unique hpolls'
  refine ⟨hregular, fun p hp => ?_⟩
  cases hresult : e'.result with
  | pending =>
    obtain ⟨hvain, hwaits⟩ := hpending hresult
    have hentry : e'.entry = some .waiting := by rw [Ending.entry, hresult]
    exact .inr ⟨Option.some.inj (hp.symm.trans hentry), hvain, .inl hwaits⟩
  | ready a =>
    have hentry : e'.entry = none := by rw [Ending.entry, hresult]
    cases hp.symm.trans hentry
  | failed err =>
    have hentry : e'.entry = none := by rw [Ending.entry, hresult]
    cases hp.symm.trans hentry

/-- **What a task is between its polls**, after whatever has happened. -/
theorem Reached.kept (hl : Reached t l) (ht : t.Wakeless) : Kept i l := by
  induction hl with
  | created state => exact ⟨regular_new, fun p hp => .inl ⟨(Option.some.inj hp).symm, rfl⟩⟩
  | done _ hd ih => exact ih.done hd
  | changed _ state ih => exact ⟨ih.regular, ih.entry⟩
  | polled _ hp hpolls ih => exact ih.polled ht hp hpolls

/-- What a poll of a task comes to that does not use the signal. -/
def pollFrom (p : Point) (attempt : Attempt σ ε α) (s : Signal ι) (i : ι) (state : σ) : Poll ι σ ε α :=
  if p = .outset then turns attempt s i state else resume attempt s i state

/-- For a try that does not use the signal, the loop comes to what `turns` and `resume` say. -/
theorem Kept.counted_eq {attempt : Attempt σ ε α} (hl : Kept i l) {p : Point} (hp : l.entry = some p)
    {trace : List (Action ε α)} {e : Ending ι σ ε α}
    (hpolls : Polls (.ofAttempt i attempt) ⟨p, l.signal, l.state⟩ trace e) :
    e.counted trace = pollFrom p attempt l.signal i l.state := by
  rcases hl.entry p hp with ⟨rfl, hnone⟩ | ⟨rfl, -, -⟩
  · obtain ⟨trace', e', hpolls', hcounted⟩ := polls_turns hnone attempt l.state
    obtain ⟨rfl, rfl⟩ := hpolls'.unique hpolls
    rw [pollFrom, if_pos rfl, hcounted]
  · obtain ⟨trace', e', hpolls', hcounted⟩ := polls_resume hl.regular attempt l.state
    obtain ⟨rfl, rfl⟩ := hpolls'.unique hpolls
    rw [pollFrom, if_neg (by simp), hcounted]

/-- **Every poll of a waiting task ends**, after whatever has happened at the signal, if its tries wake nobody:

* there is one course that the loop can take, and it comes to an end;
* the task tries at most twice, and twice only if the first registration that it made in this poll used up a stored
  wake;
* it does not try if it waits and has not been picked;
* if it goes on waiting, its last try found nothing, it registered before that try, and it has not been picked since;
* if its tries do not use the signal at all, all of this is what `turns` and `resume` say. -/
theorem Reached.poll_ends (hl : Reached t l) (ht : t.Wakeless) {p : Point} (hp : l.entry = some p) :
    ∃ trace e, Polls t ⟨p, l.signal, l.state⟩ trace e ∧
      (∀ trace' e', Polls t ⟨p, l.signal, l.state⟩ trace' e' → trace' = trace ∧ e' = e) ∧
      tries trace ≤ 2 ∧
      (tries trace = 2 → (registrations trace).head? = some true) ∧
      (p = .waiting → (∀ by_, l.signal.stage i ≠ some (.picked by_)) → tries trace = 0) ∧
      (e.result = .pending → InVain (l.history ++ trace) ∧ e.signal.stage i = some (.waiting true)) ∧
      ∀ attempt, t = .ofAttempt i attempt → e.counted trace = pollFrom p attempt l.signal i l.state := by
  have hkept := hl.kept ht
  obtain ⟨trace, e, hpolls, -, htries, hspent, hidle, hpending⟩ := hkept.polls ht hp
  refine ⟨trace, e, hpolls, fun _ _ => hpolls.unique, htries, hspent, hidle, hpending, ?_⟩
  rintro attempt rfl
  exact hkept.counted_eq hp hpolls

/-- Finds a positive number, and looks at a registration of its own while it is at it. -/
def peeking : Trial 0 Nat Empty Nat where
  run _ n := (.ok (if 0 < n then some n else none), [.look false 1], n)
  spares _ _ d hd := by
    obtain rfl := List.mem_singleton.mp hd
    exact Nat.one_ne_zero

theorem wakeless_peeking : peeking.Wakeless := fun _ _ => ⟨id, trivial⟩

/-- A wake came before anybody waited for it. -/
def earlyWake : Life Nat Nat Empty Nat :=
  ⟨Deed.runAll new [.arm 1, .wakeOne], 0, [], some .outset⟩

theorem reached_earlyWake : Reached peeking earlyWake :=
  .done (.done (.created 0) (d := .arm 1) Nat.one_ne_zero) (d := .wakeOne) trivial

/-- What the task does when it is polled first. -/
def firstTrace : List (Action Empty Nat) :=
  [.registered true, .tried (.ok none), .looked true, .registered false, .tried (.ok none), .looked false]

/-- The poll that finds a stored wake tries twice; the next one, with no wake in between, does not try at all. -/
theorem poll_ends_earlyWake :
    ∃ e, Polls peeking ⟨.outset, earlyWake.signal, 0⟩ firstTrace e ∧ tries firstTrace = 2 ∧
      (registrations firstTrace).head? = some true ∧ e.result = .pending ∧ InVain firstTrace ∧
      ∃ trace e', Polls peeking ⟨.waiting, e.signal, e.state⟩ trace e' ∧ tries trace = 0 := by
  obtain ⟨trace, e, hpolls, hunique, -, hspent, -, hpending, -⟩ :=
    reached_earlyWake.poll_ends wakeless_peeking (p := .outset) rfl
  have hfirst : ∃ e, Polls peeking ⟨.outset, earlyWake.signal, 0⟩ firstTrace e ∧ e.result = .pending :=
    ⟨_, .goesOn rfl (.goesOn rfl (.goesOn rfl (.goesOn rfl (.goesOn rfl (.ends rfl))))), rfl⟩
  obtain ⟨e', hpolls', hresult⟩ := hfirst
  obtain ⟨rfl, rfl⟩ := hunique _ _ hpolls'
  obtain ⟨hvain, hwaits⟩ := hpending hresult
  have hentry : e'.entry = some .waiting := by rw [Ending.entry, hresult]
  obtain ⟨trace, e'', hlater, -, -, -, hidle, -⟩ :=
    (Reached.polled reached_earlyWake rfl hpolls').poll_ends wakeless_peeking hentry
  refine ⟨e', hpolls', rfl, hspent rfl, hresult, hvain, trace, e'', hlater, hidle rfl fun by_ => ?_⟩
  show e'.signal.stage 0 ≠ _
  rw [hwaits]
  simp

/-! ## Tries that wake -/

/-- Wakes the task itself, which waits for nothing in particular. -/
def waking : Trial 0 Unit Empty Unit where
  run _ _ := (.ok none, [.wakeOne], ())
  spares _ _ d hd := by
    obtain rfl := List.mem_singleton.mp hd
    trivial

/-- The signal when such a task has registered, and when it has woken itself. -/
def wakingSignal : Signal Nat := (registered new 0).2

def wokenSignal : Signal Nat := Deed.runAll wakingSignal [.wakeOne]

/-- Having woken itself, such a task stands picked, with nobody in the queue. -/
theorem wokenSignal_eq : wokenSignal = new.setStage 0 (some (.picked .single)) := by
  have hwaits : wakingSignal = new.queued 0 (.waiting false) :=
    congrArg Prod.snd (regular_new.free (i := 0) rfl).registered
  have hwoken : wokenSignal = (new.queued 0 (.waiting false)).pickedFirst 0 [] := by
    rw [wokenSignal, hwaits]
    exact wakeOne_of_cons rfl
  have hstage := congrArg stage (setStage_setStage new 0 (some (.waiting false)) (some (.picked .single)))
  rw [hwoken]
  exact Signal.ext rfl rfl hstage rfl

/-- A turn of such a task leaves the signal as it was. -/
theorem next_waking_woken : next waking ⟨.waiting, wokenSignal, ()⟩ = (.looked true, .inl ⟨.outset, new, ()⟩) := by
  have hlook : wokenSignal.look true 0 = (true, new.setStage 0 (some .finished)) := by
    rw [wokenSignal_eq, look, setStage_self, setStage_setStage]
  have hleave : ((new.setStage 0 (some .finished) : Signal Nat).leave 0).1 = new := by
    rw [leave_eq, setStage_self, if_neg (by simp), without_setStage, without_of_not_mem List.not_mem_nil]
    exact setStage_eq_self rfl
  rw [next_of_over (by rw [hlook]), hlook, hleave]

/-- **A poll of a task that wakes itself never ends.** -/
theorem not_polls_waking (trace : List (Action Empty Unit)) (e : Ending Nat Unit Empty Unit) :
    ¬ Polls waking ⟨.outset, new, ()⟩ trace e := by
  -- None of the moments that the task goes through again and again has an end.
  have hnever : ∀ m trace e, Polls waking m trace e →
      m ≠ ⟨.outset, new, ()⟩ ∧ m ≠ ⟨.trying, wakingSignal, ()⟩ ∧ m ≠ ⟨.waiting, wokenSignal, ()⟩ := by
    intro m trace e h
    induction h with
    | ends hnext =>
      refine ⟨?_, ?_, ?_⟩
      · rintro rfl
        cases hnext
      · rintro rfl
        cases hnext
      · rintro rfl
        rw [next_waking_woken] at hnext
        cases hnext
    | goesOn hnext _ ih =>
      obtain ⟨houtset, htrying, hwaiting⟩ := ih
      refine ⟨?_, ?_, ?_⟩
      · rintro rfl
        cases hnext
        exact htrying rfl
      · rintro rfl
        cases hnext
        exact hwaiting rfl
      · rintro rfl
        rw [next_waking_woken] at hnext
        cases hnext
        exact houtset rfl
  exact fun h => (hnever _ _ _ h).1 rfl

/-! ## Other tasks -/

/-- The signal after one thing that a task does. -/
def signalAfter : Moment ι σ ⊕ Ending ι σ ε α → Signal ι
  | .inl m => m.signal
  | .inr e => e.signal

/-- What a task does at the signal is done with its own registration, but for what its tries do there. -/
theorem next_deeds {j : ι} {u : Trial j σ ε α} (hj : j ≠ i)
    (hu : ∀ s state, ∀ d ∈ (u.run s state).2.1, d.Spares i) (m : Moment ι σ) :
    ∃ ds : List (Deed ι), (∀ d ∈ ds, d.Spares i) ∧ signalAfter (next u m).2 = Deed.runAll m.signal ds := by
  obtain ⟨p, s, state⟩ := m
  -- By the place in the loop: each move is a few deeds, all in the name of the task that moves or of its test.
  cases p with
  | outset => exact ⟨[.arm j, .look false j], by simp [Deed.Spares, hj], rfl⟩
  | trying =>
    have hspares := hu s state
    have hleave : ∀ d ∈ [Deed.leave j], d.Spares i := by simp [Deed.Spares, hj]
    rcases hrun : u.run s state with ⟨(e | _ | a), ds, state'⟩
    · rw [hrun] at hspares
      rw [next_of_failed hrun]
      exact ⟨ds ++ [Deed.leave j], List.forall_mem_append.mpr ⟨hspares, hleave⟩,
        (Deed.runAll_append s ds [Deed.leave j]).symm⟩
    · rw [hrun] at hspares
      rw [next_of_nothing hrun]
      exact ⟨ds, hspares, rfl⟩
    · rw [hrun] at hspares
      rw [next_of_found hrun]
      exact ⟨ds ++ [Deed.leave j], List.forall_mem_append.mpr ⟨hspares, hleave⟩,
        (Deed.runAll_append s ds [Deed.leave j]).symm⟩
  | waiting =>
    cases hover : (s.look true j).1 with
    | true =>
      rw [next_of_over hover]
      exact ⟨[.look true j, .leave j], by simp [Deed.Spares, hj], rfl⟩
    | false =>
      rw [next_of_not_over hover]
      exact ⟨[.look true j], by simp [Deed.Spares, hj], rfl⟩

/-- A whole poll of another task is so many deeds that spare this one. -/
theorem Polls.exists_deeds {j : ι} {u : Trial j σ ε α} {m : Moment ι σ} {trace : List (Action ε α)}
    {e : Ending ι σ ε α} (h : Polls u m trace e) (hj : j ≠ i)
    (hu : ∀ s state, ∀ d ∈ (u.run s state).2.1, d.Spares i) :
    ∃ ds : List (Deed ι), (∀ d ∈ ds, d.Spares i) ∧ e.signal = Deed.runAll m.signal ds := by
  induction h with
  | @ends m a e hnext =>
    obtain ⟨ds, hspares, hsignal⟩ := next_deeds hj hu m
    rw [hnext] at hsignal
    exact ⟨ds, hspares, hsignal⟩
  | @goesOn m m' a trace e hnext _ ih =>
    obtain ⟨ds, hspares, hsignal⟩ := next_deeds hj hu m
    obtain ⟨more, hmore, hend⟩ := ih
    rw [hnext] at hsignal
    refine ⟨ds ++ more, List.forall_mem_append.mpr ⟨hspares, hmore⟩, ?_⟩
    rw [hend, Deed.runAll_append, ← hsignal]
    rfl

/-- Others may do as many deeds as they like between two polls. -/
theorem Reached.doneAll (hl : Reached t l) {ds : List (Deed ι)} (hds : ∀ d ∈ ds, d.Spares i) :
    Reached t { l with signal := Deed.runAll l.signal ds } := by
  induction ds generalizing l with
  | nil => exact hl
  | cons d ds ih =>
    obtain ⟨hd, hrest⟩ := List.forall_mem_cons.mp hds
    exact ih (hl.done hd) hrest

/-- **The polls of other tasks are among what others do**, from wherever in its loop another task is polled. -/
theorem Reached.polled_other (hl : Reached t l) {j : ι} {u : Trial j σ ε α} (hj : j ≠ i)
    (hu : ∀ s state, ∀ d ∈ (u.run s state).2.1, d.Spares i) {p : Point} {trace : List (Action ε α)}
    {e : Ending ι σ ε α} (h : Polls u ⟨p, l.signal, l.state⟩ trace e) :
    Reached t { l with signal := e.signal, state := e.state } := by
  obtain ⟨ds, hspares, hsignal⟩ := h.exists_deeds hj hu
  rw [hsignal]
  exact (hl.doneAll hspares).changed e.state

end HttpService.Wait.Signal
