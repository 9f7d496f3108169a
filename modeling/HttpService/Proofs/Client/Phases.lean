import Mathlib.Data.List.Induction
import HttpService.Proofs.Client.Submission

/-!
# The cycle of a session

A session is looked at between its calls. Then its phase tells what its fields hold, and whether an exchange was left in
the middle.

* `ClientSession.Consistent` — the fields agree with the phase. Every call keeps this.
* `ClientCall.waiting_perform_iff` — the one call that leaves a session `waiting` is a submission that does not come to
  its end. After it, exchanges change nothing.
* `ClientCall.cycle_performAll` — so it is after every run.
-/

namespace HttpService

namespace ClientSession

/-- The fields agree with the phase. There is a connection unless the session is disconnected, and then nothing of one
is left. -/
structure Consistent (s : ClientSession Link) : Prop where
  disconnected_iff : s.phase = .disconnected ↔ s.stream = none
  bare : s.phase = .disconnected → s.buffer = [] ∧ s.peer = none ∧ s.host = none
  whole : s.phase = .ready ∨ s.phase = .waiting → s.stream.isSome ∧ s.peer.isSome ∧ s.host.isSome
  not_done : s.phase ≠ .done

/-- A session that was never started has nothing of a connection. -/
theorem consistent_new : (new : ClientSession Link).Consistent := by
  refine ⟨iff_of_true rfl rfl, fun _ => ⟨rfl, rfl, rfl⟩, ?_, ClientPhase.noConfusion⟩
  rintro (h | h)
  · cases h
  · cases h

/-- With a connection, a peer and a host, a session may be ready or waiting. -/
theorem consistent_of_isSome {phase : ClientPhase} (hphase : phase = .ready ∨ phase = .waiting) (link : Link)
    (buffer : Octets) {host : Option FieldValue} {peer : Option Address} (hpeer : peer.isSome) (hhost : host.isSome) :
    (⟨phase, some link, buffer, host, peer⟩ : ClientSession Link).Consistent := by
  have hconnected : phase ≠ .disconnected ∧ phase ≠ .done := by
    rcases hphase with rfl | rfl
    · exact ⟨ClientPhase.noConfusion, ClientPhase.noConfusion⟩
    · exact ⟨ClientPhase.noConfusion, ClientPhase.noConfusion⟩
  exact ⟨iff_of_false hconnected.1 (Option.some_ne_none _), fun h => absurd h hconnected.1,
    fun _ => ⟨rfl, hpeer, hhost⟩, hconnected.2⟩

variable {limits : Limits} {s : ClientSession Link} {r : Request} {p : Patience} {o : Outcome Response}

/-- A submission keeps the fields in agreement, in whichever of the four ways it ends. -/
theorem Consistent.submitted (hs : s.Consistent) (h : Submitted limits s r p o) : o.1.Consistent := by
  cases h with
  | refused hrefuses => exact hs
  | lost hready hfault => exact consistent_new
  | answered hready hlink hread =>
    obtain ⟨-, hpeer, hhost⟩ := hs.whole (.inl hready)
    unfold answered
    split
    · exact consistent_new
    · exact consistent_of_isSome (.inl rfl) _ _ hpeer hhost
  | unfinished hready hlink hwhy =>
    obtain ⟨-, hpeer, hhost⟩ := hs.whole (.inl hready)
    exact consistent_of_isSome (.inr rfl) _ _ hpeer hhost

/-- An exchange that fails, and not for the status of its response, leaves no connection. -/
theorem Consistent.disconnected_of_error (hs : s.Consistent) (h : Submitted limits s r p o) {e : Error}
    (herror : o.2.2 = some (.error e)) (hbusy : e ≠ .sessionBusy) (hstatus : ∀ status body, e ≠ .status status body) :
    o.1.phase = .disconnected := by
  cases h with
  | refused hrefuses =>
    obtain rfl := Except.error.inj (Option.some.inj herror)
    -- A session that says it is ready has a stream, so only one without a connection refuses for that.
    rcases begin?_eq_error hrefuses with ⟨hsame, -⟩ | ⟨-, hphase | ⟨hphase, hstream⟩⟩
    · exact absurd hsame hbusy
    · exact hphase
    · exact hs.disconnected_iff.mpr hstream
  | lost hready hfault => rfl
  | @answered link out head text left reads hready hlink hread =>
    have hjudged : judged (head.withBody text) = .error e := Option.some.inj herror
    unfold judged at hjudged
    split at hjudged
    · cases hjudged
    · exact absurd (Except.error.inj hjudged).symm (hstatus _ _)
  | unfinished hready hlink hwhy => cases herror

/-- In the middle of an exchange a session refuses every other. -/
theorem submit_of_waiting (h : s.phase = .waiting) (limits : Limits) (r : Request) (p : Patience) :
    s.submit limits r p = (s, [], some (.error .sessionBusy)) :=
  submit_of_refused (by rw [begin?, h]) limits p

/-- A submission that does not come to its end leaves the session waiting, and for one of two reasons. -/
theorem Submitted.of_none (h : Submitted limits s r p o) (hnone : o.2.2 = none) :
    o.1.phase = .waiting ∧ (p ≠ .endless ∨ s.BreaksOff limits r) := by
  cases h with
  | unfinished hready hlink hwhy => exact ⟨rfl, hwhy⟩
  | _ => cases hnone

/-- Only such a submission leaves a ready session in the middle of an exchange. -/
theorem Submitted.none_of_waiting (h : Submitted limits s r p o) (hwaiting : o.1.phase = .waiting) :
    s.phase = .waiting ∨ (s.phase = .ready ∧ o.2.2 = none) := by
  cases h with
  | refused hrefuses => exact .inl hwaiting
  | lost hready hfault => cases hwaiting
  | answered hready hlink hread =>
    unfold ClientSession.answered at hwaiting
    split at hwaiting
    · cases hwaiting
    · cases hwaiting
  | unfinished hready hlink hwhy => exact .inr ⟨hready, rfl⟩

/-- The second of these takes a limit of almost the largest count. -/
theorem BreaksOff.limit (h : s.BreaksOff limits r) : countBound ≤ limits.body + 2 := by
  obtain ⟨link, -, hover⟩ := h
  have hexpected := Reader.expected_read (.response r.method) limits s.buffer link.reads
  rw [hover] at hexpected
  exact hexpected

end ClientSession

/-! ## Runs -/

namespace ClientCall

open ClientSession

/-- On this session the call submits a request and does not come to its end: its caller does not wait for that, or the
reader breaks off, at a limit of almost the largest count. -/
def LeavesOpen (limits : Limits) (s : ClientSession Link) (c : ClientCall) : Prop :=
  ∃ r p, c.submission? = some (r, p) ∧ s.phase = .ready ∧ (s.submit limits r p).2.2 = none ∧
    (p ≠ .endless ∨ (s.BreaksOff limits r ∧ countBound ≤ limits.body + 2))

variable {limits : Limits} {s : ClientSession Link} {c : ClientCall}

/-- Only an exchange submits anything. -/
theorem submission?_of_not_isExchange (h : ¬ c.isExchange) : c.submission? = none := by
  cases c with
  | submit => exact absurd rfl h
  | get => exact absurd rfl h
  | _ => rfl

/-- After a submission a session waits if it did before, or if this one was left open. -/
theorem waiting_submit_iff {r : Request} {p : Patience} (hc : c.submission? = some (r, p)) :
    (s.submit limits r p).1.phase = .waiting ↔ s.phase = .waiting ∨ c.LeavesOpen limits s := by
  have hsubmitted := submitted_submit limits s r p
  constructor
  · intro hwaiting
    rcases hsubmitted.none_of_waiting hwaiting with hbefore | ⟨hready, hnone⟩
    · exact .inl hbefore
    · refine .inr ⟨r, p, hc, hready, hnone, ?_⟩
      exact (hsubmitted.of_none hnone).2.imp_right fun hbreaks => ⟨hbreaks, hbreaks.limit⟩
  · rintro (hbefore | ⟨r', p', hc', -, hnone, -⟩)
    · rw [submit_of_waiting hbefore]
      exact hbefore
    · obtain ⟨rfl, rfl⟩ := Prod.mk.inj (Option.some.inj (hc.symm.trans hc'))
      exact (hsubmitted.of_none hnone).1

/-- **What a call leaves in the middle of an exchange**: a session that was there, if it is an exchange itself, or one
on which it does not come to its end. -/
theorem waiting_perform_iff :
    (c.perform limits s).phase = .waiting ↔ (c.isExchange ∧ s.phase = .waiting) ∨ c.LeavesOpen limits s := by
  by_cases hc : c.isExchange
  · rw [perform_of_isExchange hc]
    cases hsubmission : c.submission? with
    | none =>
      -- A target that is none is refused before the session is looked at.
      constructor
      · exact fun hwaiting => .inl ⟨hc, hwaiting⟩
      · rintro (⟨-, hwaiting⟩ | ⟨r, p, hsome, -⟩)
        · exact hwaiting
        · rw [hsubmission] at hsome
          cases hsome
    | some submission =>
      refine (waiting_submit_iff hsubmission).trans (or_congr_left ?_)
      exact (and_iff_right hc).symm
  · -- The other calls leave a session disconnected or ready.
    refine iff_of_false ?_ ?_
    · rcases perform_of_not_isExchange hc limits s with hnew | ⟨link, host, peer, hopened⟩
      · rw [hnew]
        exact ClientPhase.noConfusion
      · rw [hopened]
        exact ClientPhase.noConfusion
    · rintro (⟨hc', -⟩ | ⟨r, p, hsome, -⟩)
      · exact hc hc'
      · rw [submission?_of_not_isExchange hc] at hsome
        cases hsome

/-- Every call keeps the fields in agreement. -/
theorem consistent_perform (hs : s.Consistent) (c : ClientCall) : (c.perform limits s).Consistent := by
  by_cases hc : c.isExchange
  · rw [perform_of_isExchange hc]
    cases c.submission? with
    | none => exact hs
    | some submission => exact hs.submitted (submitted_submit limits s submission.1 submission.2)
  · rcases perform_of_not_isExchange hc limits s with hnew | ⟨link, host, peer, hopened⟩
    · rw [hnew]
      exact consistent_new
    · rw [hopened]
      exact consistent_of_isSome (.inl rfl) link [] rfl rfl

theorem performAll_append_singleton (limits : Limits) (s : ClientSession Link) (calls : List ClientCall)
    (c : ClientCall) : performAll limits s (calls ++ [c]) = c.perform limits (performAll limits s calls) := by
  rw [performAll, List.foldl_append]
  rfl

/-- So the fields agree after every run, by induction on the calls, the last one first. -/
theorem consistent_performAll (limits : Limits) (calls : List ClientCall) :
    (performAll limits .new calls).Consistent := by
  induction calls using List.reverseRecOn with
  | nil => exact consistent_new
  | append_singleton calls c ih =>
    rw [performAll_append_singleton]
    exact consistent_perform ih c

/-- Some call of the run did not come to its end, and all calls after it are exchanges. -/
def LeftOpen (limits : Limits) (calls : List ClientCall) : Prop :=
  ∃ before c after, calls = before ++ c :: after ∧ c.LeavesOpen limits (performAll limits .new before) ∧
    ∀ c' ∈ after, c'.isExchange

/-- A submission is left open by the last call, or by one before it and the last one is an exchange, which cannot help
it. -/
theorem leftOpen_append_singleton_iff (calls : List ClientCall) (c : ClientCall) :
    LeftOpen limits (calls ++ [c]) ↔
      (c.isExchange ∧ LeftOpen limits calls) ∨ c.LeavesOpen limits (performAll limits .new calls) := by
  constructor
  · rintro ⟨before, c₀, after, hcalls, hopen, hafter⟩
    -- The call that was added is the last of those after, or there are none of them.
    rcases List.eq_nil_or_concat after with rfl | ⟨after, c', rfl⟩
    · obtain ⟨rfl, hlast⟩ := List.append_inj' hcalls rfl
      obtain rfl := (List.cons.inj hlast).1
      exact .inr hopen
    · rw [List.concat_eq_append, ← List.cons_append, ← List.append_assoc] at hcalls
      obtain ⟨rfl, hlast⟩ := List.append_inj' hcalls rfl
      obtain rfl := (List.cons.inj hlast).1
      rw [List.concat_eq_append] at hafter
      refine .inl ⟨hafter c (List.mem_append_right _ List.mem_cons_self), before, c₀, after, rfl, hopen, ?_⟩
      exact fun c' hc' => hafter c' (List.mem_append_left _ hc')
  · rintro (⟨hc, before, c₀, after, rfl, hopen, hafter⟩ | hopen)
    · refine ⟨before, c₀, after ++ [c], by rw [List.append_assoc, List.cons_append], hopen, fun c' hc' => ?_⟩
      rcases List.mem_append.mp hc' with hmem | hmem
      · exact hafter c' hmem
      · obtain rfl := List.mem_singleton.mp hmem
        exact hc
    · exact ⟨calls, c, [], rfl, hopen, fun c' hc' => absurd hc' List.not_mem_nil⟩

/-- The phase tells of a submission left open, and of nothing else: by induction along the run. -/
theorem waiting_performAll_iff (limits : Limits) (calls : List ClientCall) :
    (performAll limits .new calls).phase = .waiting ↔ LeftOpen limits calls := by
  induction calls using List.reverseRecOn with
  | nil =>
    refine iff_of_false ClientPhase.noConfusion ?_
    rintro ⟨before, c, after, hcalls, -⟩
    exact List.append_ne_nil_of_right_ne_nil before (List.cons_ne_nil c after) hcalls.symm
  | append_singleton calls c ih =>
    rw [performAll_append_singleton, waiting_perform_iff, leftOpen_append_singleton_iff, ih]

/-- In the middle of an exchange every other changes nothing. -/
theorem performAll_of_waiting (hs : s.phase = .waiting) {calls : List ClientCall} (h : ∀ c ∈ calls, c.isExchange) :
    performAll limits s calls = s := by
  induction calls with
  | nil => rfl
  | cons c calls ih =>
    have hsame : c.perform limits s = s := by
      rw [perform_of_isExchange (h c List.mem_cons_self)]
      cases c.submission? with
      | none => rfl
      | some submission => exact congrArg Prod.fst (submit_of_waiting hs limits submission.1 submission.2)
    rw [performAll, List.foldl_cons, hsame]
    exact ih fun c' hc' => h c' (List.mem_cons_of_mem c hc')

/-- **The cycle of a session.** After every run the fields agree with the phase. The session is in the middle of an
exchange exactly if some submission did not come to its end and only exchanges came after it. Then every submission is
refused and changes nothing, however many there are, until a call connects the session anew or stops it. And a
submission that fails, neither refused for that nor for the status of its response, leaves no connection. -/
theorem cycle_performAll (limits : Limits) (calls : List ClientCall) :
    let s := performAll limits .new calls
    s.Consistent ∧
      (s.phase = .waiting ↔ LeftOpen limits calls) ∧
      (s.phase = .waiting →
        (∀ later, (∀ c ∈ later, c.isExchange) → performAll limits s later = s) ∧
          (∀ r p, s.submit limits r p = (s, [], some (.error .sessionBusy))) ∧
          ∀ c : ClientCall, ¬ c.isExchange → (c.perform limits s).phase ≠ .waiting) ∧
      ∀ r p e, (s.submit limits r p).2.2 = some (.error e) → e ≠ .sessionBusy →
        (∀ status body, e ≠ .status status body) → (s.submit limits r p).1.phase = .disconnected := by
  intro s
  have hs : s.Consistent := consistent_performAll limits calls
  refine ⟨hs, waiting_performAll_iff limits calls, fun hwaiting => ⟨?_, ?_, ?_⟩, ?_⟩
  · exact fun later => performAll_of_waiting hwaiting
  · exact submit_of_waiting hwaiting limits
  · intro c hc hafter
    -- A call that is no exchange begins anew, so nothing waits behind it.
    rcases waiting_perform_iff.mp hafter with ⟨hc', -⟩ | ⟨r, p, -, hready, -⟩
    · exact hc hc'
    · rw [hwaiting] at hready
      cases hready
  · exact fun r p e => hs.disconnected_of_error (submitted_submit limits s r p)

/-- A request for the root. -/
def rootRequest : Request := ⟨.get, .ofPath ⟨"/", none⟩, .http11, .empty, ""⟩

/-- Connecting to a peer that brings these reads. -/
def connecting (reads : List Read) : ClientCall :=
  .startAddress ⟨.four 127 0 0 1, 8080, 0⟩ (.connected ⟨reads, ⟨[], []⟩⟩)

/-- Of the response only what the first read brings was waited for. -/
def givenUp : List ClientCall :=
  [connecting [.data (octets "HTTP/1.1 200"), .data (octets " OK\r\n\r\n")], .submit rootRequest (.reading 1)]

def someLeftOpen : ClientSession Link := performAll .standard .new givenUp

def someConnected : ClientSession Link := performAll .standard .new [connecting []]

/-- Of a submission whose caller does not wait for the response, and of one on a connection that is at its end. -/
theorem cycle_performAll_givenUp :
    (someLeftOpen.phase = .waiting ∧ LeftOpen .standard givenUp ∧
        performAll .standard someLeftOpen [.submit rootRequest .endless] = someLeftOpen ∧
        someLeftOpen.submit .standard rootRequest .endless = (someLeftOpen, [], some (.error .sessionBusy)) ∧
        ((stop none).perform .standard someLeftOpen).phase ≠ .waiting) ∧
      (someConnected.submit .standard rootRequest .endless).2.2 = some (.error .endOfStream) ∧
        (someConnected.submit .standard rootRequest .endless).1.phase = .disconnected := by
  have hrun := cycle_performAll .standard givenUp
  have hconnected := cycle_performAll .standard [connecting []]
  rw [← someLeftOpen] at hrun
  rw [← someConnected] at hconnected
  have hwaiting : someLeftOpen.phase = .waiting := by decide
  have herror : (someConnected.submit .standard rootRequest .endless).2.2 = some (.error .endOfStream) := by rfl
  obtain ⟨hsame, hrefused, hanew⟩ := hrun.2.2.1 hwaiting
  refine ⟨⟨hwaiting, hrun.2.1.mp hwaiting, hsame _ (by decide), hrefused _ _, hanew _ (by decide)⟩, herror, ?_⟩
  exact hconnected.2.2.2 _ _ _ herror (by decide) fun status body => Error.noConfusion

end ClientCall

end HttpService
