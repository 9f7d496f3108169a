import HttpService.Proofs.Client.Phases
import HttpService.Proofs.Wire.Spelled

/-!
# Fresh and stale responses

A session keeps what it has not used of what has arrived, and the next response begins with that. So a response is made
of octets that arrived after its request was sent exactly if nothing was kept.

* `ClientLedger` — a session with the octets that its connection has brought, and those of them that were taken.
* `ClientLedger.balanced_perform` — of a ready session what was brought and not taken is in the buffer.
* `ClientLedger.fresh_iff` — whatever is called and whatever the peers send, a response that a caller is told of is
  spelled by the octets that come next, and all of these are new exactly if all that had been brought before was taken.
-/

namespace HttpService

open ClientSession

/-- A session, the octets that its connection has brought, and those of them that were taken for responses. -/
structure ClientLedger where
  session : ClientSession Link
  received : Octets
  taken : Octets

namespace ClientLedger

/-- The octets of the reads that are gone. -/
def arrived (link link' : Link) : Octets :=
  (link.reads.take (link.reads.length - link'.reads.length)).flatMap Read.octets

/-- The ledger when a session has come to another on its connection. What is taken is what was there and is not left. -/
def moved (l : ClientLedger) (s : ClientSession Link) : ClientLedger :=
  match l.session.stream, s.stream with
  | some link, some link' =>
    let held := l.session.buffer ++ arrived link link'
    ⟨s, l.received ++ arrived link link', l.taken ++ held.take (held.length - s.buffer.length)⟩
  | _, _ => ⟨s, [], []⟩

/-- The ledger after a call. A call that is no exchange ends the connection and the account of it. -/
def perform (limits : Limits) (l : ClientLedger) (c : ClientCall) : ClientLedger :=
  if c.isExchange then l.moved (c.perform limits l.session) else ⟨c.perform limits l.session, [], []⟩

/-- The ledger of a run. -/
def run (limits : Limits) (calls : List ClientCall) : ClientLedger := calls.foldl (perform limits) ⟨.new, [], []⟩

/-- What was brought and not taken is in the buffer of a ready session. -/
def Balanced (l : ClientLedger) : Prop := l.session.phase = .ready → l.received = l.taken ++ l.session.buffer

variable {limits : Limits} {l : ClientLedger}

theorem session_moved (l : ClientLedger) (s : ClientSession Link) : (l.moved s).session = s := by
  unfold moved
  split
  · rfl
  · rfl

/-- Keeping a ledger does not change what a call does. -/
theorem session_perform (limits : Limits) (l : ClientLedger) (c : ClientCall) :
    (l.perform limits c).session = c.perform limits l.session := by
  unfold perform
  split
  · exact session_moved l _
  · rfl

/-- What a move took of the connection is read off its two ends: the reads that are gone, and what is left of them. -/
theorem moved_of_append {s : ClientSession Link} {link link' : Link} {before : List Read} {used : Octets}
    (hlink : l.session.stream = some link) (hlink' : s.stream = some link')
    (hreads : link.reads = before ++ link'.reads)
    (hused : l.session.buffer ++ before.flatMap Read.octets = used ++ s.buffer) :
    l.moved s = ⟨s, l.received ++ before.flatMap Read.octets, l.taken ++ used⟩ := by
  have harrived : arrived link link' = before.flatMap Read.octets := by
    rw [arrived, hreads, List.length_append, Nat.add_sub_cancel, List.take_left]
  unfold moved
  simp only [hlink, hlink', harrived, hused, List.length_append, Nat.add_sub_cancel, List.take_left]

/-- A call that leaves the session as it is leaves the account as it is. -/
theorem balanced_moved_self (hs : l.session.Consistent) (hl : l.Balanced) : (l.moved l.session).Balanced := by
  intro hready
  rw [session_moved] at hready
  -- Nothing is brought and nothing taken. A ready session has a stream, so its account goes on.
  obtain ⟨link, hlink⟩ := Option.isSome_iff_exists.mp (hs.whole (.inl hready)).1
  have hreads : link.reads = [] ++ link.reads := rfl
  have hused : l.session.buffer ++ [].flatMap Read.octets = [] ++ l.session.buffer := List.append_nil _
  rw [moved_of_append hlink hlink hreads hused]
  simpa using hl hready

/-- Only a session that is ready for a request has to balance. -/
theorem balanced_of_not_ready {s : ClientSession Link} (h : s.phase ≠ .ready) : (l.moved s).Balanced := by
  intro hready
  rw [session_moved] at hready
  exact absurd hready h

/-- **What a submission leaves is in balance again.** -/
theorem balanced_submitted (hs : l.session.Consistent) (hl : l.Balanced) {r : Request} {p : Patience}
    {o : Outcome Response} (h : Submitted limits l.session r p o) : (l.moved o.1).Balanced := by
  cases h with
  | refused hrefuses => exact balanced_moved_self hs hl
  | lost hready hfault => exact balanced_of_not_ready ClientPhase.noConfusion
  | @answered link out head text left reads hready hlink hread =>
    unfold answered
    split
    · exact balanced_of_not_ready ClientPhase.noConfusion
    · -- What was in the buffer and what arrived falls into what the response took and what is left.
      obtain ⟨before, used, hreads, hused, -⟩ :=
        Reader.exists_spells_of_message Head.complete_responseHead (congrArg ReadResult.how hread)
      rw [hread] at hreads hused
      intro _
      rw [moved_of_append hlink rfl hreads hused]
      show l.received ++ before.flatMap Read.octets = l.taken ++ used ++ left
      rw [hl hready, List.append_assoc, hused, List.append_assoc]
  | unfinished hready hlink hwhy => exact balanced_of_not_ready ClientPhase.noConfusion

/-- The step: an exchange enters what it read, and what it took of that for a response. -/
theorem balanced_perform (hs : l.session.Consistent) (hl : l.Balanced) (c : ClientCall) :
    (l.perform limits c).Balanced := by
  unfold perform
  split
  -- A call that is no exchange leaves no stream or a new one, on which nothing has been received.
  next hc =>
    rw [ClientCall.perform_of_isExchange hc]
    cases c.submission? with
    | none => exact balanced_moved_self hs hl
    | some submission => exact balanced_submitted hs hl (submitted_submit limits l.session submission.1 submission.2)
  next hc =>
    intro hready
    rcases ClientCall.perform_of_not_isExchange hc limits l.session with hnew | ⟨link, host, peer, hopened⟩
    · rw [hnew]
      rfl
    · rw [hopened]
      rfl

/-! ## Runs -/

theorem run_append_singleton (limits : Limits) (calls : List ClientCall) (c : ClientCall) :
    run limits (calls ++ [c]) = (run limits calls).perform limits c := by
  rw [run, List.foldl_append]
  rfl

/-- The ledger of a run is at the session of the run. -/
theorem session_run (limits : Limits) (calls : List ClientCall) :
    (run limits calls).session = ClientCall.performAll limits .new calls := by
  induction calls using List.reverseRecOn with
  | nil => rfl
  | append_singleton calls c ih =>
    rw [run_append_singleton, session_perform, ih, ClientCall.performAll_append_singleton]

/-- So the account balances after every run: by induction on the calls, the last one first. -/
theorem balanced_run (limits : Limits) (calls : List ClientCall) : (run limits calls).Balanced := by
  induction calls using List.reverseRecOn with
  | nil => exact fun _ => rfl
  | append_singleton calls c ih =>
    rw [run_append_singleton]
    refine balanced_perform ?_ ih c
    rw [session_run]
    exact ClientCall.consistent_performAll limits calls

/-! ## Responses -/

/-- These octets come next on the connection, and all of them are still to be brought. -/
def Fresh (l : ClientLedger) (used : Octets) : Prop := ∀ i < used.length, l.received.length ≤ l.taken.length + i

/-- The caller of a submission is told of a response that the next octets of the connection spell. The others that were
brought until then are left. -/
structure Answers (limits : Limits) (l : ClientLedger) (r : Request) (p : Patience) (head : ResponseHead) (text : String)
    (used : Octets) : Prop where
  told : (l.session.submit limits r p).2.2 = some (judged (head.withBody text))
  spells : (Form.response r.method).Spells limits used head text
  next : ∃ link before link' left, l.session.stream = some link ∧ link.reads = before ++ link'.reads ∧
    l.received ++ before.flatMap Read.octets = l.taken ++ used ++ left ∧
    (l.session.submit limits r p).1 = l.session.answered (head.withBody text) link' left

/-- The caller is told of a response, and not of why there is none. -/
def TellsOfResponse : Except Error Response → Prop
  | .ok _ => True
  | .error e => e.status?.isSome

/-- Of the four ways in which a submission ends only one tells of a response, which was read on the connection. -/
theorem exists_read_of_tells {s : ClientSession Link} {r : Request} {p : Patience} {result : Except Error Response}
    (hresult : (s.submit limits r p).2.2 = some result) (htells : TellsOfResponse result) :
    ∃ link out head text left reads, s.phase = .ready ∧ s.stream = some link ∧
      Reader.read (.response r.method) limits s.buffer link.reads = ⟨.message head text, left, reads⟩ ∧
      result = judged (head.withBody text) ∧
      s.submit limits r p = (s.answered (head.withBody text) ⟨reads, out⟩ left, [], some result) := by
  have hsubmitted := submitted_submit limits s r p
  generalize s.submit limits r p = o at hsubmitted hresult
  -- Of the ways a submission ends only an answer tells of a response.
  cases hsubmitted with
  | refused hrefuses =>
    obtain rfl := Option.some.inj hresult
    rcases begin?_eq_error hrefuses with ⟨rfl, -⟩ | ⟨rfl, -⟩
    · cases htells
    · cases htells
  | lost hready hfault =>
    obtain rfl := Option.some.inj hresult
    rw [TellsOfResponse, hfault] at htells
    cases htells
  | @answered link out head text left reads hready hlink hread =>
    obtain rfl := Option.some.inj hresult
    exact ⟨link, out, head, text, left, reads, hready, hlink, hread, rfl, rfl⟩
  | unfinished hready hlink hwhy => cases hresult

/-- Where the account balances, a response that is told of was spelled by the octets that come next in it. -/
theorem exists_answers_of_tells (hl : l.Balanced) {r : Request} {p : Patience} {result : Except Error Response}
    (hresult : (l.session.submit limits r p).2.2 = some result) (htells : TellsOfResponse result) :
    l.session.phase = .ready ∧
      ∃ head text used, result = judged (head.withBody text) ∧ Answers limits l r p head text used := by
  obtain ⟨link, out, head, text, left, reads, hready, hlink, hread, hjudged, hsubmit⟩ :=
    exists_read_of_tells hresult htells
  obtain ⟨before, used, hreads, hused, hspells⟩ :=
    Reader.exists_spells_of_message Head.complete_responseHead (congrArg ReadResult.how hread)
  rw [hread] at hreads hused
  refine ⟨hready, head, text, used, hjudged, by rw [hsubmit, hjudged], hspells, ?_⟩
  refine ⟨link, before, ⟨reads, out⟩, left, hlink, hreads, ?_, by rw [hsubmit]⟩
  rw [hl hready, List.append_assoc, hused, List.append_assoc]

/-- Octets that come next are all new exactly if there are none left from before. -/
theorem fresh_iff_of_ne_nil (hl : l.received = l.taken ++ l.session.buffer) {used : Octets} (hne : used ≠ []) :
    l.Fresh used ↔ l.session.buffer = [] := by
  rw [Fresh, hl, List.length_append]
  constructor
  · intro hfresh
    -- The first octet would be one of those in the buffer.
    have hfirst := hfresh 0 (List.length_pos_iff.mpr hne)
    exact List.length_eq_zero_iff.mp (by omega)
  · intro hnil i _
    rw [hnil, List.length_nil]
    omega

/-- **A response is fresh exactly if all that had been brought before was taken.** After every run what was brought to a
ready session and not taken is in its buffer. A response that the caller of a submission is told of is spelled by the
octets that come next, and each of these is brought after the submission began exactly if all of those before were taken
for earlier responses, that is, if the buffer was empty. -/
theorem fresh_iff (limits : Limits) (calls : List ClientCall) :
    let l := run limits calls
    l.session = ClientCall.performAll limits .new calls ∧
      (l.session.phase = .ready → l.received = l.taken ++ l.session.buffer) ∧
      ∀ r p result, (l.session.submit limits r p).2.2 = some result → TellsOfResponse result →
        ∃ head text used, result = judged (head.withBody text) ∧ Answers limits l r p head text used ∧
          (l.Fresh used ↔ l.received = l.taken) ∧ (l.received = l.taken ↔ l.session.buffer = []) := by
  intro l
  have hl : l.Balanced := balanced_run limits calls
  refine ⟨session_run limits calls, hl, fun r p result hresult htells => ?_⟩
  obtain ⟨hready, head, text, used, hjudged, hanswers⟩ := exists_answers_of_tells hl hresult htells
  have hbuffer : l.received = l.taken ↔ l.session.buffer = [] := by
    rw [hl hready]
    exact List.append_right_eq_self
  refine ⟨head, text, used, hjudged, hanswers, Iff.trans ?_ hbuffer.symm, hbuffer⟩
  exact fresh_iff_of_ne_nil (hl hready) (Reader.ne_nil_of_spells Head.complete_responseHead hanswers.spells)

/-- A response of status 200 with this body, of this length. -/
def okWith (length : Nat) (text : String) : Octets :=
  octets ("HTTP/1.1 200 OK\r\nContent-Length: " ++ Decimal.text length ++ "\r\n\r\n" ++ text)

/-- A session after its first response, which came alone. -/
def afterOne : ClientLedger :=
  run .standard
    [.connecting [.data (okWith 1 "a"), .data (okWith 5 "fresh")], .submit ClientCall.rootRequest .endless]

/-- With nothing left over, the next response is one that had not come when it was asked for. -/
theorem fresh_iff_afterOne :
    ∃ head used, Answers .standard afterOne ClientCall.rootRequest .endless head "fresh" used ∧
      afterOne.received = afterOne.taken ∧ afterOne.Fresh used := by
  have hrun := fresh_iff .standard
    [.connecting [.data (okWith 1 "a"), .data (okWith 5 "fresh")], .submit ClientCall.rootRequest .endless]
  rw [← afterOne] at hrun
  have hbuffer : afterOne.session.buffer = [] := by decide
  obtain ⟨response, hresult, hbody⟩ : ∃ response,
      (afterOne.session.submit .standard ClientCall.rootRequest .endless).2.2 = some (.ok response) ∧
        response.body = "fresh" := ⟨_, rfl, rfl⟩
  obtain ⟨head, text, used, hjudged, hanswers, hfresh, hempty⟩ := hrun.2.2 _ _ _ hresult trivial
  have htext : text = "fresh" := by
    unfold judged at hjudged
    split at hjudged
    · rw [Except.ok.inj hjudged] at hbody
      exact hbody
    · cases hjudged
  have htaken := hempty.mpr hbuffer
  exact ⟨head, used, htext ▸ hanswers, htaken, hfresh.mpr htaken⟩

/-- A session after its first response, behind which came a second one that nobody had asked for. -/
def afterSurplus : ClientLedger :=
  run .standard
    [.connecting [.data (okWith 1 "a" ++ okWith 5 "stale"), .data (okWith 5 "fresh")],
      .submit ClientCall.rootRequest .endless]

/-- With something left over, the next response is that, and came before it was asked for. -/
theorem stale_afterSurplus :
    afterSurplus.session.phase = .ready ∧ afterSurplus.session.buffer = okWith 5 "stale" ∧
      ∃ head, Answers .standard afterSurplus ClientCall.rootRequest .endless head "stale" (okWith 5 "stale") ∧
        ¬ afterSurplus.Fresh (okWith 5 "stale") := by
  have hready : afterSurplus.session.phase = .ready := by decide
  have hbuffer : afterSurplus.session.buffer = okWith 5 "stale" := by decide
  refine ⟨hready, hbuffer, _, ⟨rfl, rfl, ⟨_, [], _, [], rfl, rfl, ?_, rfl⟩⟩, ?_⟩
  · decide
  · intro hfresh
    exact absurd (hfresh 0 (by decide)) (by decide)

end ClientLedger

end HttpService
