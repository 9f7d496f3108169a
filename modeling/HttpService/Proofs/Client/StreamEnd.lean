import HttpService.Proofs.Client.Freshness
import HttpService.Proofs.Wire.StreamEnd

/-!
# Sessions whose stream has ended

A response whose body lasts to the end of the stream is the last one that its connection brings. Whether a session keeps
the connection is decided by the version of the response and by what its `Connection` field says, and by nothing else.

* `ClientSession.EndsWithStream` — the head of a response leaves the end of its body to the end of the stream. It does
  so exactly if the stream was read to its end (`Reader.meetsEnd_iff_of_message`).
* `ClientSession.disconnected_iff_wantsClose` — after such a response a session is disconnected, and refuses the next
  request for that, exactly if the response said that the connection is closed.
-/

namespace HttpService

namespace ClientSession

/-- The end of the body of a response to a method is the end of the stream: it may have a body, and its head announces
neither chunks nor a length. -/
def EndsWithStream (m : Method) (head : ResponseHead) : Prop :=
  Framing.allowsBody m head.status ∧ ¬ Framing.announcesChunks head.fields ∧ head.fields.get? .contentLength = none

/-- The framing of a response is until the end of the stream exactly where the response says so. -/
theorem framing_eq_untilEnd_iff (m : Method) (head : ResponseHead) :
    (Form.response m).framing head = .ok .untilEnd ↔ EndsWithStream m head := by
  show Framing.ofResponse m head.status head.fields = .ok .untilEnd ↔ _
  unfold Framing.ofResponse Framing.ofFields EndsWithStream
  -- A body may be missing, or come in chunks, or with a length: the stream is its end only if none of these holds.
  by_cases hbody : Framing.allowsBody m head.status
  · rw [if_pos hbody]
    by_cases hchunks : Framing.announcesChunks head.fields
    · rw [if_pos hchunks]
      exact iff_of_false (fun h => by cases h) fun h => h.2.1 hchunks
    · rw [if_neg hchunks]
      cases head.fields.get? .contentLength with
      | none => exact iff_of_true rfl ⟨hbody, hchunks, rfl⟩
      | some v =>
        refine iff_of_false (fun h => ?_) fun h => by cases h.2.2
        dsimp only at h
        split at h
        · cases h
        · cases h
        · cases h
  · rw [if_neg hbody]
    exact iff_of_false (fun h => by cases h) fun h => hbody h.1

variable {limits : Limits} {s : ClientSession Link}

/-- A session without a connection refuses everything, and stays as it is. -/
theorem submit_of_disconnected (h : s.phase = .disconnected) (limits : Limits) (r : Request) (p : Patience) :
    s.submit limits r p = (s, [], some (.error .notConnected)) :=
  submit_of_refused (by rw [begin?, h]) limits p

/-- A ready session refuses nothing: whoever gives up at once has begun an exchange. -/
theorem submit_of_ready {link : Link} (hready : s.phase = .ready) (hlink : s.stream = some link) (limits : Limits)
    (r : Request) : (s.submit limits r (.writing 0)).2.2 = none := by
  rw [submit_of_begin (begin?_of_ready hready hlink r)]
  rfl

/-- The session refuses every request, and says that it is not connected. -/
def RefusesUnconnected (limits : Limits) (s : ClientSession Link) : Prop :=
  ∀ r p, s.submit limits r p = (s, [], some (.error .notConnected))

/-- What the session is after a response depends on whether the server closes. -/
theorem answered_cases (s : ClientSession Link) (response : Response) (link : Link) (left : Octets) :
    (wantsClose response.version response.fields ∧ s.answered response link left = new) ∨
      (¬ wantsClose response.version response.fields ∧
        s.answered response link left = ⟨.ready, some link, left, s.host, s.peer⟩) := by
  unfold answered
  split
  next h => exact .inl ⟨h, rfl⟩
  next h => exact .inr ⟨h, rfl⟩

/-- **Whether a session knows that its stream has ended.** In every run, a response that a caller is told of is read to
the end of the stream exactly if its head leaves the end of the body to that. The session has then taken all that came,
and three things are the same: that it is disconnected and not ready, that it refuses every further request because it
is, and that the response itself said that the connection is closed. So a session stays ready on a stream that has
ended whenever the version and the `Connection` field do not say so. -/
theorem disconnected_iff_wantsClose (limits : Limits) (calls : List ClientCall) (r : Request) (p : Patience) :
    let s := ClientCall.performAll limits .new calls
    let after := (s.submit limits r p).1
    ∀ result, (s.submit limits r p).2.2 = some result → ClientLedger.TellsOfResponse result →
      ∃ link head text, s.stream = some link ∧ result = judged (head.withBody text) ∧
        (Reader.MeetsEnd (.response r.method) limits s.buffer link.reads ↔ EndsWithStream r.method head) ∧
        (EndsWithStream r.method head →
          after.buffer = [] ∧
          (after.phase = .disconnected ↔ wantsClose head.version head.fields) ∧
          (after.phase = .ready ↔ ¬ wantsClose head.version head.fields) ∧
          (after.RefusesUnconnected limits ↔ wantsClose head.version head.fields)) := by
  intro s after result hresult htells
  obtain ⟨link, out, head, text, left, reads, -, hlink, hread, hjudged, hsubmit⟩ :=
    ClientLedger.exists_read_of_tells hresult htells
  have hafter : after = s.answered (head.withBody text) ⟨reads, out⟩ left := congrArg Prod.fst hsubmit
  obtain ⟨hmeets, hleft⟩ := Reader.meetsEnd_iff_of_message hread
  rw [framing_eq_untilEnd_iff] at hmeets hleft
  refine ⟨link, head, text, hlink, hjudged, hmeets, fun hends => ?_⟩
  obtain rfl := hleft hends
  rcases answered_cases s (head.withBody text) ⟨reads, out⟩ [] with ⟨hclose, hnew⟩ | ⟨hkeep, hready⟩
  · have hgone : after = new := hafter.trans hnew
    rw [hgone]
    refine ⟨rfl, iff_of_true rfl hclose, iff_of_false ClientPhase.noConfusion (not_not.mpr hclose), ?_⟩
    exact iff_of_true (fun r' p' => submit_of_disconnected rfl limits r' p') hclose
  · have hkept : after = ⟨.ready, some ⟨reads, out⟩, [], s.host, s.peer⟩ := hafter.trans hready
    rw [hkept]
    refine ⟨rfl, iff_of_false ClientPhase.noConfusion hkeep, iff_of_true rfl hkeep,
      iff_of_false (fun hrefuses => ?_) hkeep⟩
    -- An exchange can still be begun.
    have hbegun := submit_of_ready (s := ⟨.ready, some ⟨reads, out⟩, [], s.host, s.peer⟩) rfl rfl limits r
    rw [hrefuses r (.writing 0)] at hbegun
    cases hbegun

/-- Connected to a peer that sends these octets and ends the stream. -/
def connectedTo (sent : String) : List ClientCall := [ClientCall.connecting [.data (octets sent)]]

/-- An old peer that closes without saying so is understood. -/
theorem disconnected_iff_wantsClose_old :
    let s := ClientCall.performAll .standard .new (connectedTo "HTTP/1.0 200 OK\r\n\r\nall of it")
    let after := (s.submit .standard ClientCall.rootRequest .endless).1
    ∃ head, (s.submit .standard ClientCall.rootRequest .endless).2.2 = some (.ok (head.withBody "all of it")) ∧
      EndsWithStream .get head ∧ after.phase = .disconnected ∧ after.RefusesUnconnected .standard := by
  intro s after
  obtain ⟨response, hresult, hstatus, hversion, hfields, hbody⟩ : ∃ response : Response,
      (s.submit .standard ClientCall.rootRequest .endless).2.2 = some (.ok response) ∧ response.status = .ok ∧
        response.version = .http10 ∧ response.fields = .empty ∧ response.body = "all of it" :=
    ⟨_, rfl, rfl, rfl, rfl, rfl⟩
  obtain ⟨link, head, text, -, hjudged, -, hclosed⟩ :=
    disconnected_iff_wantsClose .standard _ ClientCall.rootRequest .endless _ hresult trivial
  -- The response that was told is the one that was read, since its status is no failure.
  have hsame : response = head.withBody text := by
    unfold judged at hjudged
    split at hjudged
    · exact Except.ok.inj hjudged
    · cases hjudged
  subst hsame
  change head.status = .ok at hstatus
  change head.version = .http10 at hversion
  change head.fields = .empty at hfields
  change text = "all of it" at hbody
  have hends : EndsWithStream .get head := by
    rw [EndsWithStream, hstatus, hfields]
    decide
  have hclose : wantsClose head.version head.fields := by
    rw [hversion, hfields]
    decide
  obtain ⟨-, hgone, -, hrefuses⟩ := hclosed hends
  exact ⟨head, by rw [hresult, hbody], hends, hgone.mpr hclose, hrefuses.mpr hclose⟩

/-- A response of today's version that announces no length leaves its session ready, and what the next request is told
is that the stream has ended. -/
theorem ready_at_stream_end :
    let s := ClientCall.performAll .standard .new (connectedTo "HTTP/1.1 200 OK\r\n\r\nhello")
    let after := (s.submit .standard ClientCall.rootRequest .endless).1
    ∃ link head, s.stream = some link ∧
      (s.submit .standard ClientCall.rootRequest .endless).2.2 = some (.ok (head.withBody "hello")) ∧
      EndsWithStream .get head ∧ Reader.MeetsEnd (.response .get) .standard s.buffer link.reads ∧
      after.phase = .ready ∧
      (after.submit .standard ClientCall.rootRequest .endless).2.2 = some (.error .endOfStream) := by
  intro s after
  refine ⟨_, _, rfl, rfl, ⟨by decide, by decide, by decide⟩, ⟨_, [], _, (List.append_nil _).symm, rfl, ?_⟩,
    by decide, rfl⟩
  intro r hr
  cases hr

end ClientSession

end HttpService
