import HttpService.Proofs.Client.Pairing

/-!
# The same request many times

A client asks for a target, waits for the response, and asks again. As long as it is told of success and nobody closes
the connection, all its requests leave on that one, and what the connection brings is used up response by response.

* `ClientSession.getAll` — asks so many times, up to the first time that fails.
* `ClientSession.getAll_of_run_askAll` — asking on, response by response, tells the same responses.
* `ClientSession.Brings` — the connection brings these octets, in any pieces.
* `ClientSession.getAll_of_brings` — the responses that it brings are what the caller is told.
-/

namespace HttpService.ClientSession

/-- Asks for a target so many times, one after the other, up to the first time that fails: the session after that, and
the responses. -/
def getAll (limits : Limits) (target : String) :
    Nat → ClientSession Link → ClientSession Link × Returned (List Response)
  | 0, s => (s, some (.ok []))
  | count + 1, s =>
    match s.get limits target .endless with
    | (s, _, some (.ok r)) =>
      let (s, others) := getAll limits target count s
      (s, others.map fun rs => rs.map (r :: ·))
    | (s, _, some (.error e)) => (s, some (.error e))
    | (s, _, none) => (s, none)

/-- Asks for a target once, where responses are told to somebody who keeps them. -/
def asking (limits : Limits) (target : String) (s : ClientSession Link) :
    StateM (List Response) (ClientSession Link × Returned Response) :=
  let (s, _, result) := s.get limits target .endless
  pure (s, result)

/-- Tells a response to somebody who keeps it. -/
def keep (r : Response) : StateM (List Response) Unit := fun rs => ((), rs ++ [r])

/-- One request of many: what it comes to decides whether there is another. -/
theorem run_askAll_succ (limits : Limits) (target : String) (count : Nat) (s : ClientSession Link)
    (told : List Response) :
    (askAll (asking limits target) keep (count + 1) s).run told =
      match s.get limits target .endless with
      | (s', _, some (.ok r)) => (askAll (asking limits target) keep count s').run (told ++ [r])
      | (s', _, some (.error e)) => ((s', some (.error e)), told)
      | (s', _, none) => ((s', none), told) := by
  have hasking : (asking limits target s).run told =
      (((s.get limits target .endless).1, (s.get limits target .endless).2.2), told) := rfl
  rw [askAll, StateT.run_bind, hasking]
  obtain ⟨s', notices, result⟩ := s.get limits target .endless
  cases result with
  | none => rfl
  | some result =>
    cases result with
    | error e => rfl
    | ok r => rfl

/-- **Asking on tells the responses that `getAll` collects**, behind what was told before. -/
theorem getAll_of_run_askAll (limits : Limits) (target : String) (count : Nat) (s : ClientSession Link)
    (told : List Response) :
    let r := (askAll (asking limits target) keep count s).run told
    (s.getAll limits target count).1 = r.1.1 ∧
      (s.getAll limits target count).2.map (·.map (told ++ ·)) = r.1.2.map (·.map fun _ => r.2) := by
  -- On the number of requests: the first response is told, and those of the others behind it.
  induction count generalizing s told with
  | zero => exact ⟨rfl, congrArg (some ∘ Except.ok) (List.append_nil told)⟩
  | succ count ih =>
    rw [run_askAll_succ, getAll]
    obtain ⟨s', notices, result⟩ := s.get limits target .endless
    cases result with
    | none => exact ⟨rfl, rfl⟩
    | some result =>
      cases result with
      | error e => exact ⟨rfl, rfl⟩
      | ok r =>
        obtain ⟨hsession, htold⟩ := ih s' (told ++ [r])
        refine ⟨hsession, htold ▸ ?_⟩
        simp only [Option.map_map]
        congr 1
        funext others
        cases others with
        | error e => rfl
        | ok rs => simp [Except.map]

/-- The session is ready, and its connection takes every request and brings these octets, in any pieces and with
anything behind them. -/
structure Brings (s : ClientSession Link) (bytes : Octets) : Prop where
  ready : s.phase = .ready
  brings : ∃ (link : Link) (pieces : List Octets) (behind : Octets) (after : List Read), s.stream = some link ∧
    (∀ d ∈ link.out.coming, d = .whole) ∧ (∀ c ∈ pieces, c ≠ []) ∧ link.reads = pieces.map .data ++ after ∧
    s.buffer ++ pieces.flatten = bytes ++ behind

/-- What the session has sent on its connection. -/
def sent (s : ClientSession Link) : Octets := s.stream.elim [] fun link => link.out.sent

/-- What a session adds to a request depends on its host alone. -/
theorem hosted_congr {s s' : ClientSession Link} (h : s'.host = s.host) (r : Request) : s'.hosted r = s.hosted r := by
  rw [hosted, hosted, h]

variable {limits : Limits} {target : String} {r : Request} {s : ClientSession Link}

/-- **One request is answered with the response that comes first**, and the rest is left for those behind it. -/
theorem get_of_brings (hget : getRequest target = .ok r) {w : WireResponse limits r.method} {more : Octets}
    (hsuccess : w.head.status.isSuccess = true) (hkeeps : ¬ wantsClose w.head.version w.head.fields)
    (h : s.Brings (w.bytes ++ more)) :
    ∃ s', s.get limits target .endless = (s', [], some (.ok w.response)) ∧ s'.Brings more ∧ s'.host = s.host ∧
      s'.sent = s.sent ++ Encoder.request (s.hosted r) := by
  obtain ⟨hready, link, pieces, behind, after, hlink, hsends, hne, hreads, hbytes⟩ := h
  rw [List.append_assoc] at hbytes
  obtain ⟨left, pieces', hread, hne', hleft⟩ :=
    Reader.read_of_spells Head.complete_responseHead w.spells w.ends hne hbytes after
  rw [← hreads] at hread
  have hsubmit := submit_eq_of_read hready hlink hsends hread
  have hjudged : judged (w.head.withBody w.text) = .ok w.response := if_pos hsuccess
  have hanswered (link' : Link) :
      s.answered (w.head.withBody w.text) link' left = ⟨.ready, some link', left, s.host, s.peer⟩ :=
    if_neg hkeeps
  rw [hjudged, hanswered] at hsubmit
  -- The connection behind the response, and the session on it.
  let link' : Link := ⟨pieces'.map .data ++ after, link.out.coming.tail, link.out.sent ++ Encoder.request (s.hosted r)⟩
  refine ⟨⟨.ready, some link', left, s.host, s.peer⟩, ?_,
    ⟨rfl, link', pieces', behind, after, rfl, ?_, hne', rfl, hleft⟩, rfl, ?_⟩
  · rw [get, hget]
    exact hsubmit
  · exact fun d hd => hsends d (List.mem_of_mem_tail hd)
  · rw [sent, sent, hlink]
    rfl

/-- **The responses that the connection brings are what the caller is told**, and the client has sent one request for
each, all on the connection that it had. -/
theorem getAll_of_brings (hget : getRequest target = .ok r) {ws : List (WireResponse limits r.method)}
    (hsuccess : ∀ w ∈ ws, w.head.status.isSuccess = true)
    (hkeeps : ∀ w ∈ ws, ¬ wantsClose w.head.version w.head.fields) (h : s.Brings (ws.flatMap WireResponse.bytes)) :
    ∃ s', s.getAll limits target ws.length = (s', some (.ok (ws.map WireResponse.response))) ∧ s'.phase = .ready ∧
      s'.sent = s.sent ++ (List.replicate ws.length (Encoder.request (s.hosted r))).flatten := by
  -- On the responses: behind the first one the connection brings the others, to a session as ready as before.
  induction ws generalizing s with
  | nil => exact ⟨s, rfl, h.ready, (List.append_nil _).symm⟩
  | cons w ws ih =>
    obtain ⟨s', hfirst, hbrings, hhost, hsent⟩ :=
      get_of_brings hget (hsuccess w List.mem_cons_self) (hkeeps w List.mem_cons_self) h
    obtain ⟨s'', hothers, hready, hsent'⟩ := ih (fun w' hw' => hsuccess w' (List.mem_cons_of_mem w hw'))
      (fun w' hw' => hkeeps w' (List.mem_cons_of_mem w hw')) hbrings
    refine ⟨s'', ?_, hready, ?_⟩
    · rw [List.length_cons, getAll, hfirst]
      show ((s'.getAll limits target ws.length).1, _) = _
      rw [hothers]
      rfl
    · rw [hsent', hsent, hosted_congr hhost, List.length_cons, List.replicate_succ, List.flatten_cons,
        List.append_assoc]

end HttpService.ClientSession
