import HttpService.Client.Calls
import HttpService.Proofs.Wire.Failures

/-!
# What a call makes of a session

A submission ends in one of four ways, and each of them says which connection, which octets and which phase it leaves.
The calls that are no exchanges drop the connection and may open another.

* `ClientSession.submitted_submit` — the four ways: refused, lost, answered, unfinished.
* `ClientSession.submit_eq_of_read` — if a response is there to be read, it is answered.
* `ClientCall.perform_of_not_isExchange` — connecting and stopping leave nothing of what was before.
-/

namespace HttpService

namespace ClientSession

/-- On the connection that it has, the reader of the response to a request breaks off. -/
def BreaksOff (limits : Limits) (s : ClientSession Link) (r : Request) : Prop :=
  ∃ link, s.stream = some link ∧
    (Reader.read (.response r.method) limits s.buffer link.reads).how = .overflowed

/-- The session after a response that left these octets: on its connection, unless the server closes that. -/
def answered (s : ClientSession Link) (response : Response) (link : Link) (left : Octets) : ClientSession Link :=
  if wantsClose response.version response.fields then new
  else ⟨.ready, some link, left, s.host, s.peer⟩

/-- What a submission may come to. -/
inductive Submitted (limits : Limits) (s : ClientSession Link) (r : Request) (p : Patience) :
    Outcome Response → Prop where
  /-- The session refuses, and is left as it was. -/
  | refused {e : Error} (hrefuses : s.begin? r = .error e) : Submitted limits s r p (s, [], some (.error e))
  /-- The exchange fails, and the connection is dropped. -/
  | lost {e : Error} (hready : s.phase = .ready) (hfault : e.status? = none) :
      Submitted limits s r p (new, [.exchangeFailed e], some (.error e))
  /-- A response is read. -/
  | answered {link : Link} {out : Outgoing} {head : ResponseHead} {text : String} {left : Octets} {reads : List Read}
      (hready : s.phase = .ready) (hlink : s.stream = some link)
      (hread : Reader.read (.response r.method) limits s.buffer link.reads = ⟨.message head text, left, reads⟩) :
      Submitted limits s r p
        (s.answered (head.withBody text) ⟨reads, out⟩ left, [], some (judged (head.withBody text)))
  /-- The caller does not wait for the end of it, or the reader breaks off. -/
  | unfinished {link link' : Link} {left : Octets} (hready : s.phase = .ready) (hlink : s.stream = some link)
      (hwhy : p ≠ .endless ∨ s.BreaksOff limits r) :
      Submitted limits s r p (⟨.waiting, some link', left, s.host, s.peer⟩, [], none)

variable {limits : Limits} {s : ClientSession Link} {r : Request} {p : Patience}

/-- The host does not change the method, by which the response is read. -/
theorem method_hosted (s : ClientSession Link) (r : Request) : (s.hosted r).method = r.method := by
  unfold hosted
  split
  · split
    · rfl
    · rfl
  · rfl

/-- A submission begins only on a session that is ready and connected, which waits from then on. -/
theorem eq_of_begin?_eq_ok {begun : Link × Request × ClientSession Link} (h : s.begin? r = .ok begun) :
    ∃ link, s.phase = .ready ∧ s.stream = some link ∧ begun = (link, s.hosted r, { s with phase := .waiting }) := by
  unfold begin? at h
  split at h
  next link hphase hstream => exact ⟨link, hphase, hstream, (Except.ok.inj h).symm⟩
  all_goals cases h

/-- A submission that does not begin tells why, by the phase. -/
theorem begin?_eq_error {e : Error} (h : s.begin? r = .error e) :
    (e = .sessionBusy ∧ (s.phase = .waiting ∨ s.phase = .done)) ∨
      (e = .notConnected ∧ (s.phase = .disconnected ∨ (s.phase = .ready ∧ s.stream = none))) := by
  unfold begin? at h
  split at h
  next => cases h
  next hphase hstream => exact .inr ⟨(Except.error.inj h).symm, .inr ⟨hphase, hstream⟩⟩
  next hphase => exact .inr ⟨(Except.error.inj h).symm, .inl hphase⟩
  next hphase => exact .inl ⟨(Except.error.inj h).symm, .inl hphase⟩
  next hphase => exact .inl ⟨(Except.error.inj h).symm, .inr hphase⟩

/-- On a session that is ready and connected it does begin. -/
theorem begin?_of_ready {link : Link} (hready : s.phase = .ready) (hlink : s.stream = some link) (r : Request) :
    s.begin? r = .ok (link, s.hosted r, { s with phase := .waiting }) := by
  rw [begin?, hready, hlink]

/-! ## Submitting -/

/-- A session that refuses a request stays as it is. -/
theorem submit_of_refused {e : Error} (h : s.begin? r = .error e) (limits : Limits) (p : Patience) :
    s.submit limits r p = (s, [], some (.error e)) := by
  rw [submit, exchange, h]
  rfl

/-- What a submission comes to if the session takes it. -/
theorem submit_of_begin {link : Link} {r' : Request} {s' : ClientSession Link} (h : s.begin? r = .ok (link, r', s'))
    (limits : Limits) (p : Patience) :
    s.submit limits r p =
      match link.send p (Encoder.request r') with
      | (none, link') => (s'.moved link' s'.buffer, [], none)
      | (some d, link') =>
        match d.error? with
        | some e => s'.settled (.error e)
        | none => s'.concluded ((Link.carrier limits p).receive r'.method link' s'.buffer) := by
  rw [submit, exchange, h]
  have hsend : (Link.carrier limits p).send link (Encoder.request r') = link.send p (Encoder.request r') := rfl
  simp only [hsend]
  generalize link.send p (Encoder.request r') = sent
  obtain ⟨d, link'⟩ := sent
  cases d with
  | none => rfl
  | some d => rfl

/-- The failure of a write tells of no status. -/
theorem status?_of_error? {d : Delivery} {e : Error} (h : d.error? = some e) : e.status? = none := by
  cases d with
  | whole => cases h
  | failed count cause => exact Option.some.inj h ▸ rfl
  | late count => exact Option.some.inj h ▸ rfl

section

variable {link : Link} (hready : s.phase = .ready) (hlink : s.stream = some link)

include hready hlink

/-- A caller that waits as long as it takes is told what reading came to. -/
theorem submitted_receiveAll (out : Outgoing) :
    Submitted limits s r p (({ s with phase := .waiting } : ClientSession Link).concluded
      (Link.receiveAll ⟨link.reads, out⟩ limits r.method s.buffer)) := by
  unfold Link.receiveAll
  cases hread : Reader.read (.response r.method) limits s.buffer link.reads with
  | mk how left reads =>
    -- What reading fails with is never a status, so a caller can tell a failure from a response.
    have hexpected := Reader.expected_read (.response r.method) limits s.buffer link.reads
    rw [hread] at hexpected
    cases how with
    | message head text => exact .answered hready hlink hread
    | failed e => exact .lost hready hexpected
    | overflowed => exact .unfinished hready hlink (.inr ⟨link, hlink, by rw [hread]⟩)

/-- One that does not may go away before there is anything to tell. -/
theorem submitted_receiveUntil (hp : p ≠ .endless) (out : Outgoing) (count : Nat) :
    Submitted limits s r p (({ s with phase := .waiting } : ClientSession Link).concluded
      (Link.receiveUntil ⟨link.reads, out⟩ limits r.method s.buffer count)) := by
  unfold Link.receiveUntil
  simp only
  split
  · split
    · exact .unfinished hready hlink (.inl hp)
    · -- There are not so many reads, so the response is waited for to the end of the stream.
      exact submitted_receiveAll hready hlink out
  · -- The response comes to its end before.
    exact submitted_receiveAll hready hlink out

/-- Once all of the request has been given to the connection, what the write and the reading come to decides. -/
theorem submitted_of_send {d : Delivery} {out : Outgoing}
    (hsend : link.send p (Encoder.request (s.hosted r)) = (some d, ⟨link.reads, out⟩)) :
    Submitted limits s r p (s.submit limits r p) := by
  rw [submit_of_begin (begin?_of_ready hready hlink r), method_hosted, hsend]
  cases herror : d.error? with
  | some e =>
    simp only [herror]
    exact .lost hready (status?_of_error? herror)
  | none =>
    simp only [herror]
    cases p with
    | writing count => exact submitted_receiveAll hready hlink out
    | endless => exact submitted_receiveAll hready hlink out
    | reading count => exact submitted_receiveUntil hready hlink Patience.noConfusion out count

end

/-- **What a submission comes to**, in whatever state the session is and whatever its connection brings. -/
theorem submitted_submit (limits : Limits) (s : ClientSession Link) (r : Request) (p : Patience) :
    Submitted limits s r p (s.submit limits r p) := by
  cases hbegin : s.begin? r with
  | error e =>
    rw [submit_of_refused hbegin]
    exact .refused hbegin
  | ok begun =>
    obtain ⟨link, hready, hlink, rfl⟩ := eq_of_begin?_eq_ok hbegin
    -- A caller may give up while the request is written. Otherwise the patience matters once it has left.
    cases p with
    | writing count =>
      rw [submit_of_begin hbegin]
      exact .unfinished hready hlink (.inl Patience.noConfusion)
    | endless => exact submitted_of_send hready hlink rfl
    | reading count => exact submitted_of_send hready hlink rfl

/-- A response that is there to be read is what a submission comes to, if nothing keeps the request from leaving. -/
theorem submit_eq_of_read {link : Link} (hready : s.phase = .ready) (hlink : s.stream = some link)
    (hsends : ∀ d ∈ link.out.coming, d = .whole) {head : ResponseHead} {text : String} {left : Octets}
    {reads : List Read}
    (hread : Reader.read (.response r.method) limits s.buffer link.reads = ⟨.message head text, left, reads⟩) :
    s.submit limits r .endless =
      (s.answered (head.withBody text)
        ⟨reads, link.out.coming.tail, link.out.sent ++ Encoder.request (s.hosted r)⟩ left,
        [], some (judged (head.withBody text))) := by
  have hbegin := begin?_of_ready hready hlink r
  -- Where nothing is foretold the request goes out whole as well.
  have hwhole : link.out.coming.headD .whole = .whole := by
    cases hcoming : link.out.coming with
    | nil => rfl
    | cons d ds => exact hsends d (by rw [hcoming]; exact List.mem_cons_self)
  have hsend : (Outgoing.send (Encoder.request (s.hosted r))).run link.out =
      (.whole, ⟨link.out.coming.tail, link.out.sent ++ Encoder.request (s.hosted r)⟩) := by
    show (link.out.coming.headD .whole, (⟨_, link.out.sent ++ (link.out.coming.headD .whole).taken _⟩ : Outgoing)) = _
    rw [hwhole]
    rfl
  rw [submit_of_begin hbegin, method_hosted]
  simp only [Link.send, hsend, Delivery.error?]
  show concluded _ (Link.receiveAll _ limits r.method s.buffer) = _
  rw [Link.receiveAll, hread]
  rfl

/-- What a submission comes to when its response can be read: the caller is told of it, and what is behind it is left.
-/
theorem submit_of_read {link : Link} (hready : s.phase = .ready) (hlink : s.stream = some link)
    (hsends : ∀ d ∈ link.out.coming, d = .whole) {head : ResponseHead} {text : String} {left : Octets}
    {reads : List Read}
    (hread : Reader.read (.response r.method) limits s.buffer link.reads = ⟨.message head text, left, reads⟩) :
    ∃ out : Outgoing, (∀ d ∈ out.coming, d = .whole) ∧
      s.submit limits r .endless =
        (s.answered (head.withBody text) ⟨reads, out⟩ left, [], some (judged (head.withBody text))) :=
  ⟨_, fun d hd => hsends d (List.mem_of_mem_tail hd), submit_eq_of_read hready hlink hsends hread⟩

/-! ## Connecting -/

/-- Trying addresses leaves the session as it is, or opens it on a connection to one of them. -/
theorem connectFirst_eq_or (s : ClientSession Link) (host : FieldValue) (name : String) (last : Option Error)
    (addresses : List (Address × Id (Attempt Link))) :
    (s.connectFirst (m := Id) host name last addresses).1 = s ∨
      ∃ link peer, (s.connectFirst (m := Id) host name last addresses).1 = s.opened link host peer := by
  induction addresses generalizing last with
  | nil => exact .inl rfl
  | cons first rest ih =>
    obtain ⟨address, attempt⟩ := first
    cases attempt with
    | connected link => exact .inr ⟨link, address, rfl⟩
    | failed cause => exact ih (some (.connect cause))
    | late => exact ih (some (.timeout .connect))
    | dropped => exact .inl rfl

/-- The same where there may be no address to try. -/
theorem connectAny_eq_or (s : ClientSession Link) (name : String) (addresses : List (Address × Id (Attempt Link))) :
    (s.connectAny (m := Id) name addresses).1 = s ∨
      ∃ link host peer, (s.connectAny (m := Id) name addresses).1 = s.opened link host peer := by
  unfold connectAny
  split
  next host hhost =>
    rcases connectFirst_eq_or s host name none addresses with hsame | ⟨link, peer, hopened⟩
    · exact .inl hsame
    · exact .inr ⟨link, host, peer, hopened⟩
  next => exact .inl rfl

end ClientSession

namespace ClientCall

/-- Whether the call is an exchange. The others connect, or end the connection. -/
def isExchange : ClientCall → Bool
  | submit .. | get .. => true
  | start .. | startAddress .. | stop _ => false

/-- What a call submits. -/
def submission? : ClientCall → Option (Request × Patience)
  | submit r p => some (r, p)
  | get target p =>
    match ClientSession.getRequest target with
    | .ok r => some (r, p)
    | .error _ => none
  | start .. | startAddress .. | stop _ => none

/-- The session after what a call submits, which is the same one if that is nothing. -/
theorem perform_of_isExchange {c : ClientCall} (h : c.isExchange) (limits : Limits) (s : ClientSession Link) :
    c.perform limits s = c.submission?.elim s fun x => (s.submit limits x.1 x.2).1 := by
  cases c with
  | submit r p => rfl
  | get target p =>
    rw [perform, ClientSession.get, submission?]
    cases ClientSession.getRequest target with
    | ok r => rfl
    | error e => rfl
  | start => cases h
  | startAddress => cases h
  | stop => cases h

/-- **A call that is no exchange leaves nothing of what was before it**: neither the connection nor an octet of it. -/
theorem perform_of_not_isExchange {c : ClientCall} (h : ¬ c.isExchange) (limits : Limits) (s : ClientSession Link) :
    c.perform limits s = .new ∨
      ∃ link host peer, c.perform limits s = ⟨.ready, some link, [], some host, some peer⟩ := by
  cases c with
  | start host port lookup =>
    cases lookup with
    | found addresses =>
      cases addresses with
      | nil => exact .inl rfl
      | cons first rest => exact ClientSession.connectAny_eq_or .new _ (first :: rest)
    | failed cause => exact .inl rfl
    | late => exact .inl rfl
    | dropped => exact .inl rfl
  | startAddress address attempt => exact ClientSession.connectAny_eq_or .new _ [(address, attempt)]
  | submit => exact absurd rfl h
  | get => exact absurd rfl h
  | stop => exact .inl rfl

end ClientCall

end HttpService
