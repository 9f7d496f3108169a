import HttpService.Proofs.Route.Lookup
import HttpService.Proofs.Server.Exchanges

/-!
# What a session reports

A session makes at most one report, and it is the last that happens. What it is depends on how the session ends: with a
request that cannot be read, with the failure of a write, with a handler that fails or with one that does not write. A
peer that leaves and a request that asks for the end are no reason for a report.

* `Service.Keeps` — a request is answered and the session reads on.
* `Service.Ends` — the last turn of a session, in each of the ways in which it may go.
* `Service.ends_or_keeps` — every turn is one of the two.
* `Service.report_ends_session` — so a session is some answered requests and one last turn, and only that reports.
-/

namespace HttpService

/-- What is still to come of a session. -/
structure Ahead where
  /-- Identifiers for the requests that bring none. -/
  fresh : Nat → RequestId
  buffer : Octets
  reads : List Read
  coming : List Delivery

namespace Ahead

/-- What becomes of the next write. -/
def delivery (a : Ahead) : Delivery := a.coming.headD .whole

/-- How much there is to be read. -/
def available (a : Ahead) : Nat := Reader.available a.buffer a.reads

end Ahead

/-- A write without an error was taken whole. -/
theorem Delivery.eq_whole_of_error? {d : Delivery} (h : d.error? = none) : d = .whole := by
  cases d with
  | whole => rfl
  | failed count cause => cases h
  | late count => cases h

/-- A write that was taken whole succeeded. -/
theorem Delivery.result_whole : whole.result = .ok () := rfl

namespace Service

/-- The course of a session that has this ahead of it. -/
def course (s : Service) (session : Session) (a : Ahead) : List SessionEvent :=
  s.serve session a.fresh a.buffer a.reads a.coming

/-- The handlers wait for the end of every write that they start. -/
def Awaits (s : Service) : Prop :=
  ∀ v found, s.router.lookup v.request.method v.request.target.path = some found → (found.handler v).Awaits

/-- A request is read, and leaves these octets and reads. -/
def Receives (s : Service) (a : Ahead) (request : Request) (left : Octets) (later : List Read) : Prop :=
  ∃ head body, Reader.read .request s.limits a.buffer a.reads = ⟨.message head body, left, later⟩ ∧
    request = head.withBody body

/-- A request is read and answered, all of the answer leaves, and the session reads on. -/
inductive Keeps (s : Service) (session : Session) (a : Ahead) : List SessionEvent → Ahead → Prop where
  | answered {request : Request} {left : Octets} {later : List Read} {w : Response}
      (hread : s.Receives a request left later)
      (hwrites : s.written? session (a.fresh 0) request = some w)
      (hwhole : a.delivery = .whole)
      (hresult : (s.scriptFor session (a.fresh 0) request).result (.ok ()) = .ok ())
      (hclose : ¬ wantsClose request.version request.fields) :
      Keeps s session a [.received request, .sent (Encoder.response w request.method)]
        ⟨fun n => a.fresh (n + 1), left, later, a.coming.tail⟩

/-- The last turn of a session. -/
inductive Ends (s : Service) (session : Session) (a : Ahead) : List SessionEvent → Prop where
  /-- The peer leaves. -/
  | left {e : Error} (hread : (Reader.read .request s.limits a.buffer a.reads).how = .failed e)
      (hpeer : e.isPeerClosed = true) : Ends s session a [.peerLeft e]
  /-- Reading fails in any other way. -/
  | unread {e : Error} (hread : (Reader.read .request s.limits a.buffer a.reads).how = .failed e)
      (hpeer : e.isPeerClosed = false) : Ends s session a [.reported ⟨.reading, e⟩]
  /-- The reader breaks off. -/
  | brokeOff (hread : (Reader.read .request s.limits a.buffer a.reads).how = .overflowed) :
      Ends s session a [.brokeOff]
  /-- The write fails, whatever the handler makes of it. -/
  | unsent {request : Request} {left : Octets} {later : List Read} {w : Response} {e : Error}
      (hread : s.Receives a request left later)
      (hwrites : s.written? session (a.fresh 0) request = some w)
      (hfails : a.delivery.error? = some e) :
      Ends s session a [.received request, .sent (a.delivery.taken (Encoder.response w request.method)),
        .reported ⟨.writing, e⟩]
  /-- The handler fails, and no write did. -/
  | failed {request : Request} {left : Octets} {later : List Read} {e : Error}
      (hread : s.Receives a request left later)
      (hwhole : s.written? session (a.fresh 0) request = none ∨ a.delivery = .whole)
      (hresult : (s.scriptFor session (a.fresh 0) request).result (.ok ()) = .error e) :
      Ends s session a [.received request, .sent (s.leaving session (a.fresh 0) request .whole),
        .reported ⟨.handling, e⟩]
  /-- The handler is done and has not written. -/
  | silent {request : Request} {left : Octets} {later : List Read}
      (hread : s.Receives a request left later)
      (hwrites : s.written? session (a.fresh 0) request = none)
      (hresult : (s.scriptFor session (a.fresh 0) request).result (.ok ()) = .ok ()) :
      Ends s session a [.received request, .sent [], .reported ⟨.handling, .responseNotWritten⟩]
  /-- The request is answered, and asks for the end. -/
  | closing {request : Request} {left : Octets} {later : List Read} {w : Response}
      (hread : s.Receives a request left later)
      (hwrites : s.written? session (a.fresh 0) request = some w)
      (hwhole : a.delivery = .whole)
      (hresult : (s.scriptFor session (a.fresh 0) request).result (.ok ()) = .ok ())
      (hclose : wantsClose request.version request.fields) :
      Ends s session a [.received request, .sent (Encoder.response w request.method)]

/-- Some requests are read and answered, and the session reads on. -/
inductive Proceeds (s : Service) (session : Session) : Ahead → List SessionEvent → Ahead → Prop where
  | refl (a : Ahead) : Proceeds s session a [] a
  | step {a a' a'' : Ahead} {es es' : List SessionEvent} (hkeeps : s.Keeps session a es a')
      (hrest : Proceeds s session a' es' a'') : Proceeds s session a (es ++ es') a''

variable {s : Service} {session : Session} {a : Ahead}

/-! ## One turn -/

/-- The router waits for its own writes. -/
theorem awaits_unrouted {η : Type} (router : Router η) (m : Method) (path : String) :
    (unrouted router m path).Awaits := by
  unfold unrouted
  split
  · exact fun _ => trivial
  · exact fun _ => trivial

/-- If handlers wait for their writes, so does the script for every request. -/
theorem Awaits.scriptFor (hs : s.Awaits) (session : Session) (fresh : RequestId) (request : Request) :
    (s.scriptFor session fresh request).Awaits :=
  scriptFor_of_handlers hs (awaits_unrouted s.router) session fresh request

/-- The course of a session from a request that was read: the answer, and then a report, the end or the next request. -/
theorem course_of_receives {request : Request} {left : Octets} {later : List Read}
    (hread : s.Receives a request left later) :
    s.course session a =
      [.received request, .sent (s.leaving session (a.fresh 0) request a.delivery)] ++
        match s.told? session (a.fresh 0) request a.delivery with
        | some r => [.reported r]
        | none =>
          if wantsClose request.version request.fields then []
          else s.course session
            ⟨fun n => a.fresh (n + 1), left, later, s.comingAfter session (a.fresh 0) request a.coming⟩ := by
  obtain ⟨head, body, hreads, rfl⟩ := hread
  rw [course, serve_of_reads hreads]
  rfl

/-- Where nothing is written only the result of the handler counts, and it does not wait for anything. -/
theorem ends_of_not_written {request : Request} {left : Octets} {later : List Read}
    (hread : s.Receives a request left later) (hwrites : s.written? session (a.fresh 0) request = none) :
    s.Ends session a (s.course session a) := by
  rw [course_of_receives hread, told?_of_not_heard (Script.heard?_of_not_written hwrites _),
    Script.result_of_not_written hwrites _ (.ok ()), leaving_of_not_written hwrites, hwrites]
  cases hresult : (s.scriptFor session (a.fresh 0) request).result (.ok ()) with
  | error e =>
    have hfailed : s.Ends session a _ := .failed hread (.inl hwrites) hresult
    rwa [leaving_of_not_written hwrites] at hfailed
  | ok u => exact .silent hread hwrites hresult

/-- A turn that reads a request is the last, or the session reads on. -/
theorem ends_or_keeps_of_receives (hs : s.Awaits) {request : Request} {left : Octets} {later : List Read}
    (hread : s.Receives a request left later) :
    s.Ends session a (s.course session a) ∨
      ∃ es a', s.Keeps session a es a' ∧ s.course session a = es ++ s.course session a' := by
  -- What is reported is settled in this order: nothing written, the failure of the write, and the handler's own result.
  cases hwrites : s.written? session (a.fresh 0) request with
  | none => exact .inl (ends_of_not_written hread hwrites)
  | some w =>
    have hheard := Script.heard?_of_awaits (hs.scriptFor session (a.fresh 0) request) hwrites a.delivery
    have hturn : s.course session a = _ := course_of_receives hread
    cases hfails : a.delivery.error? with
    | some e =>
      rw [leaving_of_written hwrites, told?_of_heard (hheard.trans hfails)] at hturn
      rw [hturn]
      exact .inl (.unsent hread hwrites hfails)
    | none =>
      have hwhole : a.delivery = .whole := Delivery.eq_whole_of_error? hfails
      -- From here on the response has left, and the writes to come are one less.
      have hcoming : s.comingAfter session (a.fresh 0) request a.coming = a.coming.tail := by
        rw [comingAfter, hwrites, Option.elim_some]
      rw [told?_of_not_heard (hheard.trans hfails), hwhole, hcoming, leaving_of_written hwrites, hwrites] at hturn
      cases hresult : (s.scriptFor session (a.fresh 0) request).result (.ok ()) with
      | error e =>
        have hfailed : s.Ends session a _ := .failed hread (.inr hwhole) hresult
        rw [leaving_of_written hwrites] at hfailed
        rw [hturn, Delivery.result_whole, hresult]
        exact .inl hfailed
      | ok u =>
        rw [hturn, Delivery.result_whole, hresult]
        by_cases hclose : wantsClose request.version request.fields = true
        · rw [if_pos hclose]
          exact .inl (.closing hread hwrites hwhole hresult hclose)
        · rw [if_neg hclose]
          exact .inr ⟨_, _, .answered hread hwrites hwhole hresult hclose, rfl⟩

/-- **Every turn of a session is the last, or the session reads on** with less to be read. -/
theorem ends_or_keeps (hs : s.Awaits) (session : Session) (a : Ahead) :
    s.Ends session a (s.course session a) ∨
      ∃ es a', s.Keeps session a es a' ∧ s.course session a = es ++ s.course session a' := by
  -- By the end of the read: only a request can keep the session going.
  cases hread : (Reader.read .request s.limits a.buffer a.reads).how with
  | message head body => exact ends_or_keeps_of_receives hs ⟨head, body, ReadResult.eq_of_how hread, rfl⟩
  | failed e =>
    left
    rw [course, serve_of_failed hread, afterFailedRead]
    cases hpeer : e.isPeerClosed with
    | true => exact .left hread hpeer
    | false => exact .unread hread hpeer
  | overflowed =>
    left
    rw [course, serve_of_overflowed hread]
    exact .brokeOff hread

/-- A request that was answered has used octets, so there is an end to them. -/
theorem Keeps.available_lt {es : List SessionEvent} {a' : Ahead} (h : s.Keeps session a es a') :
    a'.available < a.available := by
  obtain ⟨⟨head, body, hreads, -⟩, -, -, -, -⟩ := h
  have hlt := Reader.available_lt Head.shortens_requestHead s.limits a.buffer a.reads (congrArg ReadResult.how hreads)
  rwa [hreads] at hlt

/-! ## A whole session -/

/-- **A session is some requests answered in full and one last turn.** -/
theorem exists_proceeds_ends (hs : s.Awaits) (session : Session) (a : Ahead) :
    ∃ before a' last, s.Proceeds session a before a' ∧ s.Ends session a' last ∧
      s.course session a = before ++ last := by
  induction h : a.available using Nat.strongRecOn generalizing a with
  | _ n ih =>
    subst h
    rcases ends_or_keeps hs session a with hends | ⟨es, a', hkeeps, hcourse⟩
    · exact ⟨[], a, _, .refl a, hends, rfl⟩
    · obtain ⟨before, a'', last, hproceeds, hends, hrest⟩ := ih _ hkeeps.available_lt a' rfl
      exact ⟨es ++ before, a'', last, .step hkeeps hproceeds, hends, by rw [hcourse, hrest, List.append_assoc]⟩

/-- While a session reads on nothing is reported. -/
theorem Proceeds.reports_eq_nil {es : List SessionEvent} {a' : Ahead} (h : s.Proceeds session a es a') :
    SessionEvent.reports es = [] := by
  induction h with
  | refl a => rfl
  | step hkeeps hrest ih =>
    cases hkeeps
    rw [SessionEvent.reports_exchange, ih]

/-- Only the end of the last turn can be a report. -/
theorem Ends.exists_init {last : List SessionEvent} (h : s.Ends session a last) :
    ∃ init e, last = init ++ [e] ∧ SessionEvent.reports init = [] := by
  cases h with
  | left | unread | brokeOff => exact ⟨[], _, rfl, rfl⟩
  | unsent | failed | silent => exact ⟨[_, _], _, rfl, rfl⟩
  | closing => exact ⟨[_], _, rfl, rfl⟩

/-- An event that is a report is among the reports. -/
theorem reports_ne_nil {r : Report} {es : List SessionEvent} (h : .reported r ∈ es) : SessionEvent.reports es ≠ [] :=
  List.ne_nil_of_mem (List.mem_filterMap.mpr ⟨_, h, rfl⟩)

/-- Where only the last of some events may be a report, there is at most one report and nothing comes after it. -/
theorem reports_le_one_of_init {events init : List SessionEvent} {e : SessionEvent} (hevents : events = init ++ [e])
    (hinit : SessionEvent.reports init = []) :
    (SessionEvent.reports events).length ≤ 1 ∧
      ∀ pre r post, events = pre ++ .reported r :: post → post = [] := by
  constructor
  · rw [hevents, SessionEvent.reports_append, hinit]
    exact List.length_filterMap_le _ _
  · intro pre r post hpost
    rcases List.eq_nil_or_concat post with rfl | ⟨post, last, rfl⟩
    · rfl
    · -- The report would be among the events before the last.
      have hsame : init ++ [e] = (pre ++ .reported r :: post) ++ [last] := by
        rw [← hevents, hpost]
        simp
      have hmem : .reported r ∈ init := by
        rw [(List.append_inj' hsame rfl).1]
        simp
      exact absurd hinit (reports_ne_nil hmem)

/-- **What a session reports.** Requests are answered in full without a report until the last turn, which goes in one
of the ways of `Ends`: so there is at most one report, and nothing happens after it. A second write sends nothing. -/
theorem report_ends_session (hs : s.Awaits) (session : Session) (a : Ahead) :
    (∃ before a' last, s.Proceeds session a before a' ∧ SessionEvent.reports before = [] ∧
      s.Ends session a' last ∧ s.course session a = before ++ last) ∧
    (SessionEvent.reports (s.course session a)).length ≤ 1 ∧
    (∀ pre r post, s.course session a = pre ++ .reported r :: post → post = []) ∧
    ∀ (sc : Script (Except Error Unit)) (x : Exchange) (out : Outgoing), x.written = true →
      ∃ r, (x.play Outgoing.outlet sc).run out = ((sc.refused, { x with response := r }), out) := by
  obtain ⟨before, a', last, hproceeds, hends, hcourse⟩ := exists_proceeds_ends hs session a
  have hbefore := hproceeds.reports_eq_nil
  obtain ⟨init, e, hlast, hinit⟩ := hends.exists_init
  have hevents : s.course session a = (before ++ init) ++ [e] := by rw [hcourse, hlast, List.append_assoc]
  have hone := reports_le_one_of_init hevents (by rw [SessionEvent.reports_append, hbefore, hinit, List.append_nil])
  exact ⟨⟨before, a', last, hproceeds, hbefore, hends, hcourse⟩, hone.1, hone.2,
    fun sc _ out hwritten => Exchange.play_of_written sc hwritten out⟩

/-- A handler that writes again when its write fails, and then fails with an error of its own. -/
def stubborn : Handler := fun _ => .write fun _ => .write fun _ => .finish (.error (.handler "no luck"))

/-- A service that answers one path in that way. -/
def stubbornService : Service := ⟨Router.ofInsertions [⟨"/", .get, stubborn⟩], .standard⟩

/-- A handler that meets a failed write with another write and an error of its own still gives one report. -/
theorem report_ends_session_stubborn :
    stubbornService.Awaits ∧
      (SessionEvent.reports (stubbornService.course .loopback
        ⟨.made 0, [], [.data (octets "GET / HTTP/1.1\r\n\r\nGET")], [.late 3]⟩)).length ≤ 1 := by
  have hs : stubbornService.Awaits := by
    intro v found hfound
    rw [Router.handler_of_lookup_singleton hfound]
    exact fun _ _ => trivial
  exact ⟨hs, (report_ends_session hs .loopback _).2.1⟩

end Service

end HttpService
