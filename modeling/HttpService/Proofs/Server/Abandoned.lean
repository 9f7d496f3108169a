import HttpService.Proofs.Server.Pipelining
import HttpService.Proofs.Server.Reports

/-!
# Writes that are given up

A session reads on when it has seen a write begin and has heard of no failure. A handler that starts to write and does
not wait for the end of that makes both true, whatever becomes of the write.

* `Service.Passes` — one turn of a session after which it reads on. There is exactly one response in it that was begun,
  and nothing else leaves than what the connection took of that.
* `Service.exists_continues` — a session is some such turns and a last one, in which it reads one request at most.
* `Service.whole_iff_hears` — of every turn but the last: the response leaves whole, whatever becomes of the write,
  exactly if the handler waits for the end of its first write.
* `Service.reads_on_behind_part` — what a peer makes of it where the handler does not.
-/

namespace HttpService

/-- Every response has octets to lose, its status line at least. -/
theorem Encoder.response_ne_nil (r : Response) (m : Method) : response r m ≠ [] := by
  simp [response]

/-- A request that was answered before the session read on: the identifier that was at hand for it, the response that
was begun, and what became of the write. -/
structure Turn where
  fresh : RequestId
  request : Request
  response : Response
  delivery : Delivery

/-- The octets of the response. -/
def Turn.whole (t : Turn) : Octets := Encoder.response t.response t.request.method

/-- What happens in the turn. -/
def Turn.events (t : Turn) : List SessionEvent := [.received t.request, .sent (t.delivery.taken t.whole)]

namespace Service

/-- The session reads on after a request: there is nothing to report, and the request does not ask for the end. -/
def ReadsOn (s : Service) (session : Session) (fresh : RequestId) (request : Request) (d : Delivery) : Prop :=
  s.told? session fresh request d = none ∧ ¬ wantsClose request.version request.fields = true

/-- A request is read, something is made of it, and the session reads on. -/
inductive Passes (s : Service) (session : Session) (a : Ahead) : Turn → Ahead → Prop where
  | answered {request : Request} {left : Octets} {later : List Read} {w : Response}
      (hread : s.Receives a request left later)
      (hwrites : s.written? session (a.fresh 0) request = some w)
      (hon : s.ReadsOn session (a.fresh 0) request a.delivery) :
      Passes s session a ⟨a.fresh 0, request, w, a.delivery⟩ ⟨fun n => a.fresh (n + 1), left, later, a.coming.tail⟩

/-- Some turns of a session after each of which it reads on. -/
inductive Continues (s : Service) (session : Session) : Ahead → List Turn → Ahead → Prop where
  | refl (a : Ahead) : Continues s session a [] a
  | step {a a' a'' : Ahead} {t : Turn} {turns : List Turn} (hpasses : s.Passes session a t a')
      (hrest : Continues s session a' turns a'') : Continues s session a (t :: turns) a''

variable {s : Service} {session : Session} {a a' : Ahead} {t : Turn}

/-! ## One turn -/

/-- What happens in a turn comes before what happens in the rest of the session. -/
theorem Passes.course_eq (h : s.Passes session a t a') : s.course session a = t.events ++ s.course session a' := by
  cases h with
  | @answered request left later w hread hwrites hon =>
    obtain ⟨htold, hclose⟩ := hon
    have hcoming : s.comingAfter session (a.fresh 0) request a.coming = a.coming.tail := by
      rw [comingAfter, hwrites, Option.elim_some]
    rw [course_of_receives hread, htold, leaving_of_written hwrites, hcoming]
    show _ ++ (if wantsClose request.version request.fields then _ else _) = _
    rw [if_neg hclose]
    rfl

/-- A turn uses octets of its request, so there are only so many turns. -/
theorem Passes.available_lt (h : s.Passes session a t a') : a'.available < a.available := by
  obtain ⟨⟨head, body, hreads, -⟩, -, -⟩ := h
  have hlt := Reader.available_lt Head.shortens_requestHead s.limits a.buffer a.reads (congrArg ReadResult.how hreads)
  rwa [hreads] at hlt

/-- A turn is one of these, or there is none, and then one request is read at most. -/
theorem passes_or_stops (s : Service) (session : Session) (a : Ahead) :
    (∃ t a', s.Passes session a t a') ∨ (SessionEvent.requests (s.course session a)).length ≤ 1 := by
  by_cases hpasses : ∃ t a', s.Passes session a t a'
  · exact .inl hpasses
  · right
    -- A read that gives no request, a report or a request for the end: each of them is the last of the session.
    cases hread : (Reader.read .request s.limits a.buffer a.reads).how with
    | failed e =>
      rw [course, serve_of_failed hread, afterFailedRead]
      split
      · exact Nat.zero_le 1
      · exact Nat.zero_le 1
    | overflowed =>
      rw [course, serve_of_overflowed hread]
      exact Nat.zero_le 1
    | message head body =>
      have hreceives : s.Receives a (head.withBody body) _ _ := ⟨head, body, ReadResult.eq_of_how hread, rfl⟩
      rw [course_of_receives hreceives, SessionEvent.requests_exchange]
      cases htold : s.told? session (a.fresh 0) (head.withBody body) a.delivery with
      | some r => exact Nat.le_refl 1
      | none =>
        obtain ⟨w, hwrites⟩ := exists_written_of_not_told htold
        by_cases hclose : wantsClose head.version head.fields = true
        · simp only [RequestHead.withBody, hclose, if_true]
          exact Nat.le_refl 1
        · -- Nothing keeps the session from reading on, so this would be a turn.
          exact absurd ⟨_, _, .answered hreceives hwrites ⟨htold, hclose⟩⟩ hpasses

/-- **When a response leaves whole before the session reads on.** It does, whatever becomes of the write, exactly if the
handler waits for the end of its first write. -/
theorem leaving_whole_iff {fresh : RequestId} {request : Request} {w : Response} {d : Delivery}
    (hwrites : s.written? session fresh request = some w) (hon : s.ReadsOn session fresh request d) :
    (∀ d, s.ReadsOn session fresh request d →
        s.leaving session fresh request d = Encoder.response w request.method) ↔
      (s.scriptFor session fresh request).Hears := by
  constructor
  · intro hwhole
    by_contra hnot
    -- Nothing of the write comes back to such a handler, so the session also reads on when no octet has left.
    have hnothing : s.ReadsOn session fresh request (.late 0) := by
      refine ⟨?_, hon.2⟩
      have htold := hon.1
      rw [told?_of_not_heard (Script.heard?_of_not_hears hnot _)] at htold ⊢
      rwa [Script.result_of_not_hears hnot _ d.result]
    have hall := hwhole _ hnothing
    rw [leaving_of_written hwrites] at hall
    exact Encoder.response_ne_nil w request.method hall.symm
  · intro hears d hon
    have hheard := Script.heard?_of_hears hears hwrites d
    cases hfails : d.error? with
    | some e =>
      -- A failure that is heard of is reported.
      have htold := hon.1
      rw [told?_of_heard (hheard.trans hfails)] at htold
      cases htold
    | none =>
      rw [leaving_of_written hwrites, Delivery.eq_whole_of_error? hfails]
      rfl

/-! ## Whole sessions -/

/-- **A session is some turns after which it reads on, and a last one.** -/
theorem exists_continues (s : Service) (session : Session) (a : Ahead) :
    ∃ turns a', s.Continues session a turns a' ∧ (SessionEvent.requests (s.course session a')).length ≤ 1 ∧
      s.course session a = turns.flatMap Turn.events ++ s.course session a' := by
  -- Every turn takes something of what there is to be read, so there is a last one.
  induction h : a.available using Nat.strongRecOn generalizing a with
  | _ n ih =>
    subst h
    rcases passes_or_stops s session a with ⟨t, a', hpasses⟩ | hone
    · obtain ⟨turns, a'', hrest, hone, hcourse⟩ := ih _ hpasses.available_lt a' rfl
      refine ⟨t :: turns, a'', .step hpasses hrest, hone, ?_⟩
      rw [hpasses.course_eq, hcourse, List.flatMap_cons, List.append_assoc]
    · exact ⟨[], a, .refl a, hone, rfl⟩

/-- Every turn of them is one after which the session reads on. -/
theorem Continues.turn {turns : List Turn} (h : s.Continues session a turns a') (ht : t ∈ turns) :
    s.written? session t.fresh t.request = some t.response ∧
      s.ReadsOn session t.fresh t.request t.delivery := by
  induction h with
  | refl a => cases ht
  | step hpasses hrest ih =>
    rcases List.mem_cons.mp ht with rfl | ht
    · obtain ⟨hread, hwrites, hon⟩ := hpasses
      exact ⟨hwrites, hon⟩
    · exact ih ht

/-- **What a session has sent when it reads on.** Every session, whatever its handlers do, is some turns after which it
reads on and a last one, in which it reads one request at most. In each turn exactly one response was begun, and what
left is what the connection took of that. All of it leaves, whatever becomes of the write, exactly if the handler waits
for the end of its first write; a handler that gives the write up lets the session read on behind a part of it. -/
theorem whole_iff_hears (s : Service) (session : Session) (a : Ahead) :
    ∃ turns a', s.Continues session a turns a' ∧
      (SessionEvent.requests (s.course session a')).length ≤ 1 ∧
      s.course session a = turns.flatMap Turn.events ++ s.course session a' ∧
      ∀ t ∈ turns,
        s.written? session t.fresh t.request = some t.response ∧
        s.ReadsOn session t.fresh t.request t.delivery ∧
        ((∀ d, s.ReadsOn session t.fresh t.request d → s.leaving session t.fresh t.request d = t.whole) ↔
          (s.scriptFor session t.fresh t.request).Hears) := by
  obtain ⟨turns, a', hcontinues, hone, hcourse⟩ := exists_continues s session a
  refine ⟨turns, a', hcontinues, hone, hcourse, fun t ht => ?_⟩
  obtain ⟨hwrites, hon⟩ := hcontinues.turn ht
  exact ⟨hwrites, hon, leaving_whole_iff hwrites hon⟩

/-- A service whose handler begins to write a greeting, gives that up and is content. -/
def hastyService : Service :=
  ⟨Router.ofInsertions [⟨"/", .get, fun _ =>
    .change (fun r => { r with body := "hello" }) (.abandon (.finish (.ok ())))⟩], .standard⟩

/-- A request for the greeting. -/
def greetingRequest : Request :=
  ⟨.get, .ofPath ⟨"/", none⟩, .http11, .ofLines [(.requestId, ⟨octets "01ARZ3NDEKTSV4RRFFQ69G5FAV", by decide⟩)], ""⟩

/-- Its octets. -/
def askingToGreet : Octets := octets "GET / HTTP/1.1\r\nx-request-id: 01ARZ3NDEKTSV4RRFFQ69G5FAV\r\n\r\n"

/-- The octets of the greeting. -/
def greeting : Octets :=
  octets "HTTP/1.1 200 OK\r\nx-request-id: 01ARZ3NDEKTSV4RRFFQ69G5FAV\r\ncontent-length: 5\r\n\r\nhello"

/-- It brings its own identifier, so the one at hand does not matter. -/
theorem written?_greetingRequest (fresh : RequestId) :
    ∃ w, hastyService.written? .loopback fresh greetingRequest = some w ∧ Encoder.response w .get = greeting := by
  have hid : Exchange.idOf greetingRequest fresh = Exchange.idOf greetingRequest (.made 0 0) := rfl
  have hgreets : (hastyService.written? .loopback (.made 0 0) greetingRequest).map (Encoder.response · .get) =
      some greeting := by decide +kernel
  unfold written? scriptFor
  rw [hid]
  exact Option.map_eq_some_iff.mp hgreets

/-- A request for the greeting is read, and the session reads on. -/
theorem course_hastyService {a : Ahead} {left : Octets} {later : List Read}
    (hread : hastyService.Receives a greetingRequest left later) :
    hastyService.course .loopback a =
      [.received greetingRequest, .sent (a.delivery.taken greeting)] ++
        hastyService.course .loopback ⟨fun n => a.fresh (n + 1), left, later, a.coming.tail⟩ := by
  obtain ⟨w, hwrites, hgreets⟩ := written?_greetingRequest (a.fresh 0)
  have hpasses : hastyService.Passes .loopback a ⟨a.fresh 0, greetingRequest, w, a.delivery⟩ _ :=
    .answered hread hwrites ⟨told?_of_done rfl hwrites rfl, Bool.false_ne_true⟩
  rw [hpasses.course_eq, ← hgreets]
  rfl

set_option maxRecDepth 2000 in
/-- The first of two greetings is given up in its body, and the second is sent behind that. The peer takes the beginning
of the second head for the rest of the first body. -/
theorem reads_on_behind_part :
    let part := greeting.take 82
    part ≠ greeting ∧
      hastyService.course .loopback ⟨.made 0, [], [.data (askingToGreet ++ askingToGreet)], [.late 82]⟩ =
        [.received greetingRequest, .sent part, .received greetingRequest, .sent greeting, .peerLeft .endOfStream] ∧
      ∃ head left,
        Reader.read (.response .get) .standard [] [.data part, .data greeting] = ⟨.message head "heHTT", left, []⟩ := by
  intro part
  have hpart : part ≠ greeting := fun h => absurd (congrArg List.length h) (by decide +kernel)
  -- The first write is dropped with three octets to go, and nobody is told.
  have hfirst : hastyService.course .loopback ⟨.made 0, [], [.data (askingToGreet ++ askingToGreet)], [.late 82]⟩ =
      [.received greetingRequest, .sent part] ++
        hastyService.course .loopback ⟨fun n => .made 0 (n + 1), askingToGreet, [], []⟩ :=
    course_hastyService ⟨_, _, rfl, rfl⟩
  -- The second request is read and answered in full.
  have hsecond : hastyService.course .loopback ⟨fun n => .made 0 (n + 1), askingToGreet, [], []⟩ =
      [.received greetingRequest, .sent greeting] ++
        hastyService.course .loopback ⟨fun n => .made 0 (n + 2), [], [], []⟩ :=
    course_hastyService ⟨_, _, rfl, rfl⟩
  have hnothing : (Reader.read .request hastyService.limits [] []).how = .failed .endOfStream := rfl
  have hends : hastyService.course .loopback ⟨fun n => .made 0 (n + 2), [], [], []⟩ = [.peerLeft .endOfStream] := by
    rw [course, serve_of_failed hnothing]
    rfl
  refine ⟨hpart, ?_, _, _, rfl⟩
  rw [hfirst, hsecond, hends]
  rfl

end Service

end HttpService
