import HttpService.Proofs.Server.Pipelining
import HttpService.Proofs.Server.Reports
import HttpService.Proofs.Wire.Truncated

/-!
# A peer that leaves

A peer may stop sending at any octet. Of the requests that it meant to send, the session then answers those that came
whole, and the next read fails: with the end of the stream where the peer stopped between two requests, as truncated
where it stopped inside of one. Neither is reported, since the peer is free to leave.

* `Service.Succeeds` — the handlers write and come to success.
* `Service.course_of_whole` — a request that came whole is answered in full, and the session reads on.
* `Service.how_read_of_cut` — how the read fails behind the last of them.
* `Service.departure_is_quiet` — the course of such a session, for a peer that stops anywhere.
-/

namespace HttpService

/-- The script writes the response, and comes to success when the write does. -/
structure Script.Succeeds (sc : Script (Except Error Unit)) : Prop where
  writes : ∀ r, ∃ w, sc.written? r = some w
  succeeds : sc.result (.ok ()) = .ok ()

/-- A script that answers, whatever it fills in, is such a script. -/
theorem Script.Responds.succeeds_script {fill : Response → Response} {sc : Script (Except Error Unit)}
    (h : sc.Responds fill) : sc.Succeeds :=
  ⟨fun r => ⟨fill r, h.writes r⟩, h.succeeds⟩

/-- How the peer has left: between two requests, or after these octets of one. -/
def departure (cut : Octets) : Error := if cut = [] then .endOfStream else .io .truncated

/-- Either way to leave is one that a peer is free to take. -/
theorem isPeerClosed_departure (cut : Octets) : (departure cut).isPeerClosed = true := by
  unfold departure
  split
  · rfl
  · rfl

namespace Service

/-- The handlers write and come to success. What they write is up to them. -/
def Succeeds (s : Service) : Prop :=
  ∀ v found, s.router.lookup v.request.method v.request.target.path = some found → (found.handler v).Succeeds

variable {s : Service} {session : Session}

/-- Handlers that succeed are enough for the service to succeed with every request. -/
theorem Succeeds.scriptFor (hs : s.Succeeds) (session : Session) (fresh : RequestId) (request : Request) :
    (s.scriptFor session fresh request).Succeeds := by
  -- A request without a route is answered as well, by what the router writes itself.
  have hunrouted : ∀ m path, (unrouted s.router m path).Succeeds := fun m path =>
    (responds_unrouted s.router m path).succeeds_script
  exact scriptFor_of_handlers hs hunrouted session fresh request

/-! ## Requests that came whole -/

/-- A request that is read is answered in full, and the session reads on unless it asks for the end. -/
theorem Succeeds.course_of_receives (hs : s.Succeeds) {a : Ahead} {request : Request} {left : Octets}
    {later : List Read} (hread : s.Receives a request left later) (hwhole : a.delivery = .whole)
    (hopen : ¬ request.asksForEnd = true) :
    ∃ es, s.Keeps session a es ⟨fun n => a.fresh (n + 1), left, later, a.coming.tail⟩ ∧
      SessionEvent.requests es = [request] ∧
      s.course session a = es ++ s.course session ⟨fun n => a.fresh (n + 1), left, later, a.coming.tail⟩ := by
  have hscript := hs.scriptFor session (a.fresh 0) request
  obtain ⟨w, hwrites⟩ := hscript.writes (Exchange.blank request (Exchange.idOf request (a.fresh 0)))
  have hwritten : s.written? session (a.fresh 0) request = some w := hwrites
  have hcoming : s.comingAfter session (a.fresh 0) request a.coming = a.coming.tail := by
    rw [comingAfter, hwritten, Option.elim_some]
  refine ⟨_, .answered hread hwritten hwhole hscript.succeeds hopen, rfl, ?_⟩
  rw [Service.course_of_receives hread, hwhole, told?_of_done (Script.heard?_whole _) hwritten hscript.succeeds,
    leaving_of_written hwritten, hcoming]
  exact congrArg _ (if_neg hopen)

/-- **A request that came whole is answered**, in whatever pieces it came, and what follows it is left. -/
theorem course_of_whole (hs : s.Succeeds) (w : WireRequest s.limits) (hopen : ¬ w.request.asksForEnd = true)
    (fresh : Nat → RequestId) {buffer behind : Octets} {pieces : List Octets} (after : List Read)
    {coming : List Delivery} (hne : ∀ c ∈ pieces, c ≠ []) (hbytes : buffer ++ pieces.flatten = w.bytes ++ behind)
    (hsends : ∀ d ∈ coming, d = .whole) :
    ∃ (es : List SessionEvent) (left : Octets) (pieces' : List Octets),
      (∀ c ∈ pieces', c ≠ []) ∧ left ++ pieces'.flatten = behind ∧ SessionEvent.requests es = [w.request] ∧
      s.Keeps session ⟨fresh, buffer, pieces.map .data ++ after, coming⟩ es
        ⟨fun n => fresh (n + 1), left, pieces'.map .data ++ after, coming.tail⟩ ∧
      s.course session ⟨fresh, buffer, pieces.map .data ++ after, coming⟩ =
        es ++ s.course session ⟨fun n => fresh (n + 1), left, pieces'.map .data ++ after, coming.tail⟩ := by
  obtain ⟨left, pieces', hread, hne', hleft⟩ := Reader.read_of_spells Head.complete_requestHead w.spells
    (Reader.not_lastsToEnd_request s.limits w.bytes) hne hbytes after
  have hwhole : (⟨fresh, buffer, pieces.map .data ++ after, coming⟩ : Ahead).delivery = .whole := by
    cases coming with
    | nil => rfl
    | cons d ds => exact hsends d List.mem_cons_self
  have hreceives : s.Receives ⟨fresh, buffer, pieces.map .data ++ after, coming⟩ w.request left
      (pieces'.map .data ++ after) := ⟨w.head, w.text, hread, rfl⟩
  obtain ⟨es, hkeeps, hrequests, hcourse⟩ := hs.course_of_receives hreceives hwhole hopen
  exact ⟨es, left, pieces', hne', hleft, hrequests, hkeeps, hcourse⟩

/-! ## The last read -/

/-- Where the octets of a request are cut, and where there are none of it, the read fails with the departure. -/
theorem how_read_of_cut {limits : Limits} {buffer : Octets} {pieces : List Octets} {after : List Read}
    (hne : ∀ c ∈ pieces, c ≠ []) (hafter : Reader.Ends after)
    (hcut : buffer ++ pieces.flatten = [] ∨ Form.request.Cut limits (buffer ++ pieces.flatten)) :
    (Reader.read .request limits buffer (pieces.map .data ++ after)).how =
      .failed (departure (buffer ++ pieces.flatten)) := by
  by_cases hnil : buffer ++ pieces.flatten = []
  · rw [departure, if_pos hnil]
    exact Reader.how_read_of_nothing limits hne hnil hafter
  · have hcut' := hcut.resolve_left hnil
    rw [departure, if_neg hnil]
    exact Reader.how_read_of_cut Head.complete_requestHead (Reader.not_lastsToEnd_request limits) hne hcut' hnil hafter

/-- A departure is the last that happens in a session, and is not reported. -/
theorem course_of_cut {a : Ahead} {cut : Octets}
    (hread : (Reader.read .request s.limits a.buffer a.reads).how = .failed (departure cut)) :
    s.course session a = [.peerLeft (departure cut)] := by
  rw [course, serve_of_failed hread, afterFailedRead, if_pos (isPeerClosed_departure cut)]

/-! ## Whole sessions -/

/-- The session answers these requests in full and then finds that the peer has left, with these octets of a further
request. -/
def Departs (s : Service) (session : Session) (a : Ahead) (whole : List Request) (cut : Octets) : Prop :=
  ∃ before a', s.Proceeds session a before a' ∧ SessionEvent.requests before = whole ∧
    (Reader.read .request s.limits a'.buffer a'.reads).how = .failed (departure cut) ∧
    s.course session a = before ++ [.peerLeft (departure cut)]

/-- The peer may have left before the next request was whole. -/
theorem departs_of_cut {a : Ahead} {cut : Octets}
    (hread : (Reader.read .request s.limits a.buffer a.reads).how = .failed (departure cut)) :
    s.Departs session a [] cut :=
  ⟨[], a, .refl a, rfl, hread, course_of_cut hread⟩

/-- It may also have left after it: the request is answered, and the rest of the session is one that departs. -/
theorem Departs.cons {a a' : Ahead} {es : List SessionEvent} {request : Request} {whole : List Request} {cut : Octets}
    (h : s.Departs session a' whole cut) (hkeeps : s.Keeps session a es a')
    (hrequests : SessionEvent.requests es = [request])
    (hcourse : s.course session a = es ++ s.course session a') : s.Departs session a (request :: whole) cut := by
  obtain ⟨before, a'', hproceeds, hbefore, hread, hrest⟩ := h
  refine ⟨es ++ before, a'', .step hkeeps hproceeds, ?_, hread, ?_⟩
  · rw [SessionEvent.requests, List.filterMap_append]
    show SessionEvent.requests es ++ SessionEvent.requests before = _
    rw [hrequests, hbefore, List.singleton_append]
  · rw [hcourse, hrest, List.append_assoc]

/-- In such a session nobody is told of anything. -/
theorem Departs.reports_eq_nil {a : Ahead} {whole : List Request} {cut : Octets}
    (h : s.Departs session a whole cut) : SessionEvent.reports (s.course session a) = [] := by
  obtain ⟨before, a', hproceeds, -, -, hcourse⟩ := h
  rw [hcourse, SessionEvent.reports_append, hproceeds.reports_eq_nil]
  rfl

/-- A beginning of some messages that does not hold the first of them is nothing, or the first one cut. -/
theorem cut_of_not_prefix {limits : Limits} {w : WireRequest limits} {sent behind : Octets}
    (hfront : sent <+: w.bytes ++ behind) (hnot : ¬ w.bytes <+: sent) : Form.request.Cut limits sent := by
  obtain ⟨rest, hrest⟩ : sent <+: w.bytes :=
    (List.prefix_or_prefix_of_prefix hfront (List.prefix_append w.bytes behind)).resolve_right hnot
  have hne : rest ≠ [] := by
    rintro rfl
    rw [List.append_nil] at hrest
    exact hnot (hrest ▸ List.prefix_rfl)
  have hspells := w.spells
  have hends := Reader.not_lastsToEnd_request limits w.bytes
  rw [← hrest] at hspells hends
  exact hspells.cut hends hne

/-- **A peer may leave at any octet, and nothing is reported.** Let it send some part of its requests from their
beginning, in any pieces, and then stop. The session answers exactly the requests that came whole, in their order. The
next read fails with the end of the stream if nothing follows them, and as truncated if the octets of a request follow
that are not all of it. -/
theorem departure_is_quiet (hs : s.Succeeds) (session : Session) (fresh : Nat → RequestId)
    (ws : List (WireRequest s.limits)) (hopen : ∀ w ∈ ws, ¬ w.request.asksForEnd = true) (sent : Octets)
    (hfront : sent <+: ws.flatMap WireRequest.bytes) (buffer : Octets) (pieces : List Octets)
    (hne : ∀ c ∈ pieces, c ≠ []) (hbytes : buffer ++ pieces.flatten = sent) (after : List Read)
    (hafter : Reader.Ends after) (coming : List Delivery) (hsends : ∀ d ∈ coming, d = .whole) :
    ∃ whole rest cut, ws = whole ++ rest ∧ sent = whole.flatMap WireRequest.bytes ++ cut ∧
      (∀ w ∈ rest.head?, ¬ w.bytes <+: cut) ∧
      s.Departs session ⟨fresh, buffer, pieces.map .data ++ after, coming⟩ (whole.map WireRequest.request) cut ∧
      SessionEvent.reports (s.course session ⟨fresh, buffer, pieces.map .data ++ after, coming⟩) = [] := by
  -- The induction is on what the peer meant to send. Each request that came whole is taken off in front.
  induction ws generalizing fresh sent buffer pieces coming with
  | nil =>
    obtain rfl : sent = [] := List.prefix_nil.mp hfront
    have hdeparts : s.Departs session ⟨fresh, buffer, pieces.map .data ++ after, coming⟩ [] [] := by
      refine departs_of_cut ?_
      rw [← hbytes]
      exact how_read_of_cut hne hafter (.inl hbytes)
    exact ⟨[], [], [], rfl, rfl, (fun w hw => by cases hw), hdeparts, hdeparts.reports_eq_nil⟩
  | cons w ws ih =>
    rw [List.flatMap_cons] at hfront
    by_cases hwhole : w.bytes <+: sent
    · -- The first request came whole, and what is behind it is a part of the others.
      obtain ⟨behind, rfl⟩ := hwhole
      obtain ⟨es, left, pieces', hne', hleft, hrequests, hkeeps, hcourse⟩ :=
        course_of_whole hs w (hopen w List.mem_cons_self) fresh after hne hbytes hsends
      obtain ⟨whole, rest, cut, rfl, hsent, hrest, hdeparts, -⟩ :=
        ih (fun n => fresh (n + 1)) (fun w' hw' => hopen w' (List.mem_cons_of_mem w hw')) behind
          ((List.prefix_append_right_inj w.bytes).mp hfront) left pieces' hne' hleft coming.tail
          fun d hd => hsends d (List.mem_of_mem_tail hd)
      have hdeparts' := hdeparts.cons hkeeps hrequests hcourse
      refine ⟨w :: whole, rest, cut, rfl, ?_, hrest, hdeparts', hdeparts'.reports_eq_nil⟩
      rw [List.flatMap_cons, List.append_assoc, ← hsent]
    · -- The first request did not come whole, so what was sent is a part of it and no other has begun.
      have hcut := cut_of_not_prefix hfront hwhole
      have hdeparts : s.Departs session ⟨fresh, buffer, pieces.map .data ++ after, coming⟩ [] sent := by
        refine departs_of_cut ?_
        rw [← hbytes] at hcut ⊢
        exact how_read_of_cut hne hafter (.inr hcut)
      refine ⟨[], w :: ws, sent, rfl, rfl, fun w' hw' => ?_, hdeparts, hdeparts.reports_eq_nil⟩
      obtain rfl := Option.some.inj hw'
      exact hwhole

/-- The service that tells paths writes for every request. -/
theorem succeeds_pathService : pathService.Succeeds := by
  intro v found hfound
  rw [Router.handler_of_lookup_singleton hfound]
  exact (Script.responds_respond _).succeeds_script

/-- Two requests, of which the second is cut between the last CR and its LF. -/
theorem departure_is_quiet_inside_line_end :
    let ws : List (WireRequest .standard) :=
      [⟨octets "GET / HTTP/1.1\r\n\r\n", ⟨.get, .ofPath ⟨"/", none⟩, .http11, .empty⟩, "", rfl⟩,
        ⟨octets "GET /b HTTP/1.1\r\n\r\n", ⟨.get, .ofPath ⟨"/b", none⟩, .http11, .empty⟩, "", rfl⟩]
    let pieces := [octets "GET / HTTP/1.1\r\n\r\nGE", octets "T /b HTTP/1.1\r\n\r"]
    let sent := octets "GET / HTTP/1.1\r\n\r\nGET /b HTTP/1.1\r\n\r"
    pathService.Succeeds ∧ (∀ w ∈ ws, ¬ w.request.asksForEnd = true) ∧ sent <+: ws.flatMap WireRequest.bytes ∧
      (∀ c ∈ pieces, c ≠ []) ∧ [] ++ pieces.flatten = sent ∧
      ∃ whole rest cut, ws = whole ++ rest ∧ sent = whole.flatMap WireRequest.bytes ++ cut ∧
        (∀ w ∈ rest.head?, ¬ w.bytes <+: cut) ∧
        pathService.Departs .loopback ⟨.made 0, [], pieces.map .data ++ [], []⟩ (whole.map WireRequest.request) cut ∧
        SessionEvent.reports (pathService.course .loopback ⟨.made 0, [], pieces.map .data ++ [], []⟩) = [] := by
  intro ws pieces sent
  have hopen : ∀ w ∈ ws, ¬ w.request.asksForEnd = true := by decide
  have hfront : sent <+: ws.flatMap WireRequest.bytes := ⟨[10], by decide⟩
  have hne : ∀ c ∈ pieces, c ≠ [] := by decide
  have hbytes : [] ++ pieces.flatten = sent := by decide
  have hafter : Reader.Ends [] := fun r hr => by cases hr
  refine ⟨succeeds_pathService, hopen, hfront, hne, hbytes, ?_⟩
  exact departure_is_quiet succeeds_pathService .loopback (.made 0) ws hopen sent hfront [] pieces hne hbytes [] hafter
    [] fun d hd => absurd hd List.not_mem_nil

end Service

end HttpService
