import HttpService.Proofs.Route.Lookup
import HttpService.Proofs.Server.Exchanges
import HttpService.Proofs.Wire.Spelled

/-!
# Requests back to back

A peer may send its requests without waiting for the responses. When the handlers compute their response from the
request and write it, a session sends the responses in the order of the requests, up to the first request that asks for
the end. Each is computed from a blank response for its own request: nothing is carried over from an earlier one.

* `Script.Responds` — a script that fills the response, writes it and is done.
* `Service.AnswersBy` — the handlers do that, and look at nothing but the request.
* `Service.reply` — the response to one request, with no route or a handler.
* `Service.serve_pipelined` — what a session sends, reads and reports for requests in any pieces.
-/

namespace HttpService

/-! ## Handlers that respond -/

/-- The script writes the response as this fills it, and comes to success when the write does. -/
structure Script.Responds (fill : Response → Response) (sc : Script (Except Error Unit)) : Prop where
  writes : ∀ r, sc.written? r = some (fill r)
  succeeds : sc.result (.ok ()) = .ok ()

/-- To fill in a response and write it is to answer with it. -/
theorem Script.responds_respond (fill : Response → Response) : (respond fill).Responds fill := ⟨fun _ => rfl, rfl⟩

/-- The response to a request that no handler is for. -/
def refusing {η : Type} (router : Router η) (m : Method) (path : String) (r : Response) : Response :=
  match router.allowedMethods path with
  | [] => Script.withJson .notFound (refusal "Not Found" m path) r
  | allowed => Script.withJson .methodNotAllowed (refusal "Method Not Allowed" m path)
      { r with fields := r.fields.insertText .allow (", ".intercalate (allowed.map Method.text)) }

/-- A request without a route is answered by the router. -/
theorem responds_unrouted {η : Type} (router : Router η) (m : Method) (path : String) :
    (unrouted router m path).Responds (refusing router m path) := by
  unfold unrouted refusing
  cases router.allowedMethods path with
  | nil => exact ⟨fun _ => rfl, rfl⟩
  | cons m' ms => exact ⟨fun _ => rfl, rfl⟩

namespace Service

/-- The handlers compute the response from the request, write it and are done. -/
def AnswersBy (s : Service) (answer : Request → Response → Response) : Prop :=
  ∀ v found, s.router.lookup v.request.method v.request.target.path = some found → v.wildcards = found.wildcards →
    (found.handler v).Responds (answer v.request)

/-- The response to a request. -/
def reply (s : Service) (answer : Request → Response → Response) (fresh : RequestId) (request : Request) : Response :=
  let blank := Exchange.blank request (Exchange.idOf request fresh)
  match s.router.lookup request.method request.target.path with
  | some _ => answer request blank
  | none => refusing s.router request.method request.target.path blank

variable {s : Service} {answer : Request → Response → Response}

/-- Every request is answered with its reply, with a route or without. -/
theorem AnswersBy.written?_eq (hs : s.AnswersBy answer) (session : Session) (fresh : RequestId) (request : Request) :
    s.written? session fresh request = some (s.reply answer fresh request) ∧
      (s.scriptFor session fresh request).result (.ok ()) = .ok () := by
  unfold written? scriptFor script reply
  cases hfound : s.router.lookup request.method request.target.path with
  | some found =>
    have hresponds :=
      hs ⟨session.id, session.peer, Exchange.idOf request fresh, request, found.wildcards⟩ found hfound rfl
    exact ⟨hresponds.writes _, hresponds.succeeds⟩
  | none =>
    have hresponds := responds_unrouted s.router request.method request.target.path
    exact ⟨hresponds.writes _, hresponds.succeeds⟩

end Service

/-! ## Requests on a connection -/

/-- A request as a peer sends it. -/
structure WireRequest (limits : Limits) where
  bytes : Octets
  head : RequestHead
  text : String
  spells : Form.request.Spells limits bytes head text

/-- The request that the octets spell. -/
def WireRequest.request {limits : Limits} (w : WireRequest limits) : Request := w.head.withBody w.text

/-- Whether a request asks for the end of its connection. -/
def Request.asksForEnd (r : Request) : Bool := wantsClose r.version r.fields

/-- The requests up to the first that asks for the end. -/
def Service.served (rs : List Request) : List Request := rs.take (rs.findIdx Request.asksForEnd + 1)

/-- Of the requests that come, the first is served in any case, and the others unless it asked for the end. -/
theorem Service.served_cons (r : Request) (rs : List Request) :
    served (r :: rs) = r :: if r.asksForEnd then [] else served rs := by
  unfold served
  rw [List.take_succ_cons, List.findIdx_cons]
  cases r.asksForEnd with
  | true => rfl
  | false => rfl

/-- Where nothing is left and the stream ends there is no further request. -/
theorem Reader.how_read_nil_of_ends (limits : Limits) {after : List Read} (h : Ends after) :
    (read .request limits [] after).how = .failed .endOfStream := by
  cases after with
  | nil => rfl
  | cons r reads =>
    obtain rfl : r = .data [] := h r rfl
    exact congrArg ReadResult.how (readOn_ended _ _ _ _ _)

/-- So it is where no octet has come. -/
theorem Reader.how_read_of_nothing (limits : Limits) {buffer : Octets} {pieces : List Octets} {after : List Read}
    (hne : ∀ c ∈ pieces, c ≠ []) (h : buffer ++ pieces.flatten = []) (hafter : Ends after) :
    (read .request limits buffer (pieces.map .data ++ after)).how = .failed .endOfStream := by
  obtain ⟨rfl, hflat⟩ := List.append_eq_nil_iff.mp h
  -- There is no octet, so there is no piece.
  obtain rfl : pieces = [] := by
    cases pieces with
    | nil => rfl
    | cons c cs => exact absurd (List.flatten_eq_nil_iff.mp hflat c List.mem_cons_self) (hne c List.mem_cons_self)
  exact how_read_nil_of_ends limits hafter

namespace Service

variable {s : Service} {answer : Request → Response → Response} {session : Session}

/-- The course of a session in which these requests come back to back. -/
def exchanged (s : Service) (answer : Request → Response → Response) (fresh : Nat → RequestId) :
    List Request → List SessionEvent
  | [] => [.peerLeft .endOfStream]
  | r :: rs =>
    [.received r, .sent (Encoder.response (s.reply answer (fresh 0) r) r.method)] ++
      if r.asksForEnd then [] else s.exchanged answer (fun n => fresh (n + 1)) rs

/-- A request that is read is answered with its reply, and the session ends if it asks for that. -/
theorem serve_of_reads_of_answersBy (hs : s.AnswersBy answer) {fresh : Nat → RequestId} {buffer left : Octets}
    {reads later : List Read} {head : RequestHead} {text : String}
    (hread : Reader.read .request s.limits buffer reads = ⟨.message head text, left, later⟩)
    {coming : List Delivery} (hsends : ∀ d ∈ coming, d = .whole) :
    s.serve session fresh buffer reads coming =
      [.received (head.withBody text),
          .sent (Encoder.response (s.reply answer (fresh 0) (head.withBody text)) head.method)] ++
        if (head.withBody text).asksForEnd then []
        else s.serve session (fun n => fresh (n + 1)) left later coming.tail := by
  obtain ⟨hwrites, hresult⟩ := hs.written?_eq session (fresh 0) (head.withBody text)
  have hwhole : coming.headD .whole = .whole := by
    cases coming with
    | nil => rfl
    | cons d ds => exact hsends d List.mem_cons_self
  rw [serve_of_reads hread, hwhole, told?_of_done (Script.heard?_whole _) hwrites hresult,
    leaving_of_written hwrites, comingAfter, hwrites]
  rfl

/-- **A session exchanges the requests that come for their replies**, in any pieces, until the stream ends or a request
asks for the end. -/
theorem serve_eq_exchanged (hs : s.AnswersBy answer) {ws : List (WireRequest s.limits)} {fresh : Nat → RequestId}
    {buffer : Octets} {pieces : List Octets} {after : List Read} {coming : List Delivery}
    (hne : ∀ c ∈ pieces, c ≠ []) (hbytes : buffer ++ pieces.flatten = ws.flatMap WireRequest.bytes)
    (hafter : Reader.Ends after) (hsends : ∀ d ∈ coming, d = .whole) :
    s.serve session fresh buffer (pieces.map .data ++ after) coming =
      s.exchanged answer fresh (ws.map WireRequest.request) := by
  induction ws generalizing fresh buffer pieces coming with
  | nil => exact serve_of_failed (Reader.how_read_of_nothing s.limits hne hbytes hafter) coming
  | cons w ws ih =>
    rw [List.flatMap_cons] at hbytes
    obtain ⟨left, pieces', hread, hne', hleft⟩ := Reader.read_of_spells Head.complete_requestHead w.spells
      (Reader.not_lastsToEnd_request s.limits w.bytes) hne hbytes after
    rw [serve_of_reads_of_answersBy hs hread hsends,
      ih hne' hleft fun d hd => hsends d (List.mem_of_mem_tail hd)]
    rfl

/-- What leaves are the replies one after the other, each written for its own request. -/
theorem sentOctets_exchanged (fresh : Nat → RequestId) (rs : List Request) :
    SessionEvent.sentOctets (s.exchanged answer fresh rs) =
      ((served rs).mapIdx fun i r => Encoder.response (s.reply answer (fresh i) r) r.method).flatten := by
  induction rs generalizing fresh with
  | nil => rfl
  | cons r rs ih =>
    rw [served_cons, List.mapIdx_cons, List.flatten_cons, exchanged, SessionEvent.sentOctets_exchange]
    split
    · rfl
    · rw [ih]

/-- The requests are those that are served, in their order. -/
theorem requests_exchanged (fresh : Nat → RequestId) (rs : List Request) :
    SessionEvent.requests (s.exchanged answer fresh rs) = served rs := by
  induction rs generalizing fresh with
  | nil => rfl
  | cons r rs ih =>
    rw [served_cons, exchanged, SessionEvent.requests_exchange]
    split
    · rfl
    · rw [ih]

/-- Nothing is reported of a handler that always answers. -/
theorem reports_exchanged (fresh : Nat → RequestId) (rs : List Request) :
    SessionEvent.reports (s.exchanged answer fresh rs) = [] := by
  induction rs generalizing fresh with
  | nil => rfl
  | cons r rs ih =>
    rw [exchanged, SessionEvent.reports_exchange]
    split
    · rfl
    · rw [ih]

/-- **Pipelined requests are answered in order, each by itself.** The octets that leave are the replies to the requests
up to the first that asks for the end, one after the other, and a reply is a matter of its own request alone. The
requests behind that one are not read, and nothing is reported. -/
theorem serve_pipelined (hs : s.AnswersBy answer) (session : Session) (fresh : Nat → RequestId)
    (ws : List (WireRequest s.limits)) (buffer : Octets) (pieces : List Octets) (after : List Read)
    (coming : List Delivery) (hne : ∀ c ∈ pieces, c ≠ [])
    (hbytes : buffer ++ pieces.flatten = ws.flatMap WireRequest.bytes) (hafter : Reader.Ends after)
    (hsends : ∀ d ∈ coming, d = .whole) :
    let events := s.serve session fresh buffer (pieces.map .data ++ after) coming
    let rs := served (ws.map WireRequest.request)
    SessionEvent.sentOctets events =
        (rs.mapIdx fun i r => Encoder.response (s.reply answer (fresh i) r) r.method).flatten ∧
      SessionEvent.requests events = rs ∧ SessionEvent.reports events = [] := by
  intro events rs
  have hevents : events = s.exchanged answer fresh (ws.map WireRequest.request) :=
    serve_eq_exchanged hs hne hbytes hafter hsends
  rw [hevents]
  exact ⟨sentOctets_exchanged fresh _, requests_exchanged fresh _, reports_exchanged fresh _⟩

/-- The handler that tells the path. -/
def tellPath (request : Request) (r : Response) : Response := { r with body := request.target.path }

/-- A service that has that handler for one path. -/
def pathService : Service := ⟨Router.ofInsertions [⟨"/", .get, .filling tellPath⟩], .standard⟩

/-- The handler that tells paths answers with what it was asked for. -/
theorem answersBy_tellPath : pathService.AnswersBy tellPath := by
  intro v found hfound _
  rw [Router.handler_of_lookup_singleton hfound]
  exact Script.responds_respond _

/-- Three requests in two pieces, of which the second has no route and asks for the end. -/
theorem serve_pipelined_closing :
    let ws : List (WireRequest .standard) :=
      [⟨octets "GET / HTTP/1.1\r\n\r\n", ⟨.get, .ofPath ⟨"/", none⟩, .http11, .empty⟩, "", rfl⟩,
        ⟨octets "GET /a HTTP/1.1\r\nConnection: close\r\n\r\n",
          ⟨.get, .ofPath ⟨"/a", none⟩, .http11, .ofLines [(.connection, .close)]⟩, "", rfl⟩,
        ⟨octets "GET /b HTTP/1.1\r\n\r\n", ⟨.get, .ofPath ⟨"/b", none⟩, .http11, .empty⟩, "", rfl⟩]
    let pieces := [octets "GET / HTTP/1.1\r\n\r\nGET /a HTTP/1.1\r",
      octets "\nConnection: close\r\n\r\nGET /b HTTP/1.1\r\n\r\n"]
    pathService.AnswersBy tellPath ∧ (∀ c ∈ pieces, c ≠ []) ∧ [] ++ pieces.flatten = ws.flatMap WireRequest.bytes ∧
      SessionEvent.requests (pathService.serve .loopback (.made 0) [] (pieces.map .data ++ []) []) =
        (ws.map WireRequest.request).take 2 := by
  intro ws pieces
  have hne : ∀ c ∈ pieces, c ≠ [] := by decide
  have hbytes : [] ++ pieces.flatten = ws.flatMap WireRequest.bytes := by decide
  have hafter : Reader.Ends [] := fun r hr => by cases hr
  refine ⟨answersBy_tellPath, hne, hbytes, ?_⟩
  exact (serve_pipelined answersBy_tellPath .loopback (.made 0) ws [] pieces [] [] hne hbytes hafter
    fun d hd => absurd hd List.not_mem_nil).2.1

end Service

end HttpService
