import HttpService.Proofs.Client.Repeated
import HttpService.Proofs.Echo.Messages
import HttpService.Proofs.Server.Pipelining

/-!
# A message is echoed as often as it is sent

The client asks for the same message again and again on one connection, and the service answers each request. Between
them the octets are cut into pieces in any way.

* `Echo.answersBy` — what the service answers is a matter of the request.
* `Echo.spells_request`, `Echo.reply_received` — one request on its way, and the response to it.
* `Echo.echoed` — the whole exchange.
-/

namespace HttpService

/-- A head and a body that ends with the octets are all of a message. -/
theorem Form.Begins.advance {H : Type} {form : Form H} {limits : Limits} {bytes rest : Octets} {head : H}
    {framing : Framing} {text : String} (h : form.Begins limits bytes head rest framing)
    (hbody : Decoder.body limits head framing rest = .ended (.message head text) []) :
    Decoder.advance form limits ⟨.head, bytes⟩ = .ended (.message head text) [] := by
  rw [Decoder.advance_of_begins h, hbody]

/-- A response that is written with a body is read from what was written, to the last octet. -/
theorem Response.Admitted.advance {limits : Limits} {r : Response} {m : Method} (hr : r.Admitted limits)
    (hm : Framing.allowsBody m r.status = true) :
    Decoder.advance (Form.response m) limits ⟨.head, Encoder.response r m⟩ =
      .ended (.message r.reframed r.body) [] := by
  have hbegins := Reader.begins_response hr m []
  rw [List.append_nil, if_pos hm, if_neg (Framing.allowsBody_eq_true_iff.mp hm).1] at hbegins
  exact hbegins.advance (Decoder.body_of_length r.reframed hr.body [])

/-- A request that does not ask for the end is answered with a blank response that does not either. -/
theorem Exchange.blank_of_keeps {request : Request} (h : ¬ wantsClose request.version request.fields) (id : RequestId) :
    blank request id = ⟨.ok, request.version, Fields.empty.insertText .requestId id.text, ""⟩ := by
  rw [blank, if_neg h]
  rfl

/-- Requests none of which asks for the end are all served. -/
theorem Service.served_eq_self {rs : List Request} (h : ∀ r ∈ rs, r.asksForEnd = false) : served rs = rs := by
  induction rs with
  | nil => rfl
  | cons r rs ih =>
    obtain ⟨hr, hrs⟩ := List.forall_mem_cons.mp h
    rw [served_cons, hr, if_neg Bool.false_ne_true, ih hrs]

namespace Echo

variable {server : Service} {limits : Limits} {client : ClientSession Link} {m : String} {hs : Fields}

/-! ## The service -/

/-- The routes of the service as they are inserted. -/
def insertions : List (Router.Insertion Handler) :=
  [⟨path, .get, handler⟩, ⟨path, .post, handler⟩, ⟨path ++ "/*", .get, handler⟩]

/-- The routes of the service make a router without notices. -/
theorem ofEntries_routes : Router.ofEntries registry routes = ([], .ok (Router.ofInsertions insertions)) := rfl

theorem router_eq (hrouter : (Router.ofEntries registry routes).2 = .ok server.router) :
    server.router = Router.ofInsertions insertions := by
  rw [ofEntries_routes] at hrouter
  exact (Except.ok.inj hrouter).symm

/-- What the handler makes of a response, with the segments that the wildcards of the route stand for. -/
def filled (router : Router Handler) (r : Request) : Response → Response :=
  Script.withJson .ok (answer (message r) ((router.lookup r.method r.target.path).elim [] RouteMatch.wildcards))

/-- **What the service answers is a matter of the request.** -/
theorem answersBy (hrouter : (Router.ofEntries registry routes).2 = .ok server.router) :
    server.AnswersBy (filled server.router) := by
  intro v found hfound hwildcards
  have hhandler : found.handler = handler := by
    rw [router_eq hrouter] at hfound
    obtain ⟨e, he, hfrom⟩ := Router.exists_insertion_of_lookup hfound
    have key : ∀ e ∈ insertions, e.handler = handler := by simp [insertions]
    exact hfrom.symm.trans (key e he)
  -- All routes lead to the one handler; only the wildcards differ.
  rw [hhandler, filled, hfound, Option.elim_some, ← hwildcards]
  exact Script.responds_respond _

/-! ## One request -/

/-- The fields with which the client sends the request name the host, if any. -/
theorem exists_hosted (client : ClientSession Link) (m : String) :
    ∃ hs : Fields, client.hosted (request m) = { request m with fields := hs } ∧ hs.lines.length ≤ 1 ∧
      ∀ n, n ≠ .host → hs.valuesOf n = [] := by
  unfold ClientSession.hosted
  cases client.host with
  | none => exact ⟨.empty, rfl, Nat.zero_le 1, fun _ _ => rfl⟩
  | some host =>
    refine ⟨Fields.empty.insert .host host, rfl, Nat.le_refl 1, fun n hne => ?_⟩
    rw [Fields.valuesOf_insert_of_ne _ hne]
    rfl

theorem path_request (m : String) : (request m).target.path = path := rfl

/-- The request as the service reads it, where it was sent with these fields. -/
def received (m : String) (hs : Fields) : Request := { request m with fields := (hs.reframed 0).trimmed }

/-- **The request arrives**, if the service has room for its head. -/
theorem spells_request (hlen : (target m).utf8ByteSize ≤ Target.maxLength) (hcount : hs.lines.length ≤ 1)
    (hhead : (Encoder.requestHead { request m with fields := hs }).length ≤ limits.head) :
    Form.request.Spells limits (Encoder.request { request m with fields := hs })
      ⟨.get, (request m).target, .http11, (hs.reframed 0).trimmed⟩ "" := by
  have hne : octets (target m) ≠ [] := by
    intro hnil
    have hparse := parse_target hlen
    rw [eq_empty_of_octets hnil] at hparse
    cases hparse
  have hkept := List.length_filter_le (fun l => !Encoder.isFraming l.1) hs.lines
  -- At most one field comes with the request, and the writer puts another to it.
  have hlines : (hs.lines.filter fun l => !Encoder.isFraming l.1).length + 1 ≤ Head.maxFields :=
    Nat.le_trans (Nat.succ_le_succ (Nat.le_trans hkept hcount)) (by decide)
  have hbody : (octets "").length < countBound := by decide
  have hbegins := Reader.begins_request_of_parse (r := { request m with fields := hs }) (parse_target hlen)
    (Reader.isTargetOctet_of_visible (visible_target m)) hne hlines hhead hbody []
  rw [List.append_nil] at hbegins
  exact Reader.read_nil_of_ended (hbegins.advance rfl)

/-- The request says nothing but who its host is and how long its body is. -/
theorem valuesOf_received (hvalues : ∀ n, n ≠ .host → hs.valuesOf n = []) {n : FieldName} (hhost : n ≠ .host)
    (hframing : Encoder.isFraming n = false) : (received m hs).fields.valuesOf n = [] := by
  show ((hs.reframed 0).trimmed).valuesOf n = []
  rw [Fields.valuesOf_trimmed, Fields.valuesOf_reframed _ _ hframing, hvalues n hhost]
  rfl

/-- The request does not ask for the end. -/
theorem asksForEnd_received (hvalues : ∀ n, n ≠ .host → hs.valuesOf n = []) : (received m hs).asksForEnd = false := by
  have hwords : (received m hs).fields.words .connection = [] := by
    rw [Fields.words, valuesOf_received hvalues (by decide) (by decide)]
    rfl
  show wantsClose .http11 (received m hs).fields = false
  rw [wantsClose, hwords]
  rfl

theorem withJson_blank (text m : String) (version : Version) :
    Script.withJson .ok (answer m []) ⟨.ok, version, Fields.empty.insertText .requestId text, ""⟩ =
      ⟨.ok, version, (Fields.empty.insertText .requestId text).insert .contentType .json, answerText m⟩ := by
  rw [Script.withJson, text_answer]

/-- **The response to the request is the one with the message.** -/
theorem reply_received (hrouter : (Router.ofEntries registry routes).2 = .ok server.router)
    (hvalues : ∀ n, n ≠ .host → hs.valuesOf n = []) (fresh : RequestId) :
    server.reply (filled server.router) fresh (received m hs) = response fresh m := by
  have hfound : server.router.lookup (received m hs).method (received m hs).target.path = some ⟨handler, []⟩ := by
    rw [router_eq hrouter]
    show (Router.ofInsertions insertions).lookup .get (request m).target.path = _
    rw [path_request]
    rfl
  -- The request names no id of its own, so the answer goes out under the fresh one.
  have hid : Exchange.idOf (received m hs) fresh = fresh := by
    rw [Exchange.idOf, Fields.get?, valuesOf_received hvalues (by decide) (by decide)]
    rfl
  have hkeeps : ¬ wantsClose (received m hs).version (received m hs).fields = true :=
    Bool.eq_false_iff.mp (asksForEnd_received hvalues)
  -- The message is read from the query and not from the body.
  have hmessage : message (received m hs) = m := message_of_query rfl rfl
  have hreply : server.reply (filled server.router) fresh (received m hs) =
      filled server.router (received m hs) (Exchange.blank (received m hs) fresh) := by
    rw [Service.reply, hfound, hid]
  have hversion : (received m hs).version = .http11 := rfl
  rw [hreply, filled, hfound, hmessage, Exchange.blank_of_keeps hkeeps, Option.elim_some, withJson_blank, hversion,
    response]

/-- The response does not close the connection. -/
theorem keeps_response (id : RequestId) (m : String) :
    ¬ wantsClose (response id m).reframed.version (response id m).reframed.fields = true := by
  have hwords : (response id m).reframed.fields.words .connection = [] := by
    rw [Response.reframed, Fields.words, Fields.valuesOf_reframed _ _ (by decide), response,
      Fields.valuesOf_insert_of_ne _ (by decide), Fields.valuesOf_insertText_of_ne _ (by decide)]
    rfl
  have hversion : (response id m).reframed.version = .http11 := rfl
  rw [wantsClose, hwords, hversion]
  decide

/-! ## Both ends -/

/-- Of one thing so many times, only its number tells one from another. -/
theorem mapIdx_replicate {α β : Type} (f : Nat → α → β) (n : Nat) (a : α) :
    (List.replicate n a).mapIdx f = (List.range n).map fun i => f i a :=
  List.ext_getElem (by simp) (by simp)

/-- **The service answers the request each time that it comes**, and finds the message in it. -/
theorem serve_of_asked (hrouter : (Router.ofEntries registry routes).2 = .ok server.router)
    (hlen : (target m).utf8ByteSize ≤ Target.maxLength)
    (hhead : (Encoder.requestHead (client.hosted (request m))).length ≤ server.limits.head) (session : Session)
    (fresh : Nat → RequestId) {n : Nat} {pieces : List Octets} {after : List Read} {coming : List Delivery}
    (hne : ∀ c ∈ pieces, c ≠ [])
    (hasked : pieces.flatten = (List.replicate n (Encoder.request (client.hosted (request m)))).flatten)
    (hafter : Reader.Ends after) (hsends : ∀ d ∈ coming, d = .whole) :
    let events := server.serve session fresh [] (pieces.map .data ++ after) coming
    SessionEvent.sentOctets events =
        (((List.range n).map fresh).flatMap fun id => Encoder.response (response id m) .get) ∧
      (SessionEvent.requests events).map message = List.replicate n m ∧ SessionEvent.reports events = [] := by
  intro events
  obtain ⟨hs, hhosted, hcount, hvalues⟩ := exists_hosted client m
  rw [hhosted] at hhead hasked
  -- Every request is the same one on the wire, so it is read as the same one each time.
  let w : WireRequest server.limits := ⟨_, _, _, spells_request hlen hcount hhead⟩
  have hbytes : [] ++ pieces.flatten = (List.replicate n w).flatMap WireRequest.bytes := by
    rw [List.nil_append, hasked, List.flatMap_replicate]
  have hevents : events = server.exchanged (filled server.router) fresh (List.replicate n (received m hs)) := by
    have hserve : events =
        server.exchanged (filled server.router) fresh ((List.replicate n w).map WireRequest.request) :=
      Service.serve_eq_exchanged (answersBy hrouter) hne hbytes hafter hsends
    rwa [List.map_replicate] at hserve
  -- None of them asks for the end, so the last one is served as the first one is.
  have hserved : Service.served (List.replicate n (received m hs)) = List.replicate n (received m hs) :=
    Service.served_eq_self fun r hr => List.eq_of_mem_replicate hr ▸ asksForEnd_received hvalues
  rw [hevents]
  refine ⟨?_, ?_, Service.reports_exchanged _ _⟩
  · rw [Service.sentOctets_exchanged, hserved, mapIdx_replicate, List.flatMap_map, List.flatMap_def]
    simp only [reply_received hrouter hvalues]
    rfl
  · rw [Service.requests_exchanged, hserved, List.map_replicate]
    exact congrArg (List.replicate n) (message_of_query rfl rfl)

/-- **The client is told of every response that the service sends**, and sends one request for each. -/
theorem getAll_of_answered (hlen : (target m).utf8ByteSize ≤ Target.maxLength)
    (hfits : ∀ id, (response id m).Fits limits) (ids : List RequestId)
    (h : client.Brings (ids.flatMap fun id => Encoder.response (response id m) .get)) :
    ∃ client' rs, client.getAll limits (target m) ids.length = (client', some (.ok rs)) ∧ rs.length = ids.length ∧
      (∀ r ∈ rs, r.status = .ok ∧ r.body = answerText m) ∧ client'.phase = .ready ∧
      client'.sent =
        client.sent ++ (List.replicate ids.length (Encoder.request (client.hosted (request m)))).flatten := by
  -- The responses differ in their identifiers alone.
  let w (id : RequestId) : WireResponse limits .get :=
    .ofEnded (Encoder.response (response id m) .get) (response id m).reframed (response id m).body
      ((admitted_response hlen (hfits id)).advance rfl)
  have hbrings : client.Brings ((ids.map w).flatMap WireResponse.bytes) := by
    rw [List.flatMap_map]
    exact h
  have hsuccess : ∀ w' ∈ ids.map w, w'.head.status.isSuccess = true := by
    intro w' hw'
    obtain ⟨id, -, rfl⟩ := List.mem_map.mp hw'
    rfl
  have hkeeps : ∀ w' ∈ ids.map w, ¬ wantsClose w'.head.version w'.head.fields := by
    intro w' hw'
    obtain ⟨id, -, rfl⟩ := List.mem_map.mp hw'
    exact keeps_response id m
  have hcount : (ids.map w).length = ids.length := List.length_map _
  obtain ⟨client', htold, hready, hsent⟩ :=
    ClientSession.getAll_of_brings (getRequest_target hlen) hsuccess hkeeps hbrings
  refine ⟨client', (ids.map w).map WireResponse.response, ?_, ?_, ?_, hready, ?_⟩
  · rw [← hcount]
    exact htold
  · rw [List.length_map, List.length_map]
  · intro r hr
    obtain ⟨w', hw', rfl⟩ := List.mem_map.mp hr
    obtain ⟨id, -, rfl⟩ := List.mem_map.mp hw'
    exact ⟨rfl, rfl⟩
  · rw [← hcount]
    exact hsent

/-- **A message comes back as often as it is sent.** A client that asks for any message that fits into a target is told
of success each time, with an object of JSON that holds the message and nothing else. The service finds the message in
every request and reports nothing. The requests that come to the service are exactly those that the client sends, and
the responses that come to the client are those that the service sends, both cut into any pieces. -/
theorem echoed (hrouter : (Router.ofEntries registry routes).2 = .ok server.router)
    (hlen : (target m).utf8ByteSize ≤ Target.maxLength)
    (hhead : (Encoder.requestHead (client.hosted (request m))).length ≤ server.limits.head) (session : Session)
    (fresh : Nat → RequestId) (n : Nat) (pieces : List Octets) (after : List Read) (coming : List Delivery)
    (hne : ∀ c ∈ pieces, c ≠ [])
    (hasked : pieces.flatten = (List.replicate n (Encoder.request (client.hosted (request m)))).flatten)
    (hafter : Reader.Ends after) (hsends : ∀ d ∈ coming, d = .whole) :
    let events := server.serve session fresh [] (pieces.map .data ++ after) coming
    ClientSession.getRequest (target m) = .ok (request m) ∧
      (SessionEvent.requests events).map message = List.replicate n m ∧ SessionEvent.reports events = [] ∧
      (∀ id, (response id m).Fits .standard) ∧
      ∀ limits : Limits, (∀ id, (response id m).Fits limits) → client.Brings (SessionEvent.sentOctets events) →
        ∃ client' rs, client.getAll limits (target m) n = (client', some (.ok rs)) ∧ rs.length = n ∧
          (∀ r ∈ rs, r.status = .ok ∧ r.body = "\x7b\x22message\x22:" ++ Json.quoted m ++ "\x7d" ∧
            Json.read? r.body = some (.ofMembers [("message", .string m)])) ∧
          client'.phase = .ready ∧ client'.sent = client.sent ++ pieces.flatten := by
  intro events
  obtain ⟨hsent, hfound, hreports⟩ := serve_of_asked hrouter hlen hhead session fresh hne hasked hafter hsends
  refine ⟨getRequest_target hlen, hfound, hreports, fits_standard hlen, fun limits hfits hbrings => ?_⟩
  rw [hsent] at hbrings
  obtain ⟨client', rs, htold, hcount, hbodies, hready, hasks⟩ := getAll_of_answered hlen hfits _ hbrings
  -- There is one identifier for each request.
  rw [List.length_map, List.length_range] at htold hcount hasks
  refine ⟨client', rs, htold, hcount, fun r hr => ?_, hready, ?_⟩
  · obtain ⟨hstatus, hbody⟩ := hbodies r hr
    exact ⟨hstatus, hbody, hbody ▸ read?_answerText m⟩
  · rw [hasks, hasked]

/-- Two times a message with marks of a form, in which a quote and a line end are escaped. -/
theorem echoed_twice :
    let m := "1+1=2 & 100% #\x22\u00e9\n"
    let server : Service := ⟨Router.ofInsertions insertions, .standard⟩
    let told := Encoder.response (response (.made 0 0) m) .get ++ Encoder.response (response (.made 0 1) m) .get
    let client : ClientSession Link :=
      ⟨.ready, some ⟨[told.take 99, told.drop 99].map .data, [], []⟩, [],
        some ⟨octets "localhost:8080", by decide⟩, none⟩
    let asked := Encoder.request (client.hosted (request m))
    let pieces := [asked.take 9, asked.drop 9 ++ asked]
    (Router.ofEntries registry routes).2 = .ok server.router ∧ (target m).utf8ByteSize ≤ Target.maxLength ∧
      (Encoder.requestHead (client.hosted (request m))).length ≤ server.limits.head ∧ (∀ c ∈ pieces, c ≠ []) ∧
      client.Brings (SessionEvent.sentOctets (server.serve .loopback (.made 0) [] (pieces.map .data ++ []) [])) ∧
      ∃ client' rs, client.getAll .standard (target m) 2 = (client', some (.ok rs)) ∧ rs.length = 2 ∧
        ∀ r ∈ rs, r.body = "\x7b\x22message\x22:\x221+1=2 & 100% #\\\x22\u00e9\\n\x22\x7d" := by
  intro m server told client asked pieces
  have hrouter : (Router.ofEntries registry routes).2 = .ok server.router := rfl
  have hlen : (target m).utf8ByteSize ≤ Target.maxLength := by decide
  have hhead : (Encoder.requestHead (client.hosted (request m))).length ≤ server.limits.head := by decide
  have hne : ∀ c ∈ pieces, c ≠ [] := by decide
  -- Both requests are there, however they were cut.
  have hasked : pieces.flatten = (List.replicate 2 (Encoder.request (client.hosted (request m)))).flatten := by
    show asked.take 9 ++ (asked.drop 9 ++ asked ++ []) = asked ++ (asked ++ [])
    rw [List.append_assoc, ← List.append_assoc, List.take_append_drop]
  have hafter : Reader.Ends [] := fun r hr => by cases hr
  have hsends : ∀ d ∈ ([] : List Delivery), d = .whole := fun d hd => absurd hd List.not_mem_nil
  have hbrings : client.Brings
      (SessionEvent.sentOctets (server.serve .loopback (.made 0) [] (pieces.map .data ++ []) [])) := by
    -- The two answers differ in their identifiers only.
    have htold : (((List.range 2).map (.made 0)).flatMap fun id => Encoder.response (response id m) .get) = told :=
      congrArg (Encoder.response (response (.made 0 0) m) .get ++ ·) (List.append_nil _)
    rw [(serve_of_asked hrouter hlen hhead .loopback (.made 0) hne hasked hafter hsends).1, htold]
    refine ⟨rfl, _, [told.take 99, told.drop 99], [], [], rfl, hsends, by decide +kernel, (List.append_nil _).symm, ?_⟩
    show [] ++ (told.take 99 ++ (told.drop 99 ++ [])) = told ++ []
    rw [List.nil_append, List.append_nil, List.append_nil, List.take_append_drop]
  obtain ⟨-, -, -, hfits, hclient⟩ :=
    echoed hrouter hlen hhead .loopback (.made 0) 2 pieces [] [] hne hasked hafter hsends
  obtain ⟨client', rs, htold, hcount, hbodies, -⟩ := hclient .standard hfits hbrings
  refine ⟨hrouter, hlen, hhead, hne, hbrings, client', rs, htold, hcount, fun r hr => ?_⟩
  rw [(hbodies r hr).2.1]
  decide

end Echo

end HttpService
