import HttpService.Proofs.Client.Submission
import HttpService.Proofs.Header.Values
import HttpService.Proofs.Server.Pipelining
import HttpService.Proofs.Wire.RoundTrip

/-!
# Which end closes

A server goes by the request and a client by the response: each closes when that message wants it (`wantsClose`). So the
response has to say what the server does. It says so when the server closes. But it says nothing when the server keeps
the connection, and a response of version 1.0 that says nothing closes.

* `Script.KeepsClosing` — a script that leaves to the session what the response says of closing.
* `wantsClose_blank` — what the response says before any handler has seen it.
* `Service.closes_alike_iff` — server and client do the same unless the request is of version 1.0 and asks to keep the
  connection; then the server keeps it and the client is told to close.
-/

namespace HttpService

/-- What a message says of closing is in the values of one name. -/
theorem wantsClose_congr {version : Version} {fields fields' : Fields}
    (h : fields.valuesOf .connection = fields'.valuesOf .connection) :
    wantsClose version fields = wantsClose version fields' := by
  unfold wantsClose Fields.words
  rw [h]

/-- **What the response says before any handler has seen it**: that the connection closes if the request wants it, and
also if it is of version 1.0. -/
theorem wantsClose_blank (request : Request) (id : RequestId) :
    wantsClose (Exchange.blank request id).version (Exchange.blank request id).fields =
      (wantsClose request.version request.fields || request.version == .http10) := by
  have hid : (Fields.empty.insertText .requestId id.text).valuesOf .connection = [] :=
    Fields.valuesOf_insertText_of_ne _ (by decide) _
  show wantsClose request.version (if wantsClose request.version request.fields then _ else _) = _
  cases hclose : wantsClose request.version request.fields with
  | true =>
    rw [if_pos rfl, Bool.true_or, wantsClose, Fields.words, Fields.valuesOf_insert]
    rfl
  | false =>
    rw [if_neg Bool.false_ne_true, Bool.false_or, wantsClose, Fields.words, hid]
    cases request.version <;> rfl

/-! ## Handlers that leave it to the session -/

/-- The script leaves the version and what is said of closing as they are. -/
def Script.KeepsClosing {α : Type} (sc : Script α) : Prop :=
  ∀ r w, sc.written? r = some w → w.version = r.version ∧ w.fields.valuesOf .connection = r.fields.valuesOf .connection

/-- What the router writes itself says nothing of closing. -/
theorem keepsClosing_unrouted {η : Type} (router : Router η) (m : Method) (path : String) :
    (unrouted router m path).KeepsClosing := by
  unfold unrouted
  cases router.allowedMethods path with
  | nil =>
    rintro r w hw
    obtain rfl := Option.some.inj hw
    exact ⟨rfl, Fields.valuesOf_insert_of_ne _ (by decide) _⟩
  | cons m' ms =>
    rintro r w hw
    obtain rfl := Option.some.inj hw
    refine ⟨rfl, (Fields.valuesOf_insert_of_ne _ (by decide) _).trans ?_⟩
    exact Fields.valuesOf_insertText_of_ne _ (by decide) _

namespace Service

/-- The handlers leave the version and what is said of closing as they are. -/
def KeepsClosing (s : Service) : Prop :=
  ∀ v found, s.router.lookup v.request.method v.request.target.path = some found → (found.handler v).KeepsClosing

variable {s : Service} {session : Session}

/-- So it is for every request, routed or not, if the handlers keep to it. -/
theorem KeepsClosing.scriptFor (hs : s.KeepsClosing) (session : Session) (fresh : RequestId) (request : Request) :
    (s.scriptFor session fresh request).KeepsClosing :=
  scriptFor_of_handlers hs (keepsClosing_unrouted s.router) session fresh request

/-- The response that is written says of closing what the blank one did. -/
theorem KeepsClosing.wantsClose_written (hs : s.KeepsClosing) {fresh : RequestId} {request : Request} {w : Response}
    (hwrites : s.written? session fresh request = some w) :
    wantsClose w.version w.fields = (wantsClose request.version request.fields || request.version == .http10) := by
  obtain ⟨hversion, hvalues⟩ := hs.scriptFor session fresh request _ w hwrites
  rw [hversion, wantsClose_congr hvalues, wantsClose_blank]

end Service

/-- The events end with the answer to the request, and nothing is reported. -/
def SessionEvent.EndWith (request : Request) (events : List SessionEvent) : Prop :=
  ∃ bs, events = [.received request, .sent bs]

namespace Service

variable {s : Service} {session : Session}

/-- Whatever comes, something happens. -/
theorem serve_ne_nil (fresh : Nat → RequestId) (buffer : Octets) (reads : List Read) (coming : List Delivery) :
    s.serve session fresh buffer reads coming ≠ [] := by
  cases hhow : (Reader.read .request s.limits buffer reads).how with
  | message head text =>
    rw [serve_of_reads (ReadResult.eq_of_how hhow)]
    exact List.cons_ne_nil _ _
  | failed e =>
    rw [serve_of_failed hhow]
    exact List.cons_ne_nil _ _
  | overflowed =>
    rw [serve_of_overflowed hhow]
    exact List.cons_ne_nil _ _

/-- The server goes by the request. -/
theorem endWith_serve_iff {fresh : Nat → RequestId} {buffer left : Octets} {reads later : List Read}
    {head : RequestHead} {text : String}
    (hread : Reader.read .request s.limits buffer reads = ⟨.message head text, left, later⟩) {coming : List Delivery}
    (htold : s.told? session (fresh 0) (head.withBody text) (coming.headD .whole) = none) :
    SessionEvent.EndWith (head.withBody text) (s.serve session fresh buffer reads coming) ↔
      wantsClose head.version head.fields = true := by
  rw [serve_of_reads hread, htold]
  show SessionEvent.EndWith _ (_ ++ if wantsClose head.version head.fields = true then _ else _) ↔ _
  split
  next hclose => exact iff_of_true ⟨_, List.append_nil _⟩ hclose
  next hclose =>
    refine iff_of_false ?_ hclose
    rintro ⟨bs, hevents⟩
    have hrest := (List.cons.inj (List.cons.inj hevents).2).2
    exact serve_ne_nil _ _ _ _ hrest

end Service

namespace ClientSession

/-- The session is ready to submit a request of this method. Its connection takes it, and brings this response as it is
written, in any pieces and with anything behind it. -/
structure Receives (limits : Limits) (client : ClientSession Link) (m : Method) (w : Response) : Prop where
  ready : client.phase = .ready
  admitted : w.Admitted limits
  brings : ∃ (link : Link) (pieces : List Octets) (behind : Octets), client.stream = some link ∧
    (∀ d ∈ link.out.coming, d = .whole) ∧ (∀ c ∈ pieces, c ≠ []) ∧ link.reads = pieces.map .data ∧
    client.buffer ++ pieces.flatten = Encoder.response w m ++ behind

/-- The client goes by the response, as it is read from what was written. -/
theorem ready_submit_iff {limits : Limits} {client : ClientSession Link} {r : Request} {w : Response}
    (h : client.Receives limits r.method w) :
    (client.submit limits r .endless).1.phase = .ready ↔ ¬ wantsClose w.version w.fields = true := by
  obtain ⟨hready, hw, link, pieces, behind, hlink, hsends, hne, hreads, hbytes⟩ := h
  -- The response is read back, with or without its body.
  obtain ⟨text, hhow⟩ : ∃ text,
      (Reader.read (.response r.method) limits client.buffer link.reads).how = .message w.reframed text := by
    rw [hreads]
    cases hm : Framing.allowsBody r.method w.status with
    | true => exact ⟨_, (Reader.read_response_of_allowsBody hw hm hne hbytes).1⟩
    | false => exact ⟨_, (Reader.read_response_of_not_allowsBody hw hm hne hbytes).1⟩
  obtain ⟨out, -, hsubmit⟩ := submit_of_read (r := r) hready hlink hsends (ReadResult.eq_of_how hhow)
  -- What the writer changes of the fields has nothing to do with closing.
  have hsame : wantsClose w.reframed.version w.reframed.fields = wantsClose w.version w.fields :=
    wantsClose_congr (Fields.valuesOf_reframed w.fields _ (by decide))
  rw [hsubmit]
  show (client.answered (w.reframed.withBody text) _ _).phase = .ready ↔ _
  rw [answered, ← hsame]
  show (if wantsClose w.reframed.version w.reframed.fields = true then _ else _ : ClientSession Link).phase = _ ↔ _
  split
  next hclose => exact iff_of_false (fun h => by cases h) (not_not_intro hclose)
  next hkeeps => exact iff_of_true rfl hkeeps

end ClientSession

namespace Service

variable {s : Service} {session : Session}

/-- **Server and client close alike unless the server keeps a connection of version 1.0.** For a request that is
answered without a report the server closes if the request wants it, and the client that reads the response closes if
that wants it. The response wants it whenever the request does, and for every request of version 1.0. -/
theorem closes_alike_iff (hs : s.KeepsClosing) {fresh : Nat → RequestId} {buffer left : Octets}
    {reads later : List Read} {head : RequestHead} {text : String}
    (hread : Reader.read .request s.limits buffer reads = ⟨.message head text, left, later⟩) {coming : List Delivery}
    (htold : s.told? session (fresh 0) (head.withBody text) (coming.headD .whole) = none) :
    ∃ w, s.written? session (fresh 0) (head.withBody text) = some w ∧
      s.leaving session (fresh 0) (head.withBody text) (coming.headD .whole) =
        (coming.headD .whole).taken (Encoder.response w head.method) ∧
      (SessionEvent.EndWith (head.withBody text) (s.serve session fresh buffer reads coming) ↔
        wantsClose head.version head.fields = true) ∧
      (wantsClose w.version w.fields = true ↔
        wantsClose head.version head.fields = true ∨ head.version = .http10) ∧
      ((SessionEvent.EndWith (head.withBody text) (s.serve session fresh buffer reads coming) ↔
          wantsClose w.version w.fields = true) ↔
        (head.version = .http10 → wantsClose head.version head.fields = true)) ∧
      ∀ (limits : Limits) (client : ClientSession Link) (r : Request), r.method = head.method →
        client.Receives limits head.method w →
        ((client.submit limits r .endless).1.phase = .ready ↔ ¬ wantsClose w.version w.fields = true) := by
  obtain ⟨w, hwrites⟩ := exists_written_of_not_told htold
  -- The server goes by the request, and the response says more: every answer to an old version says it closes.
  have hserver := endWith_serve_iff hread htold
  have hresponse : wantsClose w.version w.fields = true ↔
      wantsClose head.version head.fields = true ∨ head.version = .http10 := by
    rw [hs.wantsClose_written hwrites, Bool.or_eq_true]
    exact or_congr_right beq_iff_eq
  refine ⟨w, hwrites, leaving_of_written hwrites _, hserver, hresponse, ?_, ?_⟩
  · rw [hserver, hresponse]
    constructor
    · exact fun hsame hversion => hsame.mpr (.inr hversion)
    · exact fun hcloses => ⟨.inl, fun h => h.elim id hcloses⟩
  · exact fun limits client r hmethod hreceives => ClientSession.ready_submit_iff (hmethod ▸ hreceives)

/-- A handler that fills in a body does not touch the fields that are about the connection. -/
theorem keepsClosing_pathService : pathService.KeepsClosing := by
  intro v found hfound r w hw
  rw [Router.handler_of_lookup_singleton hfound] at hw
  obtain rfl := Option.some.inj hw
  exact ⟨rfl, rfl⟩

/-- Of a request that is answered by its path nothing is reported. -/
theorem not_told_pathService (request : Request) :
    pathService.told? .loopback (.made 0 0) request (([] : List Delivery).headD .whole) = none := by
  obtain ⟨hwrites, hresult⟩ := answersBy_tellPath.written?_eq .loopback (.made 0 0) request
  exact told?_of_done (Script.heard?_whole _) hwrites hresult

/-- A request that asks for the end closes both. -/
theorem closes_alike_iff_asked :
    let head : RequestHead := ⟨.get, .ofPath ⟨"/", none⟩, .http11, .ofLines [(.connection, .close)]⟩
    let reads := [Read.data (octets "GET / HTTP/1.1\r\nConnection: close\r\n\r\nGET")]
    pathService.KeepsClosing ∧
      Reader.read .request .standard [] reads = ⟨.message head "", octets "GET", []⟩ ∧
      pathService.told? .loopback (.made 0 0) (head.withBody "") (([] : List Delivery).headD .whole) = none ∧
      ∃ w, (SessionEvent.EndWith (head.withBody "") (pathService.serve .loopback (.made 0) [] reads []) ↔
        wantsClose w.version w.fields = true) ∧
        pathService.written? .loopback (.made 0 0) (head.withBody "") = some w := by
  intro head reads
  have hread : Reader.read .request .standard [] reads = ⟨.message head "", octets "GET", []⟩ := rfl
  have htold := not_told_pathService (head.withBody "")
  obtain ⟨w, hwrites, -, -, -, halike, -⟩ := closes_alike_iff keepsClosing_pathService hread htold
  exact ⟨keepsClosing_pathService, hread, htold, w, halike.mpr (by decide), hwrites⟩

/-- A request of version 1.0 that asks to keep the connection: the server keeps it, and its response closes it. -/
theorem keeps_told_closing :
    let head : RequestHead :=
      ⟨.get, .ofPath ⟨"/", none⟩, .http10, .ofLines [(.connection, ⟨octets "keep-alive", by decide⟩)]⟩
    let reads := [Read.data (octets "GET / HTTP/1.0\r\nConnection: keep-alive\r\n\r\n")]
    ∃ w, pathService.KeepsClosing ∧ Reader.read .request .standard [] reads = ⟨.message head "", [], []⟩ ∧
      pathService.written? .loopback (.made 0 0) (head.withBody "") = some w ∧
      ¬ (SessionEvent.EndWith (head.withBody "") (pathService.serve .loopback (.made 0) [] reads []) ↔
        wantsClose w.version w.fields = true) := by
  intro head reads
  have hread : Reader.read .request .standard [] reads = ⟨.message head "", [], []⟩ := rfl
  have htold := not_told_pathService (head.withBody "")
  obtain ⟨w, hwrites⟩ := exists_written_of_not_told htold
  refine ⟨w, keepsClosing_pathService, hread, hwrites, ?_⟩
  have hserver := endWith_serve_iff hread htold
  have hkeeps : wantsClose head.version head.fields = false := by decide
  have hcloses := keepsClosing_pathService.wantsClose_written hwrites
  rw [hserver, hkeeps, hcloses]
  decide

end Service

end HttpService
