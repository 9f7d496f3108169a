import HttpService.Proofs.Header.Values
import HttpService.Proofs.Route.Allowed
import HttpService.Proofs.Server.Pipelining

/-!
# Requests without a route

A request that the router has no handler for is refused: with 404 where its path is routed for no method at all, and
otherwise with 405 and a list of the methods that the path allows. The list is read off a search of its own; it is
compared here with what lookups find, and with what is read in the field.

* `Method.octets_text` — the text of a method is the token on the wire.
* `Fields.words_insertText_methods` — methods written as a list are read as those methods.
* `Service.serve_of_unrouted` — what a session answers to a request without a route.
-/

namespace HttpService

/-! ## Lists of methods -/

/-- Between two printable octets all are printable. -/
theorem isShown_of_between {low high b : UInt8} (hlow : 32 ≤ low.toNat) (hhigh : high.toNat < 127)
    (h : (low ≤ b && b ≤ high) = true) : Octet.isShown b = true := by
  simp only [Bool.and_eq_true, decide_eq_true_eq, UInt8.le_iff_toNat_le] at h
  simp only [Octet.isShown, Bool.or_eq_true, Bool.and_eq_true, decide_eq_true_eq, UInt8.le_iff_toNat_le,
    UInt8.lt_iff_toNat_lt]
  exact .inr ⟨Nat.le_trans hlow h.1, Nat.lt_of_le_of_lt h.2 hhigh⟩

/-- A method's name can be shown in a field's value. -/
theorem isShown_of_isToken {b : UInt8} (h : Octet.isToken b = true) : Octet.isShown b = true := by
  rw [Octet.isToken, Octet.isLetter, Bool.or_eq_true, Bool.or_eq_true, Bool.or_eq_true] at h
  rcases h with ((hupper | hlower) | hdigit) | hmark
  · exact isShown_of_between (by decide) (by decide) hupper
  · exact isShown_of_between (by decide) (by decide) hlower
  · exact isShown_of_between (by decide) (by decide) hdigit
  · exact List.all_eq_true.mp (by decide) b (List.contains_iff_mem.mp hmark)

/-- A blank in front of the first piece is trimmed with it. -/
theorem trimBlanks_pieces_cons {sep b : UInt8} (hsep : b ≠ sep) (hblank : Octet.isBlank b = true) (bs : Octets) :
    (pieces sep (b :: bs)).map Octets.trimBlanks = (pieces sep bs).map Octets.trimBlanks := by
  rw [pieces, if_neg hsep]
  cases hpieces : pieces sep bs with
  | nil => exact absurd hpieces (pieces_ne_nil sep bs)
  | cons p ps =>
    show Octets.trimBlanks (b :: p) :: _ = _
    rw [Octets.trimBlanks, List.dropWhile_cons_of_pos hblank]
    rfl

/-- What can be shown is of one octet. -/
theorem ascii_of_isShown {b : UInt8} (h : Octet.isShown b = true) : b.toNat < 128 := by
  simp only [Octet.isShown, Bool.or_eq_true, Bool.and_eq_true, decide_eq_true_eq, UInt8.lt_iff_toNat_lt,
    beq_iff_eq] at h
  rcases h with rfl | h
  · decide
  · exact Nat.lt_trans h.2 (by decide)

namespace Method

/-- The names of methods are tokens. -/
theorem isToken_of_mem_token {m : Method} {b : UInt8} (h : b ∈ m.token) : Octet.isToken b = true := by
  have htoken := m.isToken
  rw [Octets.isToken, Bool.and_eq_true] at htoken
  exact List.all_eq_true.mp htoken.2 b h

/-- The text of a method is the token that stands on the wire. -/
theorem octets_text (m : Method) : octets m.text = m.token := by
  have hascii : ∀ c ∈ m.token.map fun b => Char.ofNat b.toNat, c.toNat < 128 := by
    intro c hc
    obtain ⟨b, hb, rfl⟩ := List.mem_map.mp hc
    rw [toNat_ofNat_octet]
    exact ascii_of_isShown (isShown_of_isToken (isToken_of_mem_token hb))
  rw [text, Octets.latin, octets_ofList_of_ascii hascii, List.map_map]
  exact (List.map_congr_left fun b _ => octet_ofNat).trans (List.map_id _)

/-- An octet that belongs to no token is in no method. -/
theorem not_mem_token {b : UInt8} (h : Octet.isToken b = false) (m : Method) : b ∉ m.token := by
  intro hmem
  rw [isToken_of_mem_token hmem] at h
  cases h

/-- They have no blanks, so a list of them can be taken apart. -/
theorem isBlank_of_mem_token {m : Method} {b : UInt8} (h : b ∈ m.token) : Octet.isBlank b = false := by
  rw [Bool.eq_false_iff]
  intro hblank
  rcases (Bool.or_eq_true _ _).mp hblank with h' | h'
  · exact not_mem_token (by decide) m (eq_of_beq h' ▸ h)
  · exact not_mem_token (by decide) m (eq_of_beq h' ▸ h)

/-- A method is told from its name. -/
theorem eq_of_token {m m' : Method} (h : m.token = m'.token) : m = m' := by
  cases m
  cases m'
  cases h
  rfl

/-- Methods as a list in a field's value. -/
def listed (ms : List Method) : String := ", ".intercalate (ms.map text)

/-- Of a list of names, the first is followed by a comma and a space. -/
theorem listed_cons_cons (m m' : Method) (ms : List Method) :
    octets (listed (m :: m' :: ms)) = m.token ++ octet ',' :: 32 :: octets (listed (m' :: ms)) := by
  rw [listed, List.map_cons, List.map_cons, String.intercalate_cons_cons, ← List.map_cons, ← listed, octets_append,
    octets_append, octets_text, List.append_assoc]
  rfl

theorem listed_singleton (m : Method) : octets (listed [m]) = m.token := by
  rw [listed, List.map_singleton, String.intercalate_singleton, octets_text]

/-- Every octet of a list of methods can be shown. -/
theorem isShown_of_mem_listed {ms : List Method} {b : UInt8} (h : b ∈ octets (listed ms)) :
    Octet.isShown b = true := by
  induction ms with
  | nil => cases h
  | cons m ms ih =>
    cases ms with
    | nil =>
      rw [listed_singleton] at h
      exact isShown_of_isToken (isToken_of_mem_token h)
    | cons m' ms =>
      rw [listed_cons_cons, List.mem_append, List.mem_cons, List.mem_cons] at h
      rcases h with h | rfl | rfl | h
      · exact isShown_of_isToken (isToken_of_mem_token h)
      · decide
      · decide
      · exact ih h

/-- Methods that are listed are cut apart again. -/
theorem pieces_listed {ms : List Method} (hne : ms ≠ []) :
    (pieces (octet ',') (octets (listed ms))).map Octets.trimBlanks = ms.map token := by
  -- Over the names, each without a comma and without blanks at its ends.
  induction ms with
  | nil => exact absurd rfl hne
  | cons m ms ih =>
    have hpieces := pieces_of_not_mem (not_mem_token (b := octet ',') (by decide) m)
    have htrim : m.token.trimBlanks = m.token := Decimal.trim_of_forall_not fun _ hb => isBlank_of_mem_token hb
    cases ms with
    | nil =>
      rw [listed_singleton, hpieces]
      exact congrArg (fun t => [t]) htrim
    | cons m' ms =>
      have hrest := ih (List.cons_ne_nil m' ms)
      rw [listed_cons_cons, pieces_append, List.map_append, hpieces, trimBlanks_pieces_cons (by decide) (by decide),
        hrest, List.map_singleton, htrim]
      rfl

end Method

namespace Fields

/-- What a message says in one field has nothing to do with the others. -/
theorem words_congr {hs hs' : Fields} {n : FieldName} (h : hs.valuesOf n = hs'.valuesOf n) :
    hs.words n = hs'.words n := by
  rw [words, words, h]

/-- **Methods written as a list are read as those methods.** -/
theorem words_insertText_methods (hs : Fields) (n : FieldName) {ms : List Method} (hne : ms ≠ []) :
    (hs.insertText n (", ".intercalate (ms.map Method.text))).words n = ms.map Method.token := by
  have hshown : (octets (Method.listed ms)).all Octet.isShown = true :=
    List.all_eq_true.mpr fun _ hb => Method.isShown_of_mem_listed hb
  have htext : (octets (Method.listed ms)).all Octet.isFieldText = true :=
    List.all_eq_true.mpr fun _ hb => isFieldText_of_isShown (Method.isShown_of_mem_listed hb)
  have hvalue : FieldValue.ofText? (Method.listed ms) = some ⟨octets (Method.listed ms), htext⟩ := dif_pos htext
  -- The list is a value that can be shown, and it is the only one of its name.
  rw [← Method.listed, insertText, hvalue, Option.elim_some, words, valuesOf_insert]
  simp only [FieldValue.shown?, hshown, if_true, List.filterMap_cons, List.filterMap_nil, List.flatMap_cons,
    List.flatMap_nil, List.append_nil]
  exact Method.pieces_listed hne

end Fields

/-! ## Answers to requests without a route -/

/-- The blank response allows nothing. -/
theorem words_allow_blank (request : Request) (id : RequestId) :
    (Exchange.blank request id).fields.words .allow = [] := by
  have hid : (Fields.empty.insertText .requestId id.text).valuesOf .allow = [] :=
    Fields.valuesOf_insertText_of_ne _ (by decide) _
  have hvalues : (Exchange.blank request id).fields.valuesOf .allow = [] := by
    show Fields.valuesOf (if wantsClose request.version request.fields then _ else _) .allow = []
    cases wantsClose request.version request.fields with
    | true =>
      rw [if_pos rfl, Fields.valuesOf_insert_of_ne _ (by decide), hid]
    | false => rw [if_neg Bool.false_ne_true, hid]
  rw [Fields.words, hvalues]
  rfl

/-- A body of JSON says nothing in other fields than that of its kind. -/
theorem words_withJson {n : FieldName} (hne : n ≠ .contentType) (status : Status) (body : JsonValue) (r : Response) :
    (Script.withJson status body r).fields.words n = r.fields.words n :=
  Fields.words_congr (Fields.valuesOf_insert_of_ne r.fields hne .json)

section

variable {η : Type} (router : Router η) (m : Method) (path : String) (r : Response)

/-- Where no method is allowed, the path is not found, and no methods are named. -/
theorem refusing_of_allowed_nil (h : router.allowedMethods path = []) :
    (refusing router m path r).status = .notFound ∧
      (refusing router m path r).fields.words .allow = r.fields.words .allow := by
  rw [refusing, h]
  exact ⟨rfl, words_withJson (by decide) _ _ r⟩

/-- Where others are, the one asked for is not allowed, and they are named. -/
theorem refusing_of_allowed_ne_nil (h : router.allowedMethods path ≠ []) :
    (refusing router m path r).status = .methodNotAllowed ∧
      (refusing router m path r).fields.words .allow = (router.allowedMethods path).map Method.token := by
  rw [refusing]
  split
  next hnil => exact absurd hnil h
  next =>
    refine ⟨rfl, ?_⟩
    rw [words_withJson (by decide)]
    exact Fields.words_insertText_methods r.fields .allow h

/-- **A refusal tells whether any method is routed**, and never lists the method that it refuses. -/
theorem refusing_of_unrouted (hblank : r.fields.words .allow = []) (hunrouted : router.lookup m path = none) :
    let w := refusing router m path r
    (w.status = .notFound ↔ ∀ m', router.lookup m' path = none) ∧
    (w.status = .notFound → w.fields.words .allow = []) ∧
    (w.status ≠ .notFound → w.status = .methodNotAllowed ∧
      w.fields.words .allow = (router.allowedMethods path).map Method.token ∧
      w.fields.words .allow ≠ [] ∧ m.token ∉ w.fields.words .allow) := by
  intro w
  -- The refusal looks at the methods that are allowed; that there are none means that none is routed.
  by_cases hallowed : router.allowedMethods path = []
  · obtain ⟨hstatus, hwords⟩ := refusing_of_allowed_nil router m path r hallowed
    have hnone := (Router.allowedMethods_eq_nil_iff router path).mp hallowed
    exact ⟨⟨fun _ => hnone, fun _ => hstatus⟩, fun _ => hwords.trans hblank, fun hne => absurd hstatus hne⟩
  · obtain ⟨hstatus, hwords⟩ := refusing_of_allowed_ne_nil router m path r hallowed
    have hdiffers : w.status ≠ .notFound := by
      rw [hstatus]
      decide
    refine ⟨⟨fun hfound => absurd hfound hdiffers, fun hnone => ?_⟩, fun hfound => absurd hfound hdiffers,
      fun _ => ⟨hstatus, hwords, ?_, ?_⟩⟩
    · exact absurd ((Router.allowedMethods_eq_nil_iff router path).mpr hnone) hallowed
    · rw [hwords]
      exact fun h => hallowed (List.map_eq_nil_iff.mp h)
    · rw [hwords]
      intro hmem
      obtain ⟨m', hm', htoken⟩ := List.mem_map.mp hmem
      -- Its own method would be routed.
      have hsome := Router.lookup_isSome_of_mem_allowedMethods hm'
      rw [Method.eq_of_token htoken, hunrouted] at hsome
      cases hsome

end

namespace Service

/-- A request without a route is answered with its refusal. -/
theorem written?_of_unrouted {s : Service} {request : Request}
    (h : s.router.lookup request.method request.target.path = none) (session : Session) (fresh : RequestId) :
    s.written? session fresh request =
      some (refusing s.router request.method request.target.path
        (Exchange.blank request (Exchange.idOf request fresh))) := by
  rw [written?, scriptFor, script, h]
  exact (responds_unrouted s.router request.method request.target.path).writes _

/-- **What a router allows is what it routes, and what it does not route is answered so.** The methods allowed at a path
are in order and none stands twice, each of them is routed there, and there is none exactly where no method is routed.
A request that is not routed is answered with 404 exactly when no method is routed at its path. Otherwise it is answered
with 405 and a list of methods that is not empty and in which its own method is not. -/
theorem serve_of_unrouted (es : List (Router.Insertion Handler)) :
    let router := Router.ofInsertions es
    (∀ path, (router.allowedMethods path).Pairwise (fun a b => a.text ≤ b.text) ∧
      (router.allowedMethods path).Nodup ∧
      (router.allowedMethods path = [] ↔ ∀ m, router.lookup m path = none) ∧
      ∀ m ∈ router.allowedMethods path, (router.lookup m path).isSome) ∧
    ∀ (limits : Limits) (session : Session) (fresh : Nat → RequestId) (buffer left : Octets) (reads later : List Read)
      (coming : List Delivery) (head : RequestHead) (body : String),
      Reader.read .request limits buffer reads = ⟨.message head body, left, later⟩ →
      router.lookup head.method head.target.path = none →
      ∃ (w : Response) (rest : List SessionEvent),
        Service.serve ⟨router, limits⟩ session fresh buffer reads coming =
          [.received (head.withBody body),
            .sent ((coming.headD .whole).taken (Encoder.response w head.method))] ++ rest ∧
        (w.status = .notFound ↔ ∀ m, router.lookup m head.target.path = none) ∧
        (w.status = .notFound → w.fields.words .allow = []) ∧
        (w.status ≠ .notFound → w.status = .methodNotAllowed ∧
          w.fields.words .allow = (router.allowedMethods head.target.path).map Method.token ∧
          w.fields.words .allow ≠ [] ∧ head.method.token ∉ w.fields.words .allow) := by
  intro router
  refine ⟨fun path => ⟨Router.pairwise_allowedMethods router path, Router.nodup_allowedMethods es path,
    Router.allowedMethods_eq_nil_iff router path, fun m hm => Router.lookup_isSome_of_mem_allowedMethods hm⟩, ?_⟩
  intro limits session fresh buffer left reads later coming head body hread hunrouted
  -- The router answers in the place of a handler, and always writes.
  have hroute : (Service.mk router limits).router.lookup (head.withBody body).method
      (head.withBody body).target.path = none := hunrouted
  have hwrites := written?_of_unrouted hroute session (fresh 0)
  have hserve : serve ⟨router, limits⟩ session fresh buffer reads coming = _ := serve_of_reads hread coming
  rw [leaving_of_written hwrites] at hserve
  exact ⟨_, _, hserve, refusing_of_unrouted router head.method head.target.path _ (words_allow_blank _ _) hunrouted⟩

/-- A literal path and a wildcard that also matches it, with different methods. -/
def petRoutes : List (Router.Insertion Handler) :=
  [⟨"/pets/latest", .get, .filling fun _ r => r⟩, ⟨"/pets/*", .post, .filling fun _ r => r⟩]

/-- The list names the methods of the literal path alone. -/
theorem serve_of_unrouted_pets :
    let router := Router.ofInsertions petRoutes
    let head : RequestHead := ⟨.trace, .ofPath ⟨"/pets/latest", none⟩, .http11, .empty⟩
    let sent := octets "TRACE /pets/latest HTTP/1.1\r\n\r\n"
    Reader.read .request .standard sent [] = ⟨.message head "", [], []⟩ ∧
      router.lookup .trace "/pets/latest" = none ∧
      ∃ w rest, Service.serve ⟨router, .standard⟩ .loopback (.made 0) sent [] [] =
          [.received (head.withBody ""), .sent (Encoder.response w .trace)] ++ rest ∧
        w.status = .methodNotAllowed ∧ w.fields.words .allow = [octets "GET"] := by
  intro router head sent
  have hread : Reader.read .request .standard sent [] = ⟨.message head "", [], []⟩ := rfl
  have hunrouted : router.lookup .trace "/pets/latest" = none := rfl
  have hrouted : (router.lookup .get "/pets/latest").isSome := rfl
  have hallowed : router.allowedMethods "/pets/latest" = [.get] := by
    show List.mergeSort [Method.get] _ = _
    exact List.mergeSort_singleton _
  obtain ⟨w, rest, hserve, hfound, -, hrefused⟩ :=
    (serve_of_unrouted petRoutes).2 .standard .loopback (.made 0) sent [] [] [] [] head "" hread hunrouted
  have hdiffers : w.status ≠ .notFound := by
    intro h
    have hnone : router.lookup .get "/pets/latest" = none := hfound.mp h .get
    rw [hnone] at hrouted
    cases hrouted
  obtain ⟨hstatus, hwords, -⟩ := hrefused hdiffers
  refine ⟨hread, hunrouted, w, rest, hserve, hstatus, ?_⟩
  rw [hwords]
  exact congrArg (List.map Method.token) hallowed

end Service

end HttpService
