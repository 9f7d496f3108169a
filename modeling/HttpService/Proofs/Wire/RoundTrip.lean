import HttpService.Proofs.Wire.Pieces
import HttpService.Proofs.Wire.Written

/-!
# Messages are read as they were written

Whatever pieces a written message arrives in and whatever follows it, the reader takes the octets of that message and
gives back the message with its fields reframed.

* `Reader.read_written_requests` — this holds of every request for a path, and of requests written back to back.
* `Reader.read_written_response` — of a response it holds unless the status allows no body and there is one: the
  writer writes it, the reader leaves it for the next message.
-/

namespace HttpService

variable {H : Type}

/-! ## One message -/

/-- A body is taken back by its length. -/
theorem Decoder.body_of_length {limits : Limits} (head : H) {text : String}
    (hfits : (octets text).length ≤ limits.body) (s : Octets) :
    body limits head (if (octets text).length = 0 then .none else .length (octets text).length)
        (octets text ++ s) = .ended (.message head text) s := by
  by_cases hlen : (octets text).length = 0
  · have hnil := List.length_eq_zero_iff.mp hlen
    rw [if_pos hlen, hnil, eq_empty_of_octets hnil]
    rfl
  · rw [if_neg hlen, body, if_neg (Nat.not_lt.mpr hfits), sized, if_neg, List.take_left, List.drop_left, finish,
      text?_octets]
    rw [List.length_append]
    omega

namespace Reader

/-- The reads left are the last of the reads given. -/
theorem reads_suffix (form : Form H) (limits : Limits) (p : Progress H) (reads : List Read) :
    (readOn form limits p reads).reads <:+ reads := by
  fun_induction readOn form limits p reads with
  | case1 => exact List.suffix_rfl
  | case2 => exact List.suffix_rfl
  | case3 => exact List.suffix_rfl
  | case4 d r reads ih => exact ih.trans (List.suffix_cons r reads)

/-- What is not yet read of a stream of pieces are pieces. -/
theorem exists_pieces_of_reads (form : Form H) (limits : Limits) (buffer : Octets) {pieces : List Octets}
    (hne : ∀ c ∈ pieces, c ≠ []) :
    ∃ pieces' : List Octets, (∀ c ∈ pieces', c ≠ []) ∧
      (read form limits buffer (pieces.map .data)).reads = pieces'.map .data := by
  obtain ⟨before, hreads⟩ := reads_suffix form limits ((Decoder.start buffer).advance form limits) (pieces.map .data)
  obtain ⟨used, pieces', rfl, -, hmap⟩ := List.append_eq_map_iff.mp hreads
  exact ⟨pieces', fun c hc => hne c (List.mem_append_right used hc), hmap.symm⟩

/-- A message whose body ends of itself is read from any pieces. -/
theorem read_of_begins {form : Form H} (hf : form.scan.Complete) {limits : Limits} {buffer : Octets}
    {pieces : List Octets} (hne : ∀ c ∈ pieces, c ≠ []) {head : H} {rest left : Octets} {framing : Framing}
    {text : String} (hbegins : form.Begins limits (buffer ++ pieces.flatten) head rest framing)
    (hbody : Decoder.body limits head framing rest = .ended (.message head text) left) :
    (read form limits buffer (pieces.map .data)).how = .message head text ∧
      (read form limits buffer (pieces.map .data)).remaining = left := by
  have hstep : Decoder.advance form limits ⟨.head, buffer ++ pieces.flatten⟩ = .ended (.message head text) left := by
    rw [Decoder.advance_of_begins hbegins, hbody]
  -- What has ended does not wait for the end of the stream.
  have hopen : ¬ form.LastsToEnd limits (buffer ++ pieces.flatten) := by
    rw [← Decoder.atOpen_advance_iff, hstep]
    exact id
  have hwhole : read form limits (buffer ++ pieces.flatten) [] = ⟨.message head text, left, []⟩ := by
    rw [read, Decoder.start, hstep, readOn_ended]
  have hagrees := read_agrees hf hne hopen
  rw [hwhole] at hagrees
  rcases hagrees with ⟨hhow, hleft⟩ | ⟨e, e', -, hfailed, -⟩
  · refine ⟨hhow, hleft.trans ?_⟩
    simp [ReadResult.remaining]
  · cases hfailed

end Reader

/-! ## Requests -/

/-- The head of a request as it is read back. -/
def Request.reframed (r : Request) : RequestHead :=
  ⟨r.method, r.target, r.version, r.fields.reframed (octets r.body).length⟩

/-- A request for a path that its written form and the limits of its reader admit. -/
structure Request.Admitted (limits : Limits) (r : Request) : Prop where
  version : r.version = .http10 ∨ r.version = .http11
  /-- There are no targets but those that some text spells. -/
  parsed : ∃ text, Target.parse text = .ok r.target
  slash : r.target.text.toList.head? = some '/'
  visible : ∀ c ∈ r.target.text.toList, 0x21 ≤ c.toNat ∧ c.toNat ≤ 0x7e
  trimmed : ∀ l ∈ r.fields.lines, l.2.content.trimBlanks = l.2.content
  lines : (r.fields.lines.filter fun l => !Encoder.isFraming l.1).length + 1 ≤ Head.maxFields
  head : (Encoder.requestHead r).length ≤ limits.head
  body : (octets r.body).length ≤ limits.body
  /-- A length is a count of 64 bits. -/
  count : (octets r.body).length < countBound

namespace Reader

/-- Visible ASCII may stand in a target. -/
theorem isTargetOctet_of_visible {s : String} (h : ∀ c ∈ s.toList, 0x21 ≤ c.toNat ∧ c.toNat ≤ 0x7e) :
    (octets s).all Head.isTargetOctet = true := by
  have hascii : ∀ c ∈ s.toList, c.toNat < 128 := fun c hc => Nat.lt_of_le_of_lt (h c hc).2 (by decide)
  have hoctets := octets_ofList_of_ascii hascii
  rw [String.ofList_toList] at hoctets
  rw [hoctets, List.all_eq_true]
  intro b hb
  obtain ⟨c, hc, rfl⟩ := List.mem_map.mp hb
  have hnumber := Decimal.toNat_octet_of_ascii (hascii c hc)
  obtain ⟨hlow, hhigh⟩ := h c hc
  simp only [Head.isTargetOctet, Bool.and_eq_true, decide_eq_true_eq, bne_iff_ne, UInt8.lt_iff_toNat_lt, hnumber]
  refine ⟨hlow, fun heq => ?_⟩
  rw [heq] at hnumber
  have : (127 : UInt8).toNat = 127 := rfl
  omega

/-- A written request begins with its head, and with the target that is read of what it carries. -/
theorem begins_request_of_parse {limits : Limits} {r : Request} {target : Target}
    (hparse : Target.parse r.target.requestText = .ok target)
    (htarget : (octets r.target.requestText).all Head.isTargetOctet = true) (hne : octets r.target.requestText ≠ [])
    (hlines : (r.fields.lines.filter fun l => !Encoder.isFraming l.1).length + 1 ≤ Head.maxFields)
    (hhead : (Encoder.requestHead r).length ≤ limits.head) (hcount : (octets r.body).length < countBound) (s : Octets) :
    Form.request.Begins limits (Encoder.request r ++ s)
      ⟨r.method, target, r.version.written, (r.fields.reframed (octets r.body).length).trimmed⟩ (octets r.body ++ s)
      (if (octets r.body).length = 0 then .none else .length (octets r.body).length) := by
  have hread := Head.reads_requestHead hparse htarget hne hlines
  refine ⟨?_, ?_, ?_⟩
  · rw [Encoder.request_eq, List.append_assoc]
    exact hread _
  · rw [Encoder.request_eq]
    simp only [List.length_append]
    omega
  · show Framing.ofRequest (r.fields.reframed _).trimmed = _
    rw [Framing.ofRequest, Fields.ofFields_trimmed, Fields.ofFields_reframed r.fields hcount, Except.map]
    split
    · rfl
    · rfl

/-- What is written of a request is scanned back as its head, and the framing announces its body. -/
theorem begins_request {limits : Limits} {r : Request} (hr : r.Admitted limits) (s : Octets) :
    Form.request.Begins limits (Encoder.request r ++ s) r.reframed (octets r.body ++ s)
      (if (octets r.body).length = 0 then .none else .length (octets r.body).length) := by
  obtain ⟨u, hparse⟩ := hr.parsed
  obtain ⟨htext, hagain⟩ := Target.parse_requestText hparse hr.slash
  -- The text begins with a slash, so it is not empty.
  have hne : octets r.target.requestText ≠ [] := by
    intro hnil
    have hslash := hr.slash
    rw [← htext, eq_empty_of_octets hnil] at hslash
    cases hslash
  have hbegins :=
    begins_request_of_parse hagain (htext ▸ isTargetOctet_of_visible hr.visible) hne hr.lines hr.head hr.count s
  rwa [Version.written_eq_self hr.version, Fields.trimmed_reframed hr.trimmed] at hbegins

/-- One request, at the front of what arrives: however it is cut, it is read back and what is behind it is left. -/
theorem read_request_of_flatten {limits : Limits} {r : Request} (hr : r.Admitted limits) {s buffer : Octets}
    {pieces : List Octets} (hne : ∀ c ∈ pieces, c ≠ [])
    (hsame : buffer ++ pieces.flatten = Encoder.request r ++ s) :
    (read .request limits buffer (pieces.map .data)).how = .message r.reframed r.body ∧
      (read .request limits buffer (pieces.map .data)).remaining = s :=
  read_of_begins Head.complete_requestHead hne (hsame ▸ begins_request hr s)
    (Decoder.body_of_length r.reframed hr.body s)

/-- Requests read one after the other: each is the next one written, and leaves those behind it. -/
theorem readMany_requests_of_flatten {limits : Limits} {rs : List Request} (hrs : ∀ r ∈ rs, r.Admitted limits)
    {s buffer : Octets} {pieces : List Octets} (hne : ∀ c ∈ pieces, c ≠ [])
    (hsame : buffer ++ pieces.flatten = rs.flatMap Encoder.request ++ s) :
    (readMany limits (rs.map fun _ => .request) buffer (pieces.map .data)).map ReadResult.how =
        rs.map (fun r => .message r.reframed r.body) ∧
      ∀ i < rs.length,
        (readMany limits (rs.map fun _ => .request) buffer (pieces.map .data))[i]?.map ReadResult.remaining =
          some ((rs.drop (i + 1)).flatMap Encoder.request ++ s) := by
  induction rs generalizing buffer pieces with
  | nil => exact ⟨rfl, fun i hi => absurd hi (Nat.not_lt_zero i)⟩
  | cons r rs ih =>
    rw [List.flatMap_cons, List.append_assoc] at hsame
    obtain ⟨hhow, hleft⟩ := read_request_of_flatten (hrs r List.mem_cons_self) hne hsame
    obtain ⟨pieces', hne', hreads⟩ := exists_pieces_of_reads .request limits buffer hne
    -- What the first request leaves is where the others are read from.
    rw [ReadResult.remaining, hreads, flatMap_octets] at hleft
    obtain ⟨hhows, hlefts⟩ := ih (fun r' hr' => hrs r' (List.mem_cons_of_mem r hr')) hne' hleft
    rw [← hreads] at hhows hlefts
    constructor
    · rw [List.map_cons, readMany, List.map_cons, List.map_cons, hhow, hhows]
    · intro i hi
      rw [List.map_cons, readMany]
      cases i with
      | zero =>
        rw [List.getElem?_cons_zero, Option.map_some, ReadResult.remaining, hreads, flatMap_octets, hleft]
        rfl
      | succ i =>
        rw [List.getElem?_cons_succ, List.drop_succ_cons]
        exact hlefts i (Nat.lt_of_succ_lt_succ hi)

/-- **A request for a path is read back as it was written**, with its fields reframed, and what follows it is left.
So are requests written back to back: each is read in its turn and leaves those behind it. -/
theorem read_written_requests (limits : Limits) :
    (∀ r : Request, r.Admitted limits → ∀ (s buffer : Octets) (pieces : List Octets), (∀ c ∈ pieces, c ≠ []) →
      buffer ++ pieces.flatten = Encoder.request r ++ s →
        (read .request limits buffer (pieces.map .data)).how = .message r.reframed r.body ∧
          (read .request limits buffer (pieces.map .data)).remaining = s) ∧
      ∀ rs : List Request, (∀ r ∈ rs, r.Admitted limits) → ∀ (s buffer : Octets) (pieces : List Octets),
        (∀ c ∈ pieces, c ≠ []) → buffer ++ pieces.flatten = rs.flatMap Encoder.request ++ s →
          (readMany limits (rs.map fun _ => .request) buffer (pieces.map .data)).map ReadResult.how =
              rs.map (fun r => .message r.reframed r.body) ∧
            ∀ i < rs.length,
              (readMany limits (rs.map fun _ => .request) buffer (pieces.map .data))[i]?.map
                  ReadResult.remaining =
                some ((rs.drop (i + 1)).flatMap Encoder.request ++ s) :=
  ⟨fun _ hr _ _ _ hne hsame => read_request_of_flatten hr hne hsame,
    fun _ hrs _ _ _ hne hsame => readMany_requests_of_flatten hrs hne hsame⟩

/-- Two requests that arrive together, one with fields that are dropped and a name that comes twice. -/
theorem read_written_requests_pipelined :
    let x : FieldName := ⟨octets "x", by decide⟩
    let r : Request := ⟨.post, .ofPath ⟨"/a", some "b=c"⟩, .http10,
      .ofLines [(x, ⟨[], rfl⟩), (.transferEncoding, ⟨octets "chunked", by decide⟩), (x, ⟨[0xff], by decide⟩)],
      "h\u00e9"⟩
    let r' : Request := ⟨.get, .ofPath ⟨"/", none⟩, .http11, .empty, ""⟩
    let pieces := [Encoder.request r ++ (Encoder.request r').take 3, (Encoder.request r').drop 3 ++ octets "PUT"]
    r.Admitted .standard ∧ r'.Admitted .standard ∧ (∀ c ∈ pieces, c ≠ []) ∧
      [] ++ pieces.flatten = [r, r'].flatMap Encoder.request ++ octets "PUT" ∧
      (readMany .standard [.request, .request] [] (pieces.map .data)).map ReadResult.how =
        [.message r.reframed r.body, .message r'.reframed r'.body] := by
  intro x r r' pieces
  have hvisible : (r.target.text.toList.all fun c => 0x21 ≤ c.toNat ∧ c.toNat ≤ 0x7e) = true := by decide
  have hr : r.Admitted .standard :=
    ⟨.inl rfl, ⟨"/a?b=c", by rfl⟩, by decide, fun c hc => of_decide_eq_true (List.all_eq_true.mp hvisible c hc),
      by decide, by decide, by decide, by decide, by decide⟩
  have hvisible' : (r'.target.text.toList.all fun c => 0x21 ≤ c.toNat ∧ c.toNat ≤ 0x7e) = true := by decide
  have hr' : r'.Admitted .standard :=
    ⟨.inr rfl, ⟨"/", by rfl⟩, by decide, fun c hc => of_decide_eq_true (List.all_eq_true.mp hvisible' c hc),
      by decide, by decide, by decide, by decide, by decide⟩
  have hne : ∀ c ∈ pieces, c ≠ [] := by decide
  have hsame : [] ++ pieces.flatten = [r, r'].flatMap Encoder.request ++ octets "PUT" := by decide
  refine ⟨hr, hr', hne, hsame, ?_⟩
  exact ((read_written_requests .standard).2 [r, r'] (by simp [hr, hr']) _ [] pieces hne hsame).1

end Reader

/-! ## Responses -/

/-- The head of a response as it is read back. -/
def Response.reframed (r : Response) : ResponseHead :=
  ⟨r.status, r.version, r.fields.reframed (octets r.body).length⟩

/-- A response that its written form and the limits of its reader admit. -/
structure Response.Admitted (limits : Limits) (r : Response) : Prop where
  version : r.version = .http10 ∨ r.version = .http11
  trimmed : ∀ l ∈ r.fields.lines, l.2.content.trimBlanks = l.2.content
  lines : (r.fields.lines.filter fun l => !Encoder.isFraming l.1).length + 1 ≤ Head.maxFields
  head : (Encoder.responseHead r).length ≤ limits.head
  body : (octets r.body).length ≤ limits.body
  /-- A length is a count of 64 bits. -/
  count : (octets r.body).length < countBound

/-- A status that a reader takes to come without a body. -/
def Status.IsBare (s : Status) : Prop := s.isInterim = true ∨ s = .noContent ∨ s = .notModified

instance (s : Status) : Decidable s.IsBare := inferInstanceAs (Decidable (_ ∨ _))

/-- A response is read with a body unless it answers a `HEAD` request or has a status without one. -/
theorem Framing.allowsBody_eq_true_iff {m : Method} {s : Status} :
    allowsBody m s = true ↔ m ≠ .head ∧ ¬ s.IsBare := by
  simp only [allowsBody, Status.IsBare, Bool.not_eq_true', Bool.or_eq_false_iff, beq_eq_false_iff_ne, not_or,
    Bool.not_eq_true, and_assoc, ne_eq]

namespace Reader

/-- What is written of a response is scanned back as its head. Whether a body is looked for depends on the request and
the status, and whether one was written on the request alone. -/
theorem begins_response {limits : Limits} {r : Response} (hr : r.Admitted limits) (m : Method) (s : Octets) :
    (Form.response m).Begins limits (Encoder.response r m ++ s) r.reframed
      ((if m = .head then [] else octets r.body) ++ s)
      (if Framing.allowsBody m r.status then
        if (octets r.body).length = 0 then .none else .length (octets r.body).length
      else .none) := by
  have hread := Head.reads_responseHead hr.lines
  -- An admitted response is written with the version and the fields it has.
  rw [Version.written_eq_self hr.version, Fields.trimmed_reframed hr.trimmed] at hread
  refine ⟨?_, ?_, ?_⟩
  · rw [Encoder.response_eq, List.append_assoc]
    exact hread _
  · have hhead := hr.head
    rw [Encoder.response_eq]
    simp only [List.length_append]
    omega
  · show Framing.ofResponse m r.status (r.fields.reframed _) = _
    rw [Framing.ofResponse]
    split
    · exact Fields.ofFields_reframed r.fields hr.count
    · rfl

variable {limits : Limits} {r : Response} {m : Method} {s buffer : Octets} {pieces : List Octets}

/-- A response that may have a body is read back with it. -/
theorem read_response_of_allowsBody (hr : r.Admitted limits) (hm : Framing.allowsBody m r.status = true)
    (hne : ∀ c ∈ pieces, c ≠ []) (hsame : buffer ++ pieces.flatten = Encoder.response r m ++ s) :
    (read (.response m) limits buffer (pieces.map .data)).how = .message r.reframed r.body ∧
      (read (.response m) limits buffer (pieces.map .data)).remaining = s := by
  have hbegins := begins_response hr m s
  rw [if_pos hm, if_neg (Framing.allowsBody_eq_true_iff.mp hm).1, ← hsame] at hbegins
  exact read_of_begins Head.complete_responseHead hne hbegins (Decoder.body_of_length r.reframed hr.body s)

/-- One that may not is read without, and what was written as its body is left. -/
theorem read_response_of_not_allowsBody (hr : r.Admitted limits) (hm : Framing.allowsBody m r.status = false)
    (hne : ∀ c ∈ pieces, c ≠ []) (hsame : buffer ++ pieces.flatten = Encoder.response r m ++ s) :
    (read (.response m) limits buffer (pieces.map .data)).how = .message r.reframed "" ∧
      (read (.response m) limits buffer (pieces.map .data)).remaining =
        (if m = .head then [] else octets r.body) ++ s := by
  have hbegins := begins_response hr m s
  rw [if_neg (Bool.eq_false_iff.mp hm), ← hsame] at hbegins
  exact read_of_begins Head.complete_responseHead hne hbegins rfl

/-- **A response is read back as it was written**, with its fields reframed and without a body where the method is HEAD,
and what follows it is left, exactly where the method is HEAD, there is no body, or the status does not rule one out.
Where a body was written for a status that rules one out, the reader leaves it to be taken for the next message. -/
theorem read_written_response (hr : r.Admitted limits) (hne : ∀ c ∈ pieces, c ≠ [])
    (hsame : buffer ++ pieces.flatten = Encoder.response r m ++ s) :
    ((read (.response m) limits buffer (pieces.map .data)).how =
          .message r.reframed (if m = .head then "" else r.body) ∧
        (read (.response m) limits buffer (pieces.map .data)).remaining = s ↔
      m = .head ∨ r.body = "" ∨ ¬ r.status.IsBare) ∧
    (¬ (m = .head ∨ r.body = "" ∨ ¬ r.status.IsBare) →
      (read (.response m) limits buffer (pieces.map .data)).how = .message r.reframed "" ∧
        (read (.response m) limits buffer (pieces.map .data)).remaining = octets r.body ++ s) := by
  by_cases hhead : m = .head
  -- For HEAD neither the writer nor the reader takes the body into account.
  · obtain ⟨hhow, hleft⟩ := read_response_of_not_allowsBody hr
      (Bool.eq_false_iff.mpr fun hm => (Framing.allowsBody_eq_true_iff.mp hm).1 hhead) hne hsame
    rw [if_pos hhead, List.nil_append] at hleft
    rw [if_pos hhead]
    exact ⟨iff_of_true ⟨hhow, hleft⟩ (.inl hhead), fun hnot => absurd (.inl hhead) hnot⟩
  · rw [if_neg hhead]
    by_cases hbare : r.status.IsBare
    -- The status alone rules the body out, and only the reader asks for it.
    · obtain ⟨hhow, hleft⟩ := read_response_of_not_allowsBody hr
        (Bool.eq_false_iff.mpr fun hm => (Framing.allowsBody_eq_true_iff.mp hm).2 hbare) hne hsame
      rw [if_neg hhead] at hleft
      refine ⟨⟨fun h => ?_, fun h => ?_⟩, fun _ => ⟨hhow, hleft⟩⟩
      · exact .inr (.inl (Ended.message.inj (hhow.symm.trans h.1)).2.symm)
      · have hbody : r.body = "" := by
          rcases h with h | h | h
          · exact absurd h hhead
          · exact h
          · exact absurd hbare h
        rw [hhow, hleft, hbody]
        exact ⟨rfl, rfl⟩
    · have hmay := Framing.allowsBody_eq_true_iff.mpr ⟨hhead, hbare⟩
      exact ⟨iff_of_true (read_response_of_allowsBody hr hmay hne hsame) (.inr (.inr hbare)),
        fun hnot => absurd (.inr (.inr hbare)) hnot⟩

/-- A response with fields that are dropped, cut inside its head, with the next one behind it. -/
theorem read_written_response_cut_in_head :
    let r : Response := ⟨.ok, .http10, .ofLines [(.transferEncoding, ⟨octets "chunked", by decide⟩),
      (.contentType, .json), (.contentLength, ⟨octets "7", by decide⟩)], "null"⟩
    let pieces := [(Encoder.response r .get).take 20, (Encoder.response r .get).drop 20 ++ octets "HTTP"]
    r.Admitted .standard ∧ (∀ c ∈ pieces, c ≠ []) ∧
      [] ++ pieces.flatten = Encoder.response r .get ++ octets "HTTP" ∧
      (read (.response .get) .standard [] (pieces.map .data)).how = .message r.reframed "null" ∧
      (read (.response .get) .standard [] (pieces.map .data)).remaining = octets "HTTP" := by
  intro r pieces
  have hr : r.Admitted .standard := ⟨.inl rfl, by decide, by decide, by decide, by decide, by decide⟩
  have hne : ∀ c ∈ pieces, c ≠ [] := by decide
  have hsame : [] ++ pieces.flatten = Encoder.response r .get ++ octets "HTTP" := by decide
  refine ⟨hr, hne, hsame, ?_⟩
  exact (read_written_response hr hne hsame).1.mpr (.inr (.inr (by decide)))

/-- The body written for a status 204 is left on the connection. -/
theorem not_read_back_noContent_with_body :
    let r : Response := ⟨.noContent, .http11, .empty, "hello"⟩
    let pieces := [Encoder.response r .get]
    r.Admitted .standard ∧ (∀ c ∈ pieces, c ≠ []) ∧ [] ++ pieces.flatten = Encoder.response r .get ++ [] ∧
      ¬ ((read (.response .get) .standard [] (pieces.map .data)).how = .message r.reframed "hello" ∧
        (read (.response .get) .standard [] (pieces.map .data)).remaining = []) := by
  intro r pieces
  have hr : r.Admitted .standard := ⟨.inr rfl, by decide, by decide, by decide, by decide, by decide⟩
  have hne : ∀ c ∈ pieces, c ≠ [] := by decide
  have hsame : [] ++ pieces.flatten = Encoder.response r .get ++ [] := by decide
  have hleft := (read_response_of_not_allowsBody hr (by decide) hne hsame).2
  refine ⟨hr, hne, hsame, fun hread => ?_⟩
  rw [hleft] at hread
  exact absurd hread.2 (by decide)

end Reader

end HttpService
