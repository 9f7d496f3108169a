import HttpService.Proofs.TargetForms
import HttpService.Proofs.Wire.RoundTrip

/-!
# Requests for any target

A request may be for a path, for an authority, for an address or for `*`; its line carries a path and a query. The
request that is read back is one for the same path and query, with the method, the fields and the body that it was
written with.

* `Request.Sendable` — a request for any target, that its written form and the limits of its reader admit.
* `Reader.read_carried` — it is read back, unless its target is an address with a query and without a path.
-/

namespace HttpService

/-- A request that its written form and the limits of its reader admit, whatever it is for. -/
structure Request.Sendable (limits : Limits) (r : Request) : Prop where
  /-- There are no targets but those that some text spells; the text is visible ASCII. -/
  parsed : ∃ text, Target.parse text = .ok r.target ∧ ∀ c ∈ text.toList, 0x21 ≤ c.toNat ∧ c.toNat ≤ 0x7e
  lines : (r.fields.lines.filter fun l => !Encoder.isFraming l.1).length + 1 ≤ Head.maxFields
  head : (Encoder.requestHead r).length ≤ limits.head
  body : (octets r.body).length ≤ limits.body
  /-- A length is a count of 64 bits. -/
  count : (octets r.body).length < countBound

/-- A fault of the message is told by its kind alone. -/
theorem Error.exists_eq_protocol {e : Error} {fault : MessageFault} (h : e.kindName = (Error.protocol fault).kindName) :
    ∃ fault', e = .protocol fault' := by
  cases e with
  | protocol fault' => exact ⟨fault', rfl⟩
  | _ => exact absurd h (by simp [kindName])

namespace Reader

variable {limits : Limits} {r : Request} {s buffer : Octets} {pieces : List Octets}

/-- A target that can be sent has only octets that a request line may hold there. -/
theorem isTargetOctet_of_sendable (hr : r.Sendable limits) :
    (octets r.target.requestText).all Head.isTargetOctet = true := by
  obtain ⟨u, hparse, hvisible⟩ := hr.parsed
  exact isTargetOctet_of_visible (Target.forall_mem_requestText (by decide) (by decide) hparse hvisible)

/-- A request whose line carries a target is read back with that target. -/
theorem read_of_carried (hr : r.Sendable limits) {target : Target}
    (hparse : Target.parse r.target.requestText = .ok target)
    (hne : ∀ c ∈ pieces, c ≠ []) (hsame : buffer ++ pieces.flatten = Encoder.request r ++ s) :
    (read .request limits buffer (pieces.map .data)).how =
        .message ⟨r.method, target, r.version.written, (r.fields.reframed (octets r.body).length).trimmed⟩ r.body ∧
      (read .request limits buffer (pieces.map .data)).remaining = s := by
  -- No empty text is a target.
  have htext : octets r.target.requestText ≠ [] := by
    intro hnil
    rw [eq_empty_of_octets hnil] at hparse
    cases hparse
  have hbegins := begins_request_of_parse hparse (isTargetOctet_of_sendable hr) htext hr.lines hr.head hr.count s
  exact read_of_begins Head.complete_requestHead hne (hsame ▸ hbegins) (Decoder.body_of_length _ hr.body s)

/-- A request whose line carries no target is refused. -/
theorem read_of_not_carried (hr : r.Sendable limits) {fault : TargetFault}
    (hparse : Target.parse r.target.requestText = .error fault) (htext : octets r.target.requestText ≠ [])
    (hne : ∀ c ∈ pieces, c ≠ []) (hsame : buffer ++ pieces.flatten = Encoder.request r ++ s) :
    ∃ fault', (read .request limits buffer (pieces.map .data)).how = .failed (.protocol fault') := by
  have hscan : Form.request.scan (buffer ++ pieces.flatten) = .failed (.badTarget fault) := by
    rw [hsame, Encoder.request_eq, List.append_assoc]
    show Head.requestHead _ = _
    rw [Head.requestHead_written (isTargetOctet_of_sendable hr) htext hr.lines, hparse]
  -- From everything at once the head is refused; from pieces it fails in the same way.
  have hwhole : read .request limits (buffer ++ pieces.flatten) [] =
      ⟨.failed (.protocol (.badTarget fault)), buffer ++ pieces.flatten, []⟩ := by
    rw [read, Decoder.start, Decoder.advance_of_failed hscan, Decoder.refuse, readOn_ended]
  have hagrees := read_agrees Head.complete_requestHead hne (not_lastsToEnd_request limits (buffer ++ pieces.flatten))
  rw [hwhole] at hagrees
  rcases hagrees with ⟨hhow, -⟩ | ⟨e, e', hhow, hhow', hkind⟩
  · exact ⟨_, hhow⟩
  · obtain rfl := Ended.failed.inj hhow'
    obtain ⟨fault', rfl⟩ := Error.exists_eq_protocol hkind
    exact ⟨fault', hhow⟩

/-- **A request is read back for the path and the query that it was for**, or for the root where it was for no path,
exactly where its target is not an address with a query and without a path. Of such a one the query is carried alone
with its question mark, which is no target, so the request is refused. -/
theorem read_carried (hr : r.Sendable limits) (hne : ∀ c ∈ pieces, c ≠ [])
    (hsame : buffer ++ pieces.flatten = Encoder.request r ++ s) :
    ((Target.IsOriginForm r.target.requestText ∧
        ∃ target, (read .request limits buffer (pieces.map .data)).how =
            .message ⟨r.method, target, r.version.written, (r.fields.reframed (octets r.body).length).trimmed⟩ r.body ∧
          (read .request limits buffer (pieces.map .data)).remaining = s ∧ target.Recovers r.target) ↔
      ¬ r.target.IsBareQuery) ∧
    (r.target.IsBareQuery → ∃ q fault, r.target.query = some q ∧ r.target.requestText = "?" ++ q ∧
      (read .request limits buffer (pieces.map .data)).how = .failed (.protocol fault)) := by
  obtain ⟨u, hparse, -⟩ := hr.parsed
  constructor
  · constructor
    -- What is sent for a query alone does not begin with a slash.
    · rintro ⟨horigin, -⟩ hbare
      exact (Target.parse_carried_of_bareQuery hparse hbare).1 horigin
    · intro hnot
      obtain ⟨horigin, target, hcarried, hrecovers⟩ := Target.parse_carried hparse hnot
      obtain ⟨hhow, hleft⟩ := read_of_carried hr hcarried hne hsame
      exact ⟨horigin, target, hhow, hleft, hrecovers⟩
  · intro hbare
    obtain ⟨-, q, hquery, htext, fault, hcarried⟩ := Target.parse_carried_of_bareQuery hparse hbare
    -- There is a target on the line, so it is the target that is found wrong.
    have hmark : octets r.target.requestText ≠ [] := by
      rw [htext, octets_append]
      exact List.cons_ne_nil 63 (octets q)
    obtain ⟨fault', hhow⟩ := read_of_not_carried hr hcarried hmark hne hsame
    exact ⟨q, fault', hquery, htext, hhow⟩

/-- A request for an address, with a value that has blanks around it, is read back for the path and the query. -/
theorem read_carried_address :
    let r : Request := ⟨.post, ⟨some .http, "example.com:8080", ⟨"/a", some "b?c"⟩⟩, .http11,
      .ofLines [(⟨octets "x", by decide⟩, ⟨octets " y ", by decide⟩)], "hi"⟩
    let pieces := [(Encoder.request r).take 9, (Encoder.request r).drop 9 ++ octets "GET"]
    r.Sendable .standard ∧ (∀ c ∈ pieces, c ≠ []) ∧ [] ++ pieces.flatten = Encoder.request r ++ octets "GET" ∧
      r.target.requestText = "/a?b?c" ∧
      ∃ target, (read .request .standard [] (pieces.map .data)).how =
          .message ⟨.post, target, .http11, (r.fields.reframed 2).trimmed⟩ "hi" ∧
        (read .request .standard [] (pieces.map .data)).remaining = octets "GET" ∧ target.Recovers r.target := by
  intro r pieces
  have hvisible : ("http://example.com:8080/a?b?c#d".toList.all fun c => 0x21 ≤ c.toNat ∧ c.toNat ≤ 0x7e) = true := by
    decide
  have hr : r.Sendable .standard :=
    ⟨⟨"http://example.com:8080/a?b?c#d", by rfl, fun c hc => of_decide_eq_true (List.all_eq_true.mp hvisible c hc)⟩,
      by decide, by decide, by decide, by decide⟩
  have hne : ∀ c ∈ pieces, c ≠ [] := by decide
  have hsame : [] ++ pieces.flatten = Encoder.request r ++ octets "GET" := by decide
  obtain ⟨-, hback⟩ := (read_carried hr hne hsame).1.mpr (by decide)
  exact ⟨hr, hne, hsame, by decide, hback⟩

/-- A request for an address with a query and without a path is not read back. -/
theorem not_read_back_bare_query :
    ¬ ∀ (r : Request) (pieces : List Octets), r.Sendable .standard → (∀ c ∈ pieces, c ≠ []) →
      [] ++ pieces.flatten = Encoder.request r ++ [] →
      Target.IsOriginForm r.target.requestText ∧
        ∃ target, (read .request .standard [] (pieces.map .data)).how =
          .message ⟨r.method, target, r.version.written, (r.fields.reframed (octets r.body).length).trimmed⟩ r.body ∧
        (read .request .standard [] (pieces.map .data)).remaining = [] ∧ target.Recovers r.target := by
  intro hall
  let r : Request := ⟨.get, ⟨some .http, "example.com", ⟨"", some "x"⟩⟩, .http11, .empty, ""⟩
  have hvisible : ("http://example.com?x".toList.all fun c => 0x21 ≤ c.toNat ∧ c.toNat ≤ 0x7e) = true := by decide
  have hr : r.Sendable .standard :=
    ⟨⟨"http://example.com?x", by rfl, fun c hc => of_decide_eq_true (List.all_eq_true.mp hvisible c hc)⟩,
      by decide, by decide, by decide, by decide⟩
  obtain ⟨horigin, -⟩ := hall r [Encoder.request r] hr (by decide) (by decide)
  have hnot : ¬ Target.IsOriginForm r.target.requestText := by
    rintro (hstar | hslash)
    · exact absurd hstar (by decide)
    · exact absurd hslash (by decide)
  exact hnot horigin

end Reader

end HttpService
