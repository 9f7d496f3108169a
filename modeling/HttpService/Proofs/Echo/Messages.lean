import HttpService.Client.Session
import HttpService.Echo
import HttpService.Form.Lemmas
import HttpService.Proofs.Header.Correlation
import HttpService.Proofs.TargetForms
import HttpService.Proofs.Wire.RoundTrip

/-!
# Messages that are echoed

A message travels as a form in the query of a target and comes back as a string of JSON. Neither takes any character
amiss: the target is made of characters that a query may have, and there is no other mark of a form among them.

* `Echo.getRequest_target` — the target asks for the message, if it is not too long for a target.
* `Echo.message_of_query` — the message is found in a request that asks for the target.
* `Echo.admitted_response` — the response with the message is one that is read back.
* `Echo.fits_standard` — the standard limits have room for the response to any message that a target can carry.
-/

namespace HttpService

/-! ## Forms as queries -/

namespace Form

/-- What a form is written with may stand in a query, and in a request line. -/
theorem of_mem_encodeOctet {b : UInt8} {c : Char} (h : c ∈ encodeOctet b) :
    Target.isQueryChar c = true ∧ 0x21 ≤ c.toNat ∧ c.toNat ≤ 0x7e := by
  have key : ∀ n ∈ List.range 256, ((encodeOctet (UInt8.ofNat n)).all fun c =>
      Target.isQueryChar c = true ∧ 0x21 ≤ c.toNat ∧ c.toNat ≤ 0x7e) = true := by decide +kernel
  have hall := key b.toNat (List.mem_range.mpr b.toNat_lt)
  rw [UInt8.ofNat_toNat] at hall
  exact of_decide_eq_true (List.all_eq_true.mp hall c h)

/-- What a query is written with may stand in a request line. -/
theorem of_mem_pairText {name value : String} {c : Char} (h : c ∈ (pairText name value).toList) :
    Target.isQueryChar c = true ∧ 0x21 ≤ c.toNat ∧ c.toNat ≤ 0x7e := by
  have hencoded {s : String} (hc : c ∈ (encode s).toList) :
      Target.isQueryChar c = true ∧ 0x21 ≤ c.toNat ∧ c.toNat ≤ 0x7e := by
    rw [encode, String.toList_ofList] at hc
    obtain ⟨b, -, hb⟩ := List.mem_flatMap.mp hc
    exact of_mem_encodeOctet hb
  rw [pairText, String.toList_append, String.toList_append, List.mem_append, List.mem_append] at h
  rcases h with (h | h) | h
  · exact hencoded h
  · obtain rfl := List.mem_singleton.mp h
    decide
  · exact hencoded h

/-- No octet is left out of a form. -/
theorem length_octets_le_encode (s : String) : (octets s).length ≤ (octets (encode s)).length := by
  have hone (b : UInt8) : 1 ≤ (encodeOctet b).length := by
    have key : ∀ n ∈ List.range 256, 1 ≤ (encodeOctet (UInt8.ofNat n)).length := by decide +kernel
    simpa using key b.toNat (List.mem_range.mpr b.toNat_lt)
  rw [octets_encode, List.length_map]
  induction octets s with
  | nil => exact Nat.le_refl 0
  | cons b bs ih =>
    have hb := hone b
    rw [List.flatMap_cons, List.length_append, List.length_cons]
    omega

end Form

/-- The limits have room for the response. -/
structure Response.Fits (limits : Limits) (r : Response) : Prop where
  head : (Encoder.responseHead r).length ≤ limits.head
  body : (octets r.body).length ≤ limits.body

namespace Echo

/-! ## Asking -/

/-- The request for a message to be echoed. -/
def request (m : String) : Request := ⟨.get, .ofPath ⟨path, some (Form.pairText messageName m)⟩, .http11, .empty, ""⟩

variable {m : String}

/-- **The target is read as it was written**, if it is not too long. -/
theorem parse_target (hlen : (target m).utf8ByteSize ≤ Target.maxLength) :
    Target.parse (target m) = .ok (request m).target := by
  -- The path is fixed and the form is a query, so the target is a spelling of both.
  have hspelled :
      String.ofList (Target.spelling path.toList (some (Form.pairText messageName m).toList)) = target m := by
    refine String.toList_injective ?_
    rw [target, String.toList_append, String.toList_append, String.toList_ofList, List.append_assoc]
    rfl
  have hparse := Target.parse_spelling (p := "v1/echo".toList) (q := some (Form.pairText messageName m).toList)
    (List.all_eq_true.mp (by decide)) (fun q hq c hc => by
      obtain rfl := Option.some.inj hq
      exact (Form.of_mem_pairText hc).1)
    (by rwa [← hspelled] at hlen)
  rw [Option.map_some, String.ofList_toList] at hparse
  rw [← hspelled]
  exact hparse

/-- **The target asks for the message.** -/
theorem getRequest_target (hlen : (target m).utf8ByteSize ≤ Target.maxLength) :
    ClientSession.getRequest (target m) = .ok (request m) := by
  have hmethod : Method.build "GET" = .ok .get := rfl
  rw [ClientSession.getRequest, Request.build, hmethod, Target.build, parse_target hlen]
  rfl

/-- Every character of the target is visible. -/
theorem visible_target (m : String) : ∀ c ∈ (target m).toList, 0x21 ≤ c.toNat ∧ c.toNat ≤ 0x7e := by
  have hpath : ((path ++ "?").toList.all fun c => 0x21 ≤ c.toNat ∧ c.toNat ≤ 0x7e) = true := by decide
  intro c hc
  rw [target, String.toList_append, List.mem_append] at hc
  exact hc.elim (fun hc => of_decide_eq_true (List.all_eq_true.mp hpath c hc)) fun hc => (Form.of_mem_pairText hc).2

/-- **A request with this query is for the message**, unless it brings one as its body. -/
theorem message_of_query {r : Request} (hmethod : r.method = .get)
    (hquery : r.target.query = some (Form.pairText messageName m)) : message r = m := by
  have hnot : ¬ (r.method = .post ∧ r.body ≠ "") := by
    rw [hmethod]
    exact fun h => absurd h.1 (by decide)
  rw [message, if_neg hnot, hquery, Option.bind_some, Form.find?_pairText]
  rfl

/-! ## Answering -/

/-- An object with the message as its one member. -/
def answerText (m : String) : String := "\x7b\x22message\x22:" ++ Json.quoted m ++ "\x7d"

theorem text_answer (m : String) : (answer m []).text = answerText m := by
  have hname : Json.quoted messageName ++ ":" = "\x22message\x22:" := by decide
  show "\x7b" ++ (Json.quoted messageName ++ ":" ++ Json.quoted m) ++ "\x7d" = _
  rw [hname, ← String.append_assoc]
  rfl

/-- The object is read back with the message. -/
theorem read?_answerText (m : String) : Json.read? (answerText m) = some (.ofMembers [(messageName, .string m)]) := by
  rw [← text_answer]
  exact Json.read?_text_member messageName m

/-- The response with which a message is echoed. -/
def response (id : RequestId) (m : String) : Response :=
  ⟨.ok, .http11, (Fields.empty.insertText .requestId id.text).insert .contentType .json, answerText m⟩

/-- The response has two fields: the identifier and the kind of its body. -/
theorem lines_response (id : RequestId) (m : String) :
    (response id m).fields.lines = [(.requestId, RequestId.idValue id), (.contentType, .json)] := by
  rw [response, Fields.insertText, RequestId.fieldValue_ofText?_text]
  rfl

/-! ## Room for the answer -/

/-- A message has no more octets than its target. -/
theorem length_octets_le_target (m : String) : (octets m).length ≤ (target m).utf8ByteSize := by
  -- The form is a part of the target, and a message has no more octets than its form.
  have hencoded := Form.length_octets_le_encode m
  have hsize : (octets (Form.encode m)).length = (Form.encode m).utf8ByteSize := length_octets _
  rw [target, Form.pairText, String.utf8ByteSize_append, String.utf8ByteSize_append, String.utf8ByteSize_append,
    String.utf8ByteSize_append]
  omega

/-- A message that fits into a target is at most six times as long in its answer, where each of its octets may be
escaped. -/
theorem length_octets_answerText_le (hlen : (target m).utf8ByteSize ≤ Target.maxLength) :
    (octets (answerText m)).length ≤ 6 * Target.maxLength + 14 := by
  have hquoted := Json.length_octets_quoted_le m
  have hmessage := length_octets_le_target m
  have hname : (octets "\x7b\x22message\x22:").length = 11 := by decide
  have hbrace : (octets "\x7d").length = 1 := by decide
  rw [answerText, octets_append, octets_append, List.length_append, List.length_append, hname, hbrace]
  omega

/-- **The response is one that is read back**, where the limits have room for it. -/
theorem admitted_response {limits : Limits} {id : RequestId} (hlen : (target m).utf8ByteSize ≤ Target.maxLength)
    (hfits : (response id m).Fits limits) : (response id m).Admitted limits := by
  have hlines := lines_response id m
  refine ⟨.inr rfl, ?_, ?_, hfits.head, hfits.body, ?_⟩
  · rw [hlines]
    exact List.forall_mem_cons.mpr ⟨RequestId.trimBlanks_idValue id, by decide⟩
  · have hkept := List.length_filter_le (fun l => !Encoder.isFraming l.1) (response id m).fields.lines
    rw [hlines] at hkept ⊢
    exact Nat.le_trans (Nat.succ_le_succ hkept) (by decide : 3 ≤ Head.maxFields)
  · have hbody : (octets (response id m).body).length ≤ _ := length_octets_answerText_le hlen
    exact Nat.lt_of_le_of_lt hbody (by decide)

/-- All of the head but the length of the body has always the same length. -/
theorem length_responseHead_response (id : RequestId) (m : String) :
    (Encoder.responseHead (response id m)).length = 111 + (Decimal.digits (octets (answerText m)).length).length := by
  have hkept : (response id m).fields.lines.filter (fun l => !Encoder.isFraming l.1) =
      [(.requestId, RequestId.idValue id), (.contentType, .json)] := by
    rw [lines_response]
    rfl
  -- The status line, the identifier and the kind are fixed in their lengths; only the count of the body is not.
  have hstatus : (octets Version.http11.text ++ [32] ++ octets (Decimal.text Status.ok.code) ++ [32] ++
      octets (Status.ok.reason?.getD "") ++ Encoder.lineEnd).length = 17 := by decide
  have hid : (FieldName.requestId.token ++ octets ": ").length = 14 := by decide
  have hkind : (Encoder.fieldLine .contentType .json).length = 32 := by decide
  have hname : (octets "content-length: ").length = 16 := by decide
  have hend : Encoder.lineEnd.length = 2 := rfl
  have hwidth : RequestId.width = 26 := rfl
  have hfields : (Encoder.fieldLines (response id m).fields (octets (answerText m)).length).length =
      94 + (Decimal.digits (octets (answerText m)).length).length := by
    rw [Encoder.fieldLines, hkept, List.flatMap_cons, List.flatMap_cons, List.flatMap_nil, List.append_nil]
    simp only [Encoder.fieldLine, List.length_append, RequestId.length_idValue, Decimal.octets_text, List.length_map]
      at hid hkind ⊢
    omega
  show ((octets Version.http11.text ++ [32] ++ octets (Decimal.text Status.ok.code) ++ [32] ++
      octets (Status.ok.reason?.getD "") ++ Encoder.lineEnd) ++
    Encoder.fieldLines (response id m).fields (octets (answerText m)).length).length = _
  rw [List.length_append, hstatus, hfields]
  omega

/-- **The standard limits have room for the response to any message that a target can carry.** -/
theorem fits_standard (hlen : (target m).utf8ByteSize ≤ Target.maxLength) (id : RequestId) :
    (response id m).Fits .standard := by
  have hbody : (octets (response id m).body).length ≤ _ := length_octets_answerText_le hlen
  -- The largest body that a target can lead to has a count of six digits.
  have hdigits : (Decimal.digits (octets (answerText m)).length).length ≤ 6 :=
    (Nat.length_toDigits_le_iff (by decide) (by decide)).mpr (Nat.lt_of_le_of_lt hbody (by decide))
  refine ⟨?_, Nat.le_trans hbody (by decide)⟩
  rw [length_responseHead_response]
  exact Nat.le_trans (Nat.add_le_add_left hdigits 111) (by decide)

end Echo

end HttpService
