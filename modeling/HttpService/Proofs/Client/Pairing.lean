import HttpService.Proofs.Client.Phases
import HttpService.Proofs.Wire.Spelled

/-!
# Which response answers which request

A peer answers every request with a final response, and may send interim ones before it. A submission takes the first
response that comes. So every request gets the final response that is its own exactly if there are no interim ones:
otherwise the first of them is told, and the final response is left for the request after it.

* `WireExchange` — a request and what the peer sends for it.
* `ClientSession.Serves` — the connection brings what is sent for some requests, in any pieces.
* `ClientSession.submit_of_serves` — a submission is told of the first response, and leaves the rest.
* `ClientSession.submitAll_eq_finals_iff` — the same of all of them.
-/

namespace HttpService

/-- A response to a request of this method as a peer sends it. It shows its own end. -/
structure WireResponse (limits : Limits) (m : Method) where
  bytes : Octets
  head : ResponseHead
  text : String
  spells : (Form.response m).Spells limits bytes head text
  ends : ¬ (Form.response m).LastsToEnd limits bytes

/-- Octets that come to the end of a response by themselves. -/
def WireResponse.ofEnded {limits : Limits} {m : Method} (bytes : Octets) (head : ResponseHead) (text : String)
    (h : Decoder.advance (Form.response m) limits ⟨.head, bytes⟩ = .ended (.message head text) []) :
    WireResponse limits m :=
  ⟨bytes, head, text, Reader.read_nil_of_ended h, by rw [← Decoder.atOpen_advance_iff, h]; exact id⟩

/-- The response that the octets spell. -/
def WireResponse.response {limits : Limits} {m : Method} (w : WireResponse limits m) : Response :=
  w.head.withBody w.text

/-- A request and what a peer sends for it on a connection that it keeps: interim responses, and then the final one. -/
structure WireExchange (limits : Limits) where
  request : Request
  interims : List (WireResponse limits request.method)
  final : WireResponse limits request.method
  interim : ∀ w ∈ interims, w.head.status.isInterim
  not_interim : ¬ final.head.status.isInterim
  keepsAlive : ¬ wantsClose final.response.version final.response.fields

namespace WireExchange

variable {limits : Limits}

/-- All that is sent for the request. -/
def bytes (x : WireExchange limits) : Octets := x.interims.flatMap WireResponse.bytes ++ x.final.bytes

/-- The response that is sent first. -/
def first (x : WireExchange limits) : WireResponse limits x.request.method := x.interims.headD x.final

/-- What is sent behind the first response. -/
def behindFirst (x : WireExchange limits) : Octets :=
  match x.interims with
  | [] => []
  | _ :: ws => ws.flatMap WireResponse.bytes ++ x.final.bytes

/-- What is sent for a request is its first response and the others behind it. -/
theorem bytes_eq (x : WireExchange limits) : x.bytes = x.first.bytes ++ x.behindFirst := by
  unfold bytes first behindFirst
  cases x.interims with
  | nil => exact (List.append_nil _).symm
  | cons w ws => rw [List.flatMap_cons, List.append_assoc, List.headD_cons]

theorem first_of_eq_nil {x : WireExchange limits} (h : x.interims = []) : x.first = x.final := by
  rw [first, h, List.headD_nil]

theorem behindFirst_of_eq_nil {x : WireExchange limits} (h : x.interims = []) : x.behindFirst = [] := by
  rw [behindFirst, h]

/-- With interim responses one of them comes first. -/
theorem isInterim_first {x : WireExchange limits} (h : x.interims ≠ []) : x.first.head.status.isInterim := by
  obtain ⟨w, ws, hcons⟩ := List.exists_cons_of_ne_nil h
  rw [first, hcons, List.headD_cons]
  exact x.interim w (by rw [hcons]; exact List.mem_cons_self)

/-- An interim response is told as a failure, and with a status that no final one has. -/
theorem judged_first_ne {x : WireExchange limits} (h : x.interims ≠ []) :
    ClientSession.judged x.first.response ≠ ClientSession.judged x.final.response := by
  have hinterim : x.first.head.status.code < 200 := of_decide_eq_true (isInterim_first h)
  have hfinal : ¬ x.final.head.status.code < 200 := fun hlt => x.not_interim (decide_eq_true hlt)
  -- An interim status is no success, so it is told as an error that names it.
  have hfailed : ClientSession.judged x.first.response = .error (.status x.first.head.status x.first.text) := by
    refine if_neg fun hsuccess => ?_
    rw [Status.isSuccess, Bool.and_eq_true, decide_eq_true_eq] at hsuccess
    exact absurd hsuccess.1 (Nat.not_le.mpr hinterim)
  rw [hfailed]
  unfold ClientSession.judged
  split
  · exact fun hsame => by cases hsame
  · intro hsame
    have hstatus := (Error.status.inj (Except.error.inj hsame)).1
    rw [hstatus] at hinterim
    exact hfinal hinterim

end WireExchange

namespace ClientSession

/-- What the callers of submissions one after the other are told. -/
def submitAll (limits : Limits) : ClientSession Link → List Request → List (Returned Response)
  | _, [] => []
  | s, r :: rs => (s.submit limits r .endless).2.2 :: submitAll limits (s.submit limits r .endless).1 rs

/-- The session is ready, and its connection takes every request and brings what is sent for these, in any pieces and
with anything behind it. -/
structure Serves (limits : Limits) (s : ClientSession Link) (exchanges : List (WireExchange limits)) : Prop where
  ready : s.phase = .ready
  brings : ∃ (link : Link) (pieces : List Octets) (behind : Octets) (after : List Read), s.stream = some link ∧
    (∀ d ∈ link.out.coming, d = .whole) ∧ (∀ c ∈ pieces, c ≠ []) ∧ link.reads = pieces.map .data ++ after ∧
    s.buffer ++ pieces.flatten = exchanges.flatMap WireExchange.bytes ++ behind

variable {limits : Limits} {s : ClientSession Link} {x : WireExchange limits} {xs : List (WireExchange limits)}

/-- **A submission is told of the first response.** If that is the final one, the session goes on with the others. -/
theorem submit_of_serves (h : s.Serves limits (x :: xs)) :
    (s.submit limits x.request .endless).2.2 = some (judged x.first.response) ∧
      (x.interims = [] → (s.submit limits x.request .endless).1.Serves limits xs) := by
  obtain ⟨hready, link, pieces, behind, after, hlink, hsends, hne, hreads, hbytes⟩ := h
  -- All octets but those of the first response are behind it.
  rw [List.flatMap_cons, x.bytes_eq, List.append_assoc, List.append_assoc] at hbytes
  obtain ⟨left, pieces', hread, hne', hleft⟩ :=
    Reader.read_of_spells Head.complete_responseHead x.first.spells x.first.ends hne hbytes after
  rw [← hreads] at hread
  obtain ⟨out, hout, hsubmit⟩ := submit_of_read hready hlink hsends hread
  rw [hsubmit]
  refine ⟨rfl, fun hnone => ?_⟩
  have hkeeps : ¬ wantsClose x.first.response.version x.first.response.fields := by
    rw [WireExchange.first_of_eq_nil hnone]
    exact x.keepsAlive
  rw [WireExchange.behindFirst_of_eq_nil hnone, List.nil_append] at hleft
  show (s.answered x.first.response _ left).Serves limits xs
  rw [answered, if_neg hkeeps]
  exact ⟨rfl, ⟨pieces'.map .data ++ after, out⟩, pieces', behind, after, rfl, hout, hne', rfl, hleft⟩

/-- Callers are told of the final responses exactly where no interim ones are sent. The first request with one goes
wrong, by induction on the requests before it. -/
theorem submitAll_eq_iff (h : s.Serves limits xs) :
    submitAll limits s (xs.map (·.request)) = xs.map (fun x => some (judged x.final.response)) ↔
      ∀ x ∈ xs, x.interims = [] := by
  induction xs generalizing s with
  | nil => exact iff_of_true rfl fun x hx => absurd hx List.not_mem_nil
  | cons x xs ih =>
    obtain ⟨htold, hserves⟩ := submit_of_serves h
    rw [List.map_cons, List.map_cons, submitAll, htold, List.cons.injEq, List.forall_mem_cons]
    by_cases hnone : x.interims = []
    · rw [WireExchange.first_of_eq_nil hnone, ih (hserves hnone)]
      exact and_congr (iff_of_true rfl hnone) Iff.rfl
    · -- The caller is told of an interim response, and none of those is final.
      refine iff_of_false (fun hsame => ?_) fun hall => hnone hall.1
      exact WireExchange.judged_first_ne hnone (Option.some.inj hsame.1)

/-- Up to the first request with interim responses every request gets its own, and that one gets an interim one. -/
theorem getElem?_submitAll {before after : List (WireExchange limits)} (h : s.Serves limits (before ++ x :: after))
    (hnone : ∀ y ∈ before, y.interims = []) :
    (submitAll limits s ((before ++ x :: after).map (·.request)))[before.length]? =
      some (some (judged x.first.response)) := by
  induction before generalizing s with
  | nil =>
    rw [List.nil_append, List.map_cons, submitAll, (submit_of_serves h).1]
    rfl
  | cons y before ih =>
    obtain ⟨hfirst, hothers⟩ := List.forall_mem_cons.mp hnone
    rw [List.cons_append, List.map_cons, submitAll, List.length_cons, List.getElem?_cons_succ]
    exact ih ((submit_of_serves h).2 hfirst) hothers

/-- **Every submission gets the final response to its own request exactly if there are no interim ones.** Of several
requests on one connection, on which the peer answers each in its turn, the first that is sent interim responses gets
the first of those instead. -/
theorem submitAll_eq_finals_iff {exchanges : List (WireExchange limits)} (h : s.Serves limits exchanges) :
    (submitAll limits s (exchanges.map (·.request)) = exchanges.map (fun x => some (judged x.final.response)) ↔
        ∀ x ∈ exchanges, x.interims = []) ∧
      ∀ before x after, exchanges = before ++ x :: after → (∀ y ∈ before, y.interims = []) →
        (submitAll limits s (exchanges.map (·.request)))[before.length]? = some (some (judged x.first.response)) := by
  refine ⟨submitAll_eq_iff h, ?_⟩
  rintro before x after rfl hnone
  exact getElem?_submitAll h hnone

/-- A request for the root that is answered with status 200. -/
def found : WireExchange .standard where
  request := ClientCall.rootRequest
  interims := []
  final := .ofEnded (octets "HTTP/1.1 200 OK\r\nContent-Length: 1\r\n\r\na")
    ⟨.ok, .http11, .ofLines [(.contentLength, ⟨octets "1", by decide⟩)]⟩ "a" rfl
  interim := by simp
  not_interim := by decide
  keepsAlive := by decide

/-- One that is answered with status 404. -/
def missing : WireExchange .standard where
  request := ClientCall.rootRequest
  interims := []
  final := .ofEnded (octets "HTTP/1.1 404 Not Found\r\nContent-Length: 0\r\n\r\n")
    ⟨.notFound, .http11, .ofLines [(.contentLength, ⟨octets "0", by decide⟩)]⟩ "" rfl
  interim := by simp
  not_interim := by decide
  keepsAlive := by decide

/-- One that is answered with status 200 as well, but is told to go on before. -/
def foundLater : WireExchange .standard where
  request := ClientCall.rootRequest
  interims := [.ofEnded (octets "HTTP/1.1 100 Continue\r\n\r\n") ⟨⟨100, by decide⟩, .http11, .empty⟩ "" rfl]
  final := found.final
  interim := by decide
  not_interim := by decide
  keepsAlive := by decide

/-- A session on a connection that brings these pieces. -/
def bringing (pieces : List Octets) : ClientSession Link :=
  (ClientCall.connecting (pieces.map .data)).perform .standard .new

/-- A session on a connection that brings what is sent for some requests serves them, in any pieces. -/
theorem serves_bringing {pieces : List Octets} (hne : ∀ c ∈ pieces, c ≠ [])
    {exchanges : List (WireExchange .standard)} (hbytes : pieces.flatten = exchanges.flatMap WireExchange.bytes) :
    (bringing pieces).Serves .standard exchanges := by
  refine ⟨rfl, ⟨pieces.map .data, ⟨[], []⟩⟩, pieces, [], [], rfl, ?_, hne, (List.append_nil _).symm, ?_⟩
  · exact fun d hd => absurd hd List.not_mem_nil
  · rw [List.append_nil]
    exact hbytes

/-- Two requests, answered in three pieces that part both of the responses. -/
theorem submitAll_eq_finals_iff_found_missing :
    let s := bringing [found.bytes.take 10, found.bytes.drop 10 ++ missing.bytes.take 3, missing.bytes.drop 3]
    s.Serves .standard [found, missing] ∧
      submitAll .standard s [ClientCall.rootRequest, ClientCall.rootRequest] =
        [some (judged found.final.response), some (judged missing.final.response)] := by
  intro s
  have hs : s.Serves .standard [found, missing] := serves_bringing (by decide) (by decide)
  refine ⟨hs, (submitAll_eq_finals_iff hs).1.mpr ?_⟩
  simp [found, missing]

/-- The first request gets an interim response, and the second one gets the final response to the first. -/
theorem interim_told_as_final :
    let s := bringing [foundLater.bytes, missing.bytes]
    s.Serves .standard [foundLater, missing] ∧
      submitAll .standard s [ClientCall.rootRequest, ClientCall.rootRequest] =
        [some (.error (.status ⟨100, by decide⟩ "")), some (judged foundLater.final.response)] ∧
      submitAll .standard s [ClientCall.rootRequest, ClientCall.rootRequest] ≠
        [some (judged foundLater.final.response), some (judged missing.final.response)] := by
  intro s
  have htold : submitAll .standard s [ClientCall.rootRequest, ClientCall.rootRequest] =
      [some (.error (.status ⟨100, by decide⟩ "")), some (judged foundLater.final.response)] := rfl
  refine ⟨serves_bringing (by decide) (by decide), htold, ?_⟩
  rw [htold]
  intro hsame
  cases (List.cons.inj hsame).1

end ClientSession

end HttpService
