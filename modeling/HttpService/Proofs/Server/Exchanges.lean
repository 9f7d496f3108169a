import HttpService.Server.Session

/-!
# What a script makes of an exchange

A handler may change the response, write it, write it again, give a write up and come to any result. What leaves the
connection and what is reported depends on little of that: on the response as it stands at the first write, on whether
the script hears what becomes of that write, and on the result that the script comes to when all further writes are
refused.

* `Script.written?`, `Script.heard?`, `Script.result` — these three, read off the script alone.
* `Script.Awaits`, `Script.Hears` — the script waits for the end of every write that it starts, or of the first one.
* `Exchange.play_of_written` — once the response is written a script sends nothing more, and is refused every write.
* `Exchange.play_eq` — what playing a script on a fresh exchange comes to.
* `Service.serve_of_reads` — what a session makes of a request that it has read.
-/

namespace HttpService

namespace Script

variable {α : Type}

/-- The response as the script first writes it, if it starts on this one. -/
def written? : Script α → Response → Option Response
  | finish _, _ => none
  | change f next, r => next.written? (f r)
  | write _, r => some r
  | abandon _, r => some r

/-- The failure that the script hears of, if this becomes of its first write. -/
def heard? (d : Delivery) : Script α → Option Error
  | finish _ => none
  | change _ next => next.heard? d
  | write _ => d.error?
  | abandon _ => none

/-- What the script comes to when every write is refused. -/
def refused : Script α → α
  | finish a => a
  | change _ next => next.refused
  | write next => (next (.error Exchange.alreadyWritten)).refused
  | abandon next => next.refused

/-- What the script comes to when its first write ends like this and every further one is refused. -/
def result (first : Except Error Unit) : Script α → α
  | finish a => a
  | change _ next => next.result first
  | write next => (next first).refused
  | abandon next => next.refused

/-- The script waits for the end of every write that it starts. -/
def Awaits : Script α → Prop
  | finish _ => True
  | change _ next => next.Awaits
  | write next => ∀ first, (next first).Awaits
  | abandon _ => False

/-- The script waits for the end of its first write, if it starts any. -/
def Hears : Script α → Prop
  | finish _ => True
  | change _ next => next.Hears
  | write _ => True
  | abandon _ => False

/-- To wait for every write is to wait for the first. -/
theorem Awaits.hears {sc : Script α} (h : sc.Awaits) : sc.Hears := by
  induction sc with
  | finish a => trivial
  | change f next ih => exact ih h
  | write next ih => trivial
  | abandon next ih => exact h.elim

/-- Of a write that the connection took whole no failure is heard. -/
theorem heard?_whole (sc : Script α) : sc.heard? .whole = none := by
  induction sc with
  | finish a => rfl
  | change f next ih => exact ih
  | write next ih => rfl
  | abandon next ih => rfl

/-- A script that waits for its write hears of its failure. -/
theorem heard?_of_hears {sc : Script α} (h : sc.Hears) {r w : Response} (hwrites : sc.written? r = some w)
    (d : Delivery) : sc.heard? d = d.error? := by
  induction sc generalizing r with
  | finish a => cases hwrites
  | change f next ih => exact ih h hwrites
  | write next ih => rfl
  | abandon next ih => exact h.elim

/-- One that gives it up hears of nothing. -/
theorem heard?_of_not_hears {sc : Script α} (h : ¬ sc.Hears) (d : Delivery) : sc.heard? d = none := by
  induction sc with
  | finish a => exact absurd trivial h
  | change f next ih => exact ih h
  | write next ih => exact absurd trivial h
  | abandon next ih => rfl

/-- And what it comes to has nothing to do with the write. -/
theorem result_of_not_hears {sc : Script α} (h : ¬ sc.Hears) (first first' : Except Error Unit) :
    sc.result first = sc.result first' := by
  induction sc with
  | finish a => exact absurd trivial h
  | change f next ih => exact ih h
  | write next ih => exact absurd trivial h
  | abandon next ih => rfl

/-- A script that waits for all its writes hears of the failure of the first, which is the only one that is made. -/
theorem heard?_of_awaits {sc : Script α} (h : sc.Awaits) {r w : Response} (hwrites : sc.written? r = some w)
    (d : Delivery) : sc.heard? d = d.error? := heard?_of_hears h.hears hwrites d

/-- Of a write that is not made no failure is heard. -/
theorem heard?_of_not_written {sc : Script α} {r : Response} (h : sc.written? r = none) (d : Delivery) :
    sc.heard? d = none := by
  induction sc generalizing r with
  | finish a => rfl
  | change f next ih => exact ih h
  | write next ih => cases h
  | abandon next ih => cases h

/-- Where nothing is written it does not matter how writes end. -/
theorem result_of_not_written {sc : Script α} {r : Response} (h : sc.written? r = none)
    (first first' : Except Error Unit) : sc.result first = sc.result first' := by
  induction sc generalizing r with
  | finish a => rfl
  | change f next ih => exact ih h
  | write next ih => cases h
  | abandon next ih => cases h

end Script

namespace SessionEvent

variable (r : Request) (bs : Octets) (es es' : List SessionEvent)

@[simp] theorem sentOctets_exchange : sentOctets ([.received r, .sent bs] ++ es) = bs ++ sentOctets es := rfl

@[simp] theorem requests_exchange : requests ([.received r, .sent bs] ++ es) = r :: requests es := rfl

@[simp] theorem reports_exchange : reports ([.received r, .sent bs] ++ es) = reports es := rfl

/-- Reports come in the order of what they are about. -/
theorem reports_append : reports (es ++ es') = reports es ++ reports es' := List.filterMap_append

end SessionEvent

/-! ## Playing a script -/

namespace Exchange

variable {α : Type}

/-- An exchange has its request's method from the start, which decides how the response is written. -/
@[simp] theorem start_method (request : Request) (fresh : RequestId) :
    (start request fresh).method = request.method := rfl

@[simp] theorem start_response (request : Request) (fresh : RequestId) :
    (start request fresh).response = blank request (idOf request fresh) := rfl

/-- **A second write is refused and sends nothing.** Once the response is written nothing leaves any more, whatever the
script does, and it comes to the result that it has when every write is refused. -/
theorem play_of_written (sc : Script α) {x : Exchange} (hwritten : x.written = true) (out : Outgoing) :
    ∃ r, (x.play Outgoing.outlet sc).run out = ((sc.refused, { x with response := r }), out) := by
  induction sc generalizing x with
  | finish a => exact ⟨x.response, rfl⟩
  | change f next ih =>
    obtain ⟨r, hplay⟩ := ih (x := { x with response := f x.response }) hwritten
    exact ⟨r, hplay⟩
  | write next ih =>
    rw [play, if_pos hwritten]
    exact ih _ hwritten
  | abandon next ih =>
    rw [play, if_pos hwritten]
    exact ih hwritten

/-- **What a script makes of an exchange**: at most one response leaves, as far as the connection takes it, and it is
the one that stood at the first write. -/
theorem play_eq (sc : Script α) {x : Exchange} (hwritten : x.written = false) (htrouble : x.trouble = none)
    (out : Outgoing) :
    ∃ x' : Exchange,
      (x.play Outgoing.outlet sc).run out =
        ((sc.result (out.coming.headD .whole).result, x'),
          (sc.written? x.response).elim out fun w => (Outgoing.send (Encoder.response w x.method) out).2) ∧
      x'.written = (sc.written? x.response).isSome ∧
      x'.trouble = sc.heard? (out.coming.headD .whole) := by
  have hnot : ¬ x.written = true := Bool.eq_false_iff.mp hwritten
  -- Along the script up to its first write, behind which no write has an effect.
  induction sc generalizing x with
  | finish a => exact ⟨x, rfl, hwritten, htrouble⟩
  | change f next ih => exact ih (x := { x with response := f x.response }) hwritten htrouble hnot
  | write next ih =>
    rw [play, if_neg hnot]
    obtain ⟨r, hplay⟩ := play_of_written (next (out.coming.headD .whole).result)
      (x := { x with written := true, trouble := (out.coming.headD .whole).error? }) rfl
      (Outgoing.send (Encoder.response x.response x.method) out).2
    exact ⟨_, hplay, rfl, rfl⟩
  | abandon next ih =>
    rw [play, if_neg hnot]
    obtain ⟨r, hplay⟩ := play_of_written next (x := { x with written := true }) rfl
      (Outgoing.send (Encoder.response x.response x.method) out).2
    exact ⟨_, hplay, rfl, htrouble⟩

/-- The report depends on whether a write was started and on its failure only. -/
theorem report_congr {x y : Exchange} (hwritten : x.written = y.written) (htrouble : x.trouble = y.trouble)
    (result : Except Error Unit) : x.report result = y.report result := by
  unfold report
  rw [hwritten, htrouble]

end Exchange

/-! ## Answering a request -/

theorem ReadResult.eq_of_how {H : Type} {p : ReadResult H} {how : Ended H} (h : p.how = how) :
    p = ⟨how, p.buffer, p.reads⟩ := by
  rw [← h]

/-- The first session of a server, with a peer on the same machine. -/
def Session.loopback : Session := ⟨.first, ⟨.four 127 0 0 1, 49152, 0⟩⟩

namespace Service

/-- The script that is played for a request. -/
def scriptFor (s : Service) (session : Session) (fresh : RequestId) (request : Request) :
    Script (Except Error Unit) :=
  s.script session (Exchange.idOf request fresh) request

/-- The response that is written to a request. -/
def written? (s : Service) (session : Session) (fresh : RequestId) (request : Request) : Option Response :=
  (s.scriptFor session fresh request).written? (Exchange.blank request (Exchange.idOf request fresh))

/-- The octets that leave in answer to a request, if this becomes of the write. -/
def leaving (s : Service) (session : Session) (fresh : RequestId) (request : Request) (d : Delivery) : Octets :=
  (s.written? session fresh request).elim [] fun w => d.taken (Encoder.response w request.method)

/-- The writes that are still to come when a request has been answered. -/
def comingAfter (s : Service) (session : Session) (fresh : RequestId) (request : Request) (coming : List Delivery) :
    List Delivery :=
  (s.written? session fresh request).elim coming fun _ => coming.tail

/-- What is reported of a request, if this becomes of the write. -/
def told? (s : Service) (session : Session) (fresh : RequestId) (request : Request) (d : Delivery) : Option Report :=
  { Exchange.start request fresh with
    written := (s.written? session fresh request).isSome
    trouble := (s.scriptFor session fresh request).heard? d }.report
      ((s.scriptFor session fresh request).result d.result)

variable {s : Service} {session : Session}

/-- What holds of the handlers and of the answer to a request without one holds of the script for every request. -/
theorem scriptFor_of_handlers {P : Script (Except Error Unit) → Prop}
    (hrouted : ∀ v found, s.router.lookup v.request.method v.request.target.path = some found → P (found.handler v))
    (hunrouted : ∀ m path, P (unrouted s.router m path)) (session : Session) (fresh : RequestId) (request : Request) :
    P (s.scriptFor session fresh request) := by
  unfold scriptFor script
  split
  next found hfound => exact hrouted ⟨session.id, session.peer, _, request, found.wildcards⟩ found hfound
  next => exact hunrouted _ _

/-- The failure of a write is reported before anything that the handler says. -/
theorem told?_of_heard {fresh : RequestId} {request : Request} {d : Delivery} {e : Error}
    (h : (s.scriptFor session fresh request).heard? d = some e) :
    s.told? session fresh request d = some ⟨.writing, e⟩ := by
  simp only [told?, Exchange.report, h]

/-- With no such failure, the handler's own error is reported, and at last a response that was not written. -/
theorem told?_of_not_heard {fresh : RequestId} {request : Request} {d : Delivery}
    (h : (s.scriptFor session fresh request).heard? d = none) :
    s.told? session fresh request d =
      match (s.scriptFor session fresh request).result d.result with
      | .error e => some ⟨.handling, e⟩
      | .ok _ => if (s.written? session fresh request).isSome then none else some ⟨.handling, .responseNotWritten⟩ := by
  simp only [told?, Exchange.report, h]
  cases (s.scriptFor session fresh request).result d.result with
  | error e => simp only
  | ok u => simp only

/-- A response that was written by a handler that came to success leaves nothing to report. -/
theorem told?_of_done {fresh : RequestId} {request : Request} {d : Delivery} {w : Response}
    (hheard : (s.scriptFor session fresh request).heard? d = none)
    (hwrites : s.written? session fresh request = some w)
    (hresult : (s.scriptFor session fresh request).result d.result = .ok ()) :
    s.told? session fresh request d = none := by
  rw [told?_of_not_heard hheard, hresult, hwrites]
  rfl

/-- A request of which nothing is reported has a response. -/
theorem exists_written_of_not_told {fresh : RequestId} {request : Request} {d : Delivery}
    (h : s.told? session fresh request d = none) : ∃ w, s.written? session fresh request = some w := by
  cases hwrites : s.written? session fresh request with
  | some w => exact ⟨w, rfl⟩
  | none =>
    rw [told?_of_not_heard (Script.heard?_of_not_written hwrites d), hwrites] at h
    cases hresult : (s.scriptFor session fresh request).result d.result with
    | error e =>
      rw [hresult] at h
      cases h
    | ok u =>
      rw [hresult] at h
      cases h

/-- What leaves is what the connection took of the response. -/
theorem leaving_of_written {fresh : RequestId} {request : Request} {w : Response}
    (h : s.written? session fresh request = some w) (d : Delivery) :
    s.leaving session fresh request d = d.taken (Encoder.response w request.method) := by
  rw [leaving, h, Option.elim_some]

/-- A handler that does not write sends nothing. -/
theorem leaving_of_not_written {fresh : RequestId} {request : Request}
    (h : s.written? session fresh request = none) (d : Delivery) : s.leaving session fresh request d = [] := by
  rw [leaving, h, Option.elim_none]

/-- An answer is a script played and then reported of. -/
theorem answer_run (s : Service) (session : Session) (fresh : RequestId) (request : Request) (out : Outgoing) :
    (s.answer Outgoing.outlet session fresh request).run out =
      (fun p : (Except Error Unit × Exchange) × Outgoing => ((p.1.2, p.1.2.report p.1.1), p.2))
        (((Exchange.start request fresh).play Outgoing.outlet (s.scriptFor session fresh request)).run out) := by
  unfold answer scriptFor
  rfl

/-- An exchange as a whole: what leaves, what is reported and which writes are left are all read off the script. -/
theorem answer_eq (s : Service) (session : Session) (fresh : RequestId) (request : Request) (coming : List Delivery) :
    ∃ x : Exchange, (s.answer Outgoing.outlet session fresh request).run ⟨coming, []⟩ =
      ((x, s.told? session fresh request (coming.headD .whole)),
        ⟨s.comingAfter session fresh request coming,
          s.leaving session fresh request (coming.headD .whole)⟩) := by
  obtain ⟨x, hplay, hwritten, htrouble⟩ := Exchange.play_eq (s.scriptFor session fresh request)
    (x := Exchange.start request fresh) rfl rfl ⟨coming, []⟩
  rw [Exchange.start_response, ← written?] at hplay hwritten
  rw [Exchange.start_method] at hplay
  -- The report depends on the script alone, once it is known what was written and heard.
  have htold : x.report ((s.scriptFor session fresh request).result (coming.headD .whole).result) =
      s.told? session fresh request (coming.headD .whole) := by
    unfold told?
    apply Exchange.report_congr
    · rw [hwritten]
    · rw [htrouble]
  -- A script that does not write leaves the connection as it was.
  have hout : (s.written? session fresh request).elim ⟨coming, []⟩
      (fun w => (Outgoing.send (Encoder.response w request.method) ⟨coming, []⟩).2) =
      ⟨s.comingAfter session fresh request coming, s.leaving session fresh request (coming.headD .whole)⟩ := by
    unfold comingAfter leaving
    cases s.written? session fresh request with
    | none => rfl
    | some w => rfl
  refine ⟨x, ?_⟩
  rw [answer_run, hplay, ← htold, ← hout]

/-- **What a session makes of a request that it has read**: the response leaves, as far as the connection takes it, and
then the session ends with a report, ends because the request asks for that, or reads on. -/
theorem serve_of_reads {fresh : Nat → RequestId} {buffer left : Octets} {reads later : List Read} {head : RequestHead}
    {body : String} (hread : Reader.read .request s.limits buffer reads = ⟨.message head body, left, later⟩)
    (coming : List Delivery) :
    s.serve session fresh buffer reads coming =
      [.received (head.withBody body),
          .sent (s.leaving session (fresh 0) (head.withBody body) (coming.headD .whole))] ++
        match s.told? session (fresh 0) (head.withBody body) (coming.headD .whole) with
        | some r => [.reported r]
        | none =>
          if wantsClose head.version head.fields then []
          else s.serve session (fun n => fresh (n + 1)) left later
            (s.comingAfter session (fresh 0) (head.withBody body) coming) := by
  -- The answer is read off the script, and behind it only the request and the report decide.
  obtain ⟨x, hanswer⟩ := answer_eq s session (fresh 0) (head.withBody body) coming
  rw [serve]
  split
  next e => rw [hread] at e; cases (ReadResult.mk.inj e).1
  next e => rw [hread] at e; cases (ReadResult.mk.inj e).1
  next e =>
    rw [hread] at e
    obtain ⟨hhow, rfl, rfl⟩ := ReadResult.mk.inj e
    obtain ⟨rfl, rfl⟩ := Ended.message.inj hhow
    simp only [hanswer]
    cases s.told? session (fresh 0) (head.withBody body) (coming.headD .whole) with
    | some r => simp only
    | none =>
      show (if wantsClose head.version head.fields then _ else _) = _
      split
      · rfl
      · rfl

/-- A read that fails is the end, reported or not. -/
theorem serve_of_failed {fresh : Nat → RequestId} {buffer : Octets} {reads : List Read} {e : Error}
    (hread : (Reader.read .request s.limits buffer reads).how = .failed e) (coming : List Delivery) :
    s.serve session fresh buffer reads coming = [afterFailedRead e] := by
  rw [serve]
  split
  next e' _ _ hresult =>
    rw [hresult] at hread
    rw [Ended.failed.inj hread]
  next hresult => rw [hresult] at hread; cases hread
  next hresult => rw [hresult] at hread; cases hread

/-- A read that breaks off takes the session with it. -/
theorem serve_of_overflowed {fresh : Nat → RequestId} {buffer : Octets} {reads : List Read}
    (hread : (Reader.read .request s.limits buffer reads).how = .overflowed) (coming : List Delivery) :
    s.serve session fresh buffer reads coming = [.brokeOff] := by
  rw [serve]
  split
  next hresult => rw [hresult] at hread; cases hread
  next => rfl
  next hresult => rw [hresult] at hread; cases hread

end Service

end HttpService
