import HttpService.Proofs.Server.Exchanges
import HttpService.Server.Round

/-!
# A session has the course that its rounds have

Served round by round, in surroundings of which it is known what they will bring, a connection takes the course that
`Service.serve` describes, whatever the exchange was that the session began with.

* `Exchange.run_play` — a script is played on foreseen surroundings as on the writes alone.
* `Service.run_round_of_reads`, `Service.run_round_of_failed`, `Service.run_round_of_overflowed` — what one round does.
* `Service.events_serveIn` — the events of all rounds are those of `Service.serve`.
-/

namespace HttpService

open Foreseen

/-- A script touches nothing of its surroundings but the writes. -/
theorem Exchange.run_play {α : Type} (script : Script α) (x : Exchange) (f : Foreseen) :
    (x.play Foreseen.outlet script).run f =
      (((x.play Outgoing.outlet script).run f.out).1,
        { f with out := ((x.play Outgoing.outlet script).run f.out).2 }) := by
  -- On the script: only a first write and one that is given up touch the writes, and each of them just these.
  induction script generalizing x f with
  | finish a => rfl
  | change g next ih => exact ih _ f
  | write next ih =>
    unfold Exchange.play
    split
    · exact ih _ x f
    · exact ih _ _ (Foreseen.outlet.send x.octets f).2
  | abandon next ih =>
    unfold Exchange.play
    split
    · exact ih x f
    · exact ih _ (Foreseen.outlet.start x.octets f).2

/-- What follows an action goes on with what the action has come to. -/
theorem run_bind_of_run {σ α β : Type} {act : StateM σ α} {next : α → StateM σ β} {a : α} {before after : σ}
    (h : act.run before = (a, after)) : (act >>= next).run before = (next a).run after := by
  rw [StateT.run_bind, h]
  rfl

/-- Of the reads to come the request is read that `Reader.read` reads. -/
theorem Foreseen.run_receive (limits : Limits) (buffer : Octets) (f : Foreseen) {r : ReadResult RequestHead}
    (hread : Reader.read .request limits buffer f.reads = r) :
    ((surroundings limits).receive buffer).run f = ((r.how, r.buffer), { f with reads := r.reads }) := by
  show (fun p : (Ended RequestHead × Octets) × List Read => (p.1, { f with reads := p.2 }))
    ((Reader.readFrom .request limits Reader.nextRead buffer).run f.reads) = _
  rw [Reader.run_readFrom, hread]

namespace Service

variable {s : Service} {session : Session} {x : Exchange} {buffer left : Octets} {reads later : List Read}
  {fresh : Nat → RequestId} {events : List SessionEvent}

/-- A request is answered on foreseen surroundings as on the writes alone. -/
theorem run_answerIn (request : Request) (f : Foreseen) :
    (s.answerIn (surroundings s.limits).outlet session x request).run f =
      (((s.answerIn Outgoing.outlet session x request).run f.out).1,
        { f with out := ((s.answerIn Outgoing.outlet session x request).run f.out).2 }) := by
  have hplay := Exchange.run_play (s.script session x.requestId request) x f
  generalize hsent : (x.play Outgoing.outlet (s.script session x.requestId request)).run f.out = played at hplay
  obtain ⟨played, out⟩ := played
  have hanswered : (s.answerIn Outgoing.outlet session x request).run f.out =
      ((played.2, played.2.report played.1), out) := run_bind_of_run hsent
  rw [hanswered]
  exact run_bind_of_run hplay

/-! ## One round -/

variable (session x fresh events)

/-- Where no request can be read the session says why and ends. -/
theorem run_round_of_failed {e : Error} (coming : List Delivery)
    (hread : Reader.read .request s.limits buffer reads = ⟨.failed e, left, later⟩) :
    (s.round session (surroundings s.limits) x buffer).run ⟨reads, ⟨coming, []⟩, fresh, events⟩ =
      (.inr (), ⟨later, ⟨coming, []⟩, fresh, events ++ [afterFailedRead e]⟩) := by
  have hreceive := Foreseen.run_receive s.limits buffer ⟨reads, ⟨coming, []⟩, fresh, events⟩ hread
  exact (run_bind_of_run hreceive).trans rfl

/-- A reader that breaks off takes the session with it. -/
theorem run_round_of_overflowed (coming : List Delivery)
    (hread : Reader.read .request s.limits buffer reads = ⟨.overflowed, left, later⟩) :
    (s.round session (surroundings s.limits) x buffer).run ⟨reads, ⟨coming, []⟩, fresh, events⟩ =
      (.inr (), ⟨later, ⟨coming, []⟩, fresh, events ++ [.brokeOff]⟩) := by
  have hreceive := Foreseen.run_receive s.limits buffer ⟨reads, ⟨coming, []⟩, fresh, events⟩ hread
  exact (run_bind_of_run hreceive).trans rfl

/-- A request that was read is answered, and unless that ends the session another round begins behind it. -/
theorem run_round_of_reads {head : RequestHead} {body : String} (coming : List Delivery)
    (hread : Reader.read .request s.limits buffer reads = ⟨.message head body, left, later⟩) :
    let request := head.withBody body
    let told := s.told? session (fresh 0) request (coming.headD .whole)
    ∃ x', (s.round session (surroundings s.limits) x buffer).run ⟨reads, ⟨coming, []⟩, fresh, events⟩ =
      (if told.isSome || wantsClose head.version head.fields then .inr () else .inl (x', left),
        ⟨later, ⟨s.comingAfter session (fresh 0) request coming, []⟩, fun n => fresh (n + 1),
          events ++ (Round.answered request told).events
            (s.leaving session (fresh 0) request (coming.headD .whole))⟩) := by
  intro request told
  let f : Foreseen := ⟨later, ⟨coming, []⟩, fun n => fresh (n + 1), events⟩
  have hreceive := Foreseen.run_receive s.limits buffer ⟨reads, ⟨coming, []⟩, fresh, events⟩ hread
  obtain ⟨x', hanswer⟩ := answer_eq s session (fresh 0) request coming
  -- The exchange before is overwritten, so the answer is that of a fresh one.
  have hanswerIn : (s.answerIn (surroundings s.limits).outlet session (x.renew request (fresh 0)) request).run f =
      ((x', told), { f with out := ⟨s.comingAfter session (fresh 0) request coming,
        s.leaving session (fresh 0) request (coming.headD .whole)⟩ }) := by
    rw [Exchange.renew_eq_start, run_answerIn]
    rw [answer] at hanswer
    rw [hanswer]
  -- Reading, taking an identifier and answering follow each other, and each is known now.
  refine ⟨x', ?_⟩
  refine (run_bind_of_run hreceive).trans ?_
  refine (run_bind_of_run (show (surroundings s.limits).fresh.run _ = (fresh 0, f) from rfl)).trans ?_
  clear_value told
  generalize s.comingAfter session (fresh 0) request coming = more at hanswerIn ⊢
  generalize s.leaving session (fresh 0) request (coming.headD .whole) = sent at hanswerIn ⊢
  exact (run_bind_of_run hanswerIn).trans rfl

/-! ## All rounds -/

/-- The rounds of a session: the first one, and the others if there are any. -/
theorem run_serveIn (f : Foreseen) :
    (s.serveIn session (surroundings s.limits) x buffer).run f =
      match (s.round session (surroundings s.limits) x buffer).run f with
      | (.inl (x', left), f') => (s.serveIn session (surroundings s.limits) x' left).run f'
      | (.inr (), f') => ((), f') := by
  rw [serveIn, repeatM_eq_of_monadTail]
  rw [repeatM.body, StateT.run_bind]
  generalize (s.round session (surroundings s.limits) x buffer).run f = outcome
  obtain ⟨next, f'⟩ := outcome
  cases next with
  | inl next => rfl
  | inr _ => rfl

/-- **A session has the course that its rounds have**, whatever the exchange was that it began with. -/
theorem events_serveIn (s : Service) (session : Session) (x : Exchange) (fresh : Nat → RequestId) (buffer : Octets)
    (reads : List Read) (coming : List Delivery) (events : List SessionEvent) :
    ((s.serveIn session (surroundings s.limits) x buffer).run ⟨reads, ⟨coming, []⟩, fresh, events⟩).2.events =
      events ++ s.serve session fresh buffer reads coming := by
  -- On the octets that are still to be read, of which every request takes some.
  induction hn : Reader.available buffer reads using Nat.strongRecOn
    generalizing x fresh buffer reads coming events with
  | ind n ih =>
    have hless := @Reader.available_lt _ Form.request Head.shortens_requestHead s.limits buffer reads
    rw [run_serveIn]
    generalize hread : Reader.read .request s.limits buffer reads = result at hless
    obtain ⟨how, left, later⟩ := result
    cases how with
    | failed e =>
      rw [run_round_of_failed session x fresh events coming hread, serve_of_failed (congrArg ReadResult.how hread)]
    | overflowed =>
      rw [run_round_of_overflowed session x fresh events coming hread,
        serve_of_overflowed (congrArg ReadResult.how hread)]
    | message head body =>
      obtain ⟨x', hround⟩ := run_round_of_reads session x fresh events coming hread
      rw [hround, serve_of_reads hread]
      cases htold : s.told? session (fresh 0) (head.withBody body) (coming.headD .whole) with
      | some r => rfl
      | none =>
        by_cases hclose : wantsClose head.version head.fields
        · simp [hclose, Round.events]
        · have hrest := ih _ (hn ▸ hless rfl) x' (fun n => fresh (n + 1)) left later
            (s.comingAfter session (fresh 0) (head.withBody body) coming)
            (events ++ [.received (head.withBody body),
              .sent (s.leaving session (fresh 0) (head.withBody body) (coming.headD .whole))]) rfl
          simp only [hclose, Option.isSome_none, Bool.false_eq_true, if_false, Bool.or_false, List.append_assoc,
            Round.events, Option.map_none, Option.toList_none, List.append_nil] at hrest ⊢
          exact hrest

end Service

end HttpService
