import HttpService.Proofs.Wire.Fragments

/-!
# Reading from pieces

The same octets may reach a connection in any pieces. What is read is compared by how it ends and by what is left
for the next message, in the buffer and on the stream together (`ReadResult.remaining`).

* `Reader.readOn_pieces` — reading on with pieces ends as reading on with everything at once does, unless the body
  lasts to the end of the stream: such a body is measured at each arrival.
* `Form.Oversized` — where the reader breaks off: at a chunk whose end does not fit a count, let through by a limit
  of almost as much (`countBound_le_of_oversized`).
* `Reader.read_pieces` — two ways of cutting the same octets give the same message and leave the same octets, or fail
  with errors of one kind, exactly where the reader does not break off.
-/

namespace HttpService

variable {H : Type}

/-- The octets that a read brings. -/
def Read.octets : Read → Octets
  | .data arrived => arrived
  | .failed _ | .late => []

namespace ReadResult

/-- The octets left for the next message: those in the buffer and those still to be read. -/
def remaining (r : ReadResult H) : Octets := r.buffer ++ r.reads.flatMap Read.octets

/-- Both give the same message and leave the same octets, or both fail with errors of one kind. -/
def SameOutcome (r r' : ReadResult H) : Prop :=
  (∃ head body, r.how = .message head body ∧ r'.how = .message head body ∧ r.remaining = r'.remaining) ∨
    ∃ e e', r.how = .failed e ∧ r'.how = .failed e' ∧ e.kindName = e'.kindName

/-- Both end in the same way and leave the same octets, or both fail with errors of one kind. -/
def Agrees (r r' : ReadResult H) : Prop :=
  (r.how = r'.how ∧ r.remaining = r'.remaining) ∨
    ∃ e e', r.how = .failed e ∧ r'.how = .failed e' ∧ e.kindName = e'.kindName

theorem Agrees.symm {r r' : ReadResult H} (h : r.Agrees r') : r'.Agrees r := by
  rcases h with ⟨hhow, hleft⟩ | ⟨e, e', hr, hr', hkind⟩
  · exact .inl ⟨hhow.symm, hleft.symm⟩
  · exact .inr ⟨e', e, hr', hr, hkind.symm⟩

theorem Agrees.trans {r r' r'' : ReadResult H} (h : r.Agrees r') (h' : r'.Agrees r'') : r.Agrees r'' := by
  rcases h with ⟨hhow, hleft⟩ | ⟨e, e', hr, hr', hkind⟩
  · rcases h' with ⟨hhow', hleft'⟩ | ⟨f, f', hf, hf', hkind'⟩
    · exact .inl ⟨hhow.trans hhow', hleft.trans hleft'⟩
    · exact .inr ⟨f, f', hhow.trans hf, hf', hkind'⟩
  · rcases h' with ⟨hhow', hleft'⟩ | ⟨f, f', hf, hf', hkind'⟩
    · exact .inr ⟨e, e', hr, hhow'.symm.trans hr', hkind⟩
    · obtain rfl : e' = f := Ended.failed.inj (hr'.symm.trans hf)
      exact .inr ⟨e, f', hr, hf', hkind.trans hkind'⟩

/-- Only breaking off is neither a message nor a failure. -/
theorem Agrees.sameOutcome {r r' : ReadResult H} (h : r.Agrees r') (hover : r'.how ≠ .overflowed) :
    r.SameOutcome r' := by
  rcases h with ⟨hhow, hleft⟩ | hfailed
  · cases hr : r'.how with
    | message head body => exact .inl ⟨head, body, hhow.trans hr, hr, hleft⟩
    | failed e => exact .inr ⟨e, e, hhow.trans hr, hr, rfl⟩
    | overflowed => exact absurd hr hover
  · exact .inr hfailed

/-- Agreement leaves out nothing about an oversized chunk: both readings meet it. -/
theorem Agrees.overflowed {r r' : ReadResult H} (h : r.Agrees r') (hover : r'.how = .overflowed) :
    r.how = .overflowed := by
  rcases h with ⟨hhow, -⟩ | ⟨e, e', -, hr', -⟩
  · exact hhow.trans hover
  · rw [hr'] at hover
    cases hover

/-- A reading that stops at an oversized chunk has no outcome to share. -/
theorem not_sameOutcome_of_overflowed {r r' : ReadResult H} (h : r.how = .overflowed) : ¬ r.SameOutcome r' := by
  rintro (⟨head, body, hr, -⟩ | ⟨e, e', hr, -⟩)
  · rw [h] at hr
    cases hr
  · rw [h] at hr
    cases hr

end ReadResult

/-! ## Where a step may lead -/

namespace Progress

/-- The decoder waits for the end of the stream. -/
def AtOpen : Progress H → Prop
  | .wants ⟨.open _, _⟩ => True
  | _ => False

/-- The reader has broken off. -/
def Overflows : Progress H → Prop
  | .ended .overflowed _ => True
  | _ => False

theorem overflows_ended_iff {how : Ended H} {left : Octets} :
    (ended how left).Overflows ↔ how = .overflowed := by
  cases how with
  | overflowed => exact iff_of_true trivial rfl
  | message head body => exact iff_of_false id (by simp)
  | failed e => exact iff_of_false id (by simp)

/-- Neither of the two. -/
def Plain (p : Progress H) : Prop := ¬ p.AtOpen ∧ ¬ p.Overflows

/-- What has ended is not in the middle of a body that lasts until the end. -/
theorem not_atOpen_of_ended {p : Progress H} {how : Ended H} {left : Octets} (h : p = .ended how left) :
    ¬ p.AtOpen := by
  rw [h]
  exact id

end Progress

namespace Reader

/-! ## Reading on -/

/-- What has ended takes no more reads. -/
theorem readOn_ended (form : Form H) (limits : Limits) (how : Ended H) (left : Octets) (reads : List Read) :
    readOn form limits (.ended how left) reads = ⟨how, left, reads⟩ := by
  rw [readOn]

/-- Two states that are alike come to the same when the stream ends there. -/
theorem agrees_of_alike (form : Form H) (limits : Limits) {p p' : Progress H} (h : p.Alike p') :
    (readOn form limits p []).Agrees (readOn form limits p' []) := by
  rcases h with rfl | ⟨e, e', left, left', rfl, rfl, hkind⟩
  · exact .inl ⟨rfl, rfl⟩
  · rw [readOn_ended, readOn_ended]
    exact .inr ⟨e, e', rfl, rfl, hkind⟩

/-- Fragments deliver their octets one after another. -/
theorem flatMap_octets (pieces : List Octets) : (pieces.map Read.data).flatMap Read.octets = pieces.flatten := by
  induction pieces with
  | nil => rfl
  | cons c cs ih => rw [List.map_cons, List.flatMap_cons, ih, List.flatten_cons, Read.octets]

/-- **Pieces read on like everything at once**, unless the body is one that lasts to the end of the stream. -/
theorem readOn_pieces {form : Form H} (hf : form.scan.Complete) (limits : Limits) (stage : Stage H)
    (buffer : Octets) (pieces : List Octets) (hne : ∀ c ∈ pieces, c ≠ [])
    (hopen : ¬ (Decoder.advance form limits ⟨stage, buffer ++ pieces.flatten⟩).AtOpen) :
    (readOn form limits (Decoder.advance form limits ⟨stage, buffer⟩) (pieces.map .data)).Agrees
      (readOn form limits (Decoder.advance form limits ⟨stage, buffer ++ pieces.flatten⟩) []) := by
  induction pieces generalizing stage buffer with
  | nil =>
    rw [List.flatten_nil, List.append_nil]
    exact .inl ⟨rfl, rfl⟩
  | cons c cs ih =>
    have halike := Decoder.advance_append hf limits stage buffer (c :: cs).flatten
    cases hp : Decoder.advance form limits ⟨stage, buffer⟩ with
    | ended how left =>
      -- The message ended before the pieces came: they are all left.
      rw [hp] at halike
      refine ReadResult.Agrees.trans ?_ (agrees_of_alike form limits halike).symm
      refine .inl ⟨?_, ?_⟩
      · rw [readOn_ended, Progress.resume, readOn_ended]
      · rw [readOn_ended, Progress.resume, readOn_ended, ReadResult.remaining, ReadResult.remaining,
          flatMap_octets]
        simp
    | wants d =>
      obtain ⟨stage', buffer'⟩ := d
      rw [hp] at halike
      have hnot : ¬ (Decoder.advance form limits ⟨stage', buffer' ++ (c :: cs).flatten⟩).AtOpen := by
        rcases halike with heq | ⟨e, e', left, left', -, hended, -⟩
        · rw [heq] at hopen
          exact hopen
        · exact Progress.not_atOpen_of_ended hended
      -- Every other stage goes on with the first piece as if it had been there before.
      have hfeed : receive form limits ⟨stage', buffer'⟩ (.data c) =
          Decoder.advance form limits ⟨stage', buffer' ++ c⟩ := by
        obtain ⟨b, bs, rfl⟩ := List.exists_cons_of_ne_nil (hne c (List.mem_cons_self ..))
        cases stage' with
        | «open» head => exact absurd trivial hnot
        | _ => rfl
      rw [List.flatten_cons, ← List.append_assoc] at hnot
      have hrest := ih stage' (buffer' ++ c) (fun c' hc' => hne c' (List.mem_cons_of_mem c hc')) hnot
      rw [List.map_cons, readOn, hfeed]
      refine hrest.trans ?_
      rw [List.append_assoc]
      exact (agrees_of_alike form limits halike).symm

end Reader

/-! ## How a body may end -/

namespace Decoder

/-- A body that is all there is neither open nor oversized. -/
theorem plain_finish (head : H) (body left : Octets) : (finish head body left).Plain := by
  unfold finish
  split
  · exact ⟨id, id⟩
  · exact ⟨id, id⟩

theorem plain_sized (head : H) (n : Nat) (buffer : Octets) : (sized head n buffer).Plain := by
  unfold sized
  split
  · exact ⟨id, id⟩
  · exact plain_finish head _ _

theorem plain_trailers (head : H) (body buffer : Octets) : (trailers head body buffer).Plain := by
  unfold trailers
  split
  · exact plain_finish head body _
  · exact ⟨id, id⟩

/-- The end of the stream never comes upon an oversized chunk. -/
theorem not_overflows_atEnd (d : Decoder H) : ¬ d.atEnd.Overflows := by
  unfold atEnd
  split
  · exact id
  · exact (plain_finish _ _ _).2
  · exact id

/-- A chunked body has an end of its own. -/
theorem not_atOpen_chunks (limits : Limits) (head : H) (body buffer : Octets) :
    ¬ (chunks limits head body buffer).AtOpen := by
  fun_induction chunks limits head body buffer with
  | case3 body buffer rest hscan => exact (plain_trailers head body rest).1
  | case8 body buffer size rest hscan hsize hmuch hbound data rest' htake ih => exact ih
  | _ => exact id

/-- Behind what there is of the body come chunks, and the end of one that is let through does not fit a count. -/
inductive Oversized (limits : Limits) : Octets → Octets → Prop where
  | here {body buffer rest : Octets} {size : Nat} (hscan : ChunkSize.scan buffer = .done size rest)
      (hsize : size ≠ 0) (hmuch : ¬ isTooMuch limits body size) (hbound : countBound ≤ size + 2) :
      Oversized limits body buffer
  | behind {body buffer rest data rest' : Octets} {size : Nat} (hscan : ChunkSize.scan buffer = .done size rest)
      (hsize : size ≠ 0) (hmuch : ¬ isTooMuch limits body size) (hbound : ¬ countBound ≤ size + 2)
      (htake : takeChunk size rest = .taken data rest') (hnext : Oversized limits (body ++ data) rest') :
      Oversized limits body buffer

/-- Only a limit of almost the largest count lets such a chunk through. -/
theorem countBound_le_of_oversized {limits : Limits} {body buffer : Octets} (h : Oversized limits body buffer) :
    countBound ≤ limits.body + 2 := by
  induction h with
  | here hscan hsize hmuch hbound =>
    simp only [isTooMuch, decide_eq_true_eq] at hmuch
    omega
  | behind hscan hsize hmuch hbound htake hnext ih => exact ih

/-- Among chunks, what stands against the buffer alone is a size line that announces too much. -/
theorem overflows_chunks_iff {limits : Limits} {head : H} {body buffer : Octets} :
    (chunks limits head body buffer).Overflows ↔ Oversized limits body buffer := by
  constructor
  · intro h
    -- Over the chunks: the first that is too large ends it, one that fits is put to the body.
    fun_induction chunks limits head body buffer with
    | case3 body buffer rest hscan => exact absurd h (plain_trailers head body rest).2
    | case5 body buffer size rest hscan hsize hmuch hbound => exact .here hscan hsize hmuch hbound
    | case8 body buffer size rest hscan hsize hmuch hbound data rest' htake ih =>
      exact .behind hscan hsize hmuch hbound htake (ih h)
    | _ => exact h.elim
  · intro h
    induction h with
    | here hscan hsize hmuch hbound =>
      rw [chunks_of_done hscan, if_neg hsize, if_neg hmuch, if_pos hbound]
      trivial
    | behind hscan hsize hmuch hbound htake hnext ih =>
      rw [chunks_of_done hscan, if_neg hsize, if_neg hmuch, if_neg hbound, htake]
      exact ih

/-- Only the framing that lasts until the end leaves a body open. -/
theorem atOpen_body_iff {limits : Limits} {head : H} {framing : Framing} {buffer : Octets} :
    (body limits head framing buffer).AtOpen ↔ framing = .untilEnd := by
  cases framing with
  | none => simp [body, Progress.AtOpen]
  | length n =>
    simp only [body, reduceCtorEq, iff_false]
    split
    · exact id
    · exact (plain_sized head n buffer).1
  | untilEnd => simp [body, Progress.AtOpen]
  | chunked => simp [body, not_atOpen_chunks]

/-- Only chunks can be oversized. -/
theorem overflows_body_iff {limits : Limits} {head : H} {framing : Framing} {buffer : Octets} :
    (body limits head framing buffer).Overflows ↔ framing = .chunked ∧ Oversized limits [] buffer := by
  cases framing with
  | none => simp [body, Progress.Overflows]
  | length n =>
    simp only [body, reduceCtorEq, false_and, iff_false]
    split
    · exact id
    · exact (plain_sized head n buffer).2
  | untilEnd => simp [body, Progress.Overflows]
  | chunked => simp [body, overflows_chunks_iff]

end Decoder

/-! ## What the octets of a message say -/

/-- The octets begin with a head within the limit, and with what it says of the body. -/
structure Form.Begins (form : Form H) (limits : Limits) (bytes : Octets) (head : H) (rest : Octets)
    (framing : Framing) : Prop where
  scan : form.scan bytes = .done head rest
  fits : bytes.length - rest.length ≤ limits.head
  framing : form.framing head = .ok framing

/-- The body of the message lasts to the end of the stream. -/
def Form.LastsToEnd (form : Form H) (limits : Limits) (bytes : Octets) : Prop :=
  ∃ head rest, form.Begins limits bytes head rest .untilEnd

/-- The body of the message comes to a chunk that no count holds. -/
def Form.Oversized (form : Form H) (limits : Limits) (bytes : Octets) : Prop :=
  ∃ head rest, form.Begins limits bytes head rest .chunked ∧ Decoder.Oversized limits [] rest

namespace Decoder

variable {form : Form H} {limits : Limits} {bytes : Octets}

/-- Once the head is read, what the decoder does is what it does with the body. -/
theorem advance_of_begins {head : H} {rest : Octets} {framing : Framing}
    (h : form.Begins limits bytes head rest framing) :
    advance form limits ⟨.head, bytes⟩ = body limits head framing rest := by
  rw [advance_of_done h.scan, if_neg (Nat.not_lt.mpr h.fits), h.framing]

/-- The first step comes to the body, or it waits for more of the head, or it fails. -/
theorem begins_or_wants_or_failed (form : Form H) (limits : Limits) (bytes : Octets) :
    (∃ head rest framing, form.Begins limits bytes head rest framing) ∨
      (form.scan bytes = .short ∧ advance form limits ⟨.head, bytes⟩ = .wants ⟨.head, bytes⟩) ∨
        ∃ e left, advance form limits ⟨.head, bytes⟩ = .ended (.failed e) left := by
  -- By the end of the scan, and for a head that is complete by its length and its framing.
  cases hscan : form.scan bytes with
  | done head rest =>
    rw [advance_of_done hscan]
    split
    · exact .inr (.inr ⟨_, _, rfl⟩)
    next hlen =>
      cases hframing : form.framing head with
      | ok framing => exact .inl ⟨head, rest, framing, hscan, Nat.not_lt.mp hlen, hframing⟩
      | error fault => exact .inr (.inr ⟨_, _, rfl⟩)
  | failed fault =>
    rw [advance_of_failed hscan]
    exact .inr (.inr ⟨_, _, rfl⟩)
  | short =>
    rw [advance_of_short hscan]
    split
    · exact .inr (.inr ⟨_, _, rfl⟩)
    · exact .inr (.inl ⟨rfl, rfl⟩)

/-- Either a body has begun or nothing of either kind can happen, so the two conditions below may speak of bodies only.
-/
theorem begins_or_plain (form : Form H) (limits : Limits) (bytes : Octets) :
    (∃ head rest framing, form.Begins limits bytes head rest framing) ∨
      (advance form limits ⟨.head, bytes⟩).Plain := by
  rcases begins_or_wants_or_failed form limits bytes with hbegins | ⟨-, hwants⟩ | ⟨e, left, hfailed⟩
  · exact .inl hbegins
  · rw [hwants]
    exact .inr ⟨id, id⟩
  · rw [hfailed]
    exact .inr ⟨id, id⟩

/-- The decoder waits for the end of the stream exactly where the octets spell such a message. -/
theorem atOpen_advance_iff : (advance form limits ⟨.head, bytes⟩).AtOpen ↔ form.LastsToEnd limits bytes := by
  constructor
  · intro h
    -- A step that does not come to the body cannot wait for its end.
    rcases begins_or_plain form limits bytes with ⟨head, rest, framing, hbegins⟩ | hplain
    · rw [advance_of_begins hbegins, atOpen_body_iff] at h
      exact ⟨head, rest, h ▸ hbegins⟩
    · exact absurd h hplain.1
  · rintro ⟨head, rest, hbegins⟩
    rw [advance_of_begins hbegins, atOpen_body_iff]

/-- It meets an oversized chunk exactly where the octets spell one. -/
theorem overflows_advance_iff :
    (advance form limits ⟨.head, bytes⟩).Overflows ↔ form.Oversized limits bytes := by
  constructor
  · intro h
    rcases begins_or_plain form limits bytes with ⟨head, rest, framing, hbegins⟩ | hplain
    · rw [advance_of_begins hbegins, overflows_body_iff] at h
      exact ⟨head, rest, h.1 ▸ hbegins, h.2⟩
    · exact absurd h hplain.2
  · rintro ⟨head, rest, hbegins, hover⟩
    rw [advance_of_begins hbegins, overflows_body_iff]
    exact ⟨rfl, hover⟩

end Decoder

/-! ## Two ways of cutting -/

namespace Reader

/-- When the stream ends at once, an oversized chunk is met only if it has been met already. -/
theorem how_readOn_eq_overflowed_iff (form : Form H) (limits : Limits) (p : Progress H) :
    (readOn form limits p []).how = .overflowed ↔ p.Overflows := by
  cases p with
  | ended how left =>
    rw [readOn_ended, Progress.overflows_ended_iff]
  | wants d =>
    obtain ⟨how, left, hend⟩ := exists_atEnd d
    have hnot := Decoder.not_overflows_atEnd d
    rw [hend, Progress.overflows_ended_iff] at hnot
    rw [readOn]
    simp only [hend]
    exact iff_of_false hnot id

/-- Reading pieces ends as reading the same octets at once does. -/
theorem read_agrees {form : Form H} (hf : form.scan.Complete) {limits : Limits} {buffer : Octets}
    {pieces : List Octets} (hne : ∀ c ∈ pieces, c ≠ [])
    (hopen : ¬ form.LastsToEnd limits (buffer ++ pieces.flatten)) :
    (read form limits buffer (pieces.map .data)).Agrees (read form limits (buffer ++ pieces.flatten) []) :=
  readOn_pieces hf limits .head buffer pieces hne fun h => hopen (Decoder.atOpen_advance_iff.mp h)

/-- What comes of reading the same octets in two ways: the outcome is the same, or else both break off, at a chunk
that no count holds and that a limit of almost as much lets through. -/
structure ReadAlike (form : Form H) (limits : Limits) (bytes : Octets) (r r' : ReadResult H) : Prop where
  outcome : r.SameOutcome r' ↔ ¬ form.Oversized limits bytes
  brokenOff : form.Oversized limits bytes → r.how = .overflowed ∧ r'.how = .overflowed
  limit : form.Oversized limits bytes → countBound ≤ limits.body + 2

/-- The result, for two ways to cut the same octets. Both readings are compared with the one that has everything in its
buffer, so nothing has to be said of how the cuts lie to each other. -/
theorem readAlike_of_flatten_eq {form : Form H} (hf : form.scan.Complete) {limits : Limits}
    {buffer buffer' : Octets} {pieces pieces' : List Octets}
    (hsame : buffer ++ pieces.flatten = buffer' ++ pieces'.flatten)
    (hne : ∀ c ∈ pieces, c ≠ []) (hne' : ∀ c ∈ pieces', c ≠ [])
    (hopen : ¬ form.LastsToEnd limits (buffer ++ pieces.flatten)) :
    ReadAlike form limits (buffer ++ pieces.flatten) (read form limits buffer (pieces.map .data))
      (read form limits buffer' (pieces'.map .data)) := by
  have hwhole := read_agrees hf hne hopen
  have hwhole' := read_agrees hf hne' (hsame ▸ hopen)
  rw [← hsame] at hwhole'
  -- Reading the whole at once breaks off exactly at an oversized chunk.
  have hover := how_readOn_eq_overflowed_iff form limits
    (Decoder.advance form limits ⟨.head, buffer ++ pieces.flatten⟩)
  rw [Decoder.overflows_advance_iff] at hover
  refine ⟨⟨fun hout hoversized => ?_, fun hnot => ?_⟩, fun hoversized => ?_, ?_⟩
  · exact ReadResult.not_sameOutcome_of_overflowed (hwhole.overflowed (hover.mpr hoversized)) hout
  · refine (hwhole.trans hwhole'.symm).sameOutcome fun hhow => hnot (hover.mp ?_)
    exact hwhole'.symm.overflowed hhow
  · exact ⟨hwhole.overflowed (hover.mpr hoversized), hwhole'.overflowed (hover.mpr hoversized)⟩
  · rintro ⟨head, rest, -, hoversized⟩
    exact Decoder.countBound_le_of_oversized hoversized

/-- The body of a request never lasts to the end of the stream. -/
theorem not_lastsToEnd_request (limits : Limits) (bytes : Octets) : ¬ Form.request.LastsToEnd limits bytes := by
  rintro ⟨head, rest, -, -, hframing⟩
  have hrequest : Framing.ofRequest head.fields = .ok .untilEnd := hframing
  unfold Framing.ofRequest at hrequest
  cases hfields : Framing.ofFields head.fields with
  | error fault =>
    rw [hfields] at hrequest
    cases hrequest
  | ok framing =>
    rw [hfields] at hrequest
    -- A request turns that framing into no body at all.
    have hif : (if framing = .untilEnd then Framing.none else framing) = .untilEnd := Except.ok.inj hrequest
    split at hif
    · cases hif
    next hne => exact hne hif

/-- **What is read does not depend on how the octets arrive.** Two ways of cutting the same octets into a buffer and
reads give the same message and leave the same octets, or both fail with errors of one kind. Only where a chunk is
announced whose end does not fit a count do both break off instead, which takes a limit of almost as much. Of
responses this is said where the body does not last to the end of the stream. -/
theorem read_pieces (limits : Limits) {buffer buffer' : Octets} {pieces pieces' : List Octets}
    (hsame : buffer ++ pieces.flatten = buffer' ++ pieces'.flatten)
    (hne : ∀ c ∈ pieces, c ≠ []) (hne' : ∀ c ∈ pieces', c ≠ []) :
    ReadAlike .request limits (buffer ++ pieces.flatten) (read .request limits buffer (pieces.map .data))
        (read .request limits buffer' (pieces'.map .data)) ∧
      ∀ m, ¬ (Form.response m).LastsToEnd limits (buffer ++ pieces.flatten) →
        ReadAlike (.response m) limits (buffer ++ pieces.flatten)
          (read (.response m) limits buffer (pieces.map .data))
          (read (.response m) limits buffer' (pieces'.map .data)) := by
  refine ⟨?_, fun m hopen => ?_⟩
  · exact readAlike_of_flatten_eq Head.complete_requestHead hsame hne hne' (not_lastsToEnd_request limits _)
  · exact readAlike_of_flatten_eq Head.complete_responseHead hsame hne hne' hopen

/-- A response in chunks may be cut inside its line ends. -/
theorem read_pieces_cut_inside_line_ends :
    let buffer := octets "HTTP/1.1 200 OK\r\nTransfer-Encoding: chunked\r\n\r\n2\r"
    let pieces := [octets "\nh", octets "i\r\n0\r", octets "\n\r\n"]
    let whole := [octets "HTTP/1.1 200 OK\r\nTransfer-Encoding: chunked\r\n\r\n2\r\nhi\r\n0\r\n\r\n"]
    buffer ++ pieces.flatten = [] ++ whole.flatten ∧ (∀ c ∈ pieces, c ≠ []) ∧ (∀ c ∈ whole, c ≠ []) ∧
      ¬ (Form.response .get).LastsToEnd .standard (buffer ++ pieces.flatten) ∧
      ReadAlike (.response .get) .standard (buffer ++ pieces.flatten)
        (read (.response .get) .standard buffer (pieces.map .data))
        (read (.response .get) .standard [] (whole.map .data)) := by
  intro buffer pieces whole
  have hsame : buffer ++ pieces.flatten = [] ++ whole.flatten := by decide
  have hne : ∀ c ∈ pieces, c ≠ [] := by decide
  have hne' : ∀ c ∈ whole, c ≠ [] := by decide
  have hopen : ¬ (Form.response .get).LastsToEnd .standard (buffer ++ pieces.flatten) := by
    have hbegins : (Form.response .get).Begins .standard (buffer ++ pieces.flatten) _ _ .chunked :=
      ⟨rfl, by decide, rfl⟩
    rw [← Decoder.atOpen_advance_iff, Decoder.advance_of_begins hbegins, Decoder.atOpen_body_iff]
    decide
  exact ⟨hsame, hne, hne', hopen, (read_pieces .standard hsame hne hne').2 .get hopen⟩

/-- Under the largest limit there is a chunk at which the reader breaks off, with no outcome. -/
theorem not_sameOutcome_at_oversized_chunk :
    let limits : Limits := ⟨16384, countBound - 1⟩
    let pieces := [octets "POST / HTTP/1.1\r\nTransfer-Encoding: chunked\r\n\r\n", octets "FFFFFFFFFFFFFFFE\r\n"]
    let whole := [octets "POST / HTTP/1.1\r\nTransfer-Encoding: chunked\r\n\r\nFFFFFFFFFFFFFFFE\r\n"]
    [] ++ pieces.flatten = [] ++ whole.flatten ∧
      ¬ (read .request limits [] (pieces.map .data)).SameOutcome (read .request limits [] (whole.map .data)) := by
  intro limits pieces whole
  have hsame : [] ++ pieces.flatten = [] ++ whole.flatten := by decide
  have hoversized : Form.request.Oversized limits ([] ++ pieces.flatten) :=
    ⟨_, _, ⟨rfl, by decide +kernel, rfl⟩, .here rfl (by decide) (by decide) (by decide)⟩
  have halike := readAlike_of_flatten_eq Head.complete_requestHead hsame (by decide) (by decide)
    (not_lastsToEnd_request limits _)
  exact ⟨hsame, fun hout => halike.outcome.mp hout hoversized⟩

end Reader

end HttpService
