import HttpService.Proofs.Wire.Pieces

/-!
# What the limits bound

The head of a message that is read is always within its limit. So is the body, but for one that lasts to the end of the
stream and came with the head as a whole: that one is not measured at all, since each arrival is measured and the end of
the stream is none.

* `Progress.Within` — the body so far, or the length announced for it, is within the limit. Every step keeps this.
* `Reader.read_fits` — of what is read, exactly such a body of a response is longer than the limit.
-/

namespace HttpService

variable {H : Type}

/-- A body of this length is within the limit, as far as a count can tell. -/
def Limits.Admits (limits : Limits) (length : Nat) : Prop := min length (countBound - 1) ≤ limits.body

/-- Where a count can hold the length, what is let through is within the limit. -/
theorem Limits.Admits.le {limits : Limits} {length : Nat} (h : limits.Admits length) (hcount : length < countBound) :
    length ≤ limits.body := by
  unfold Limits.Admits at h
  omega

/-- What is within the limit is let through. -/
theorem Limits.admits_of_le {limits : Limits} {length : Nat} (h : length ≤ limits.body) : limits.Admits length :=
  Nat.le_trans (Nat.min_le_left _ _) h

/-- Whatever lets a body through lets a shorter one through. -/
theorem Limits.Admits.of_le {limits : Limits} {length length' : Nat} (h : limits.Admits length)
    (hle : length' ≤ length) : limits.Admits length' := by
  unfold Limits.Admits at h ⊢
  omega

/-! ## Bodies within the limit -/

/-- What has been taken of the body of a message with this head, or is still to be taken of it, is within the limit. -/
def Stage.Within (limits : Limits) (head : H) (buffer : Octets) : Stage H → Prop
  | .head => False
  | .sized head' length => head' = head ∧ limits.Admits length
  | .open head' => head' = head ∧ limits.Admits buffer.length
  | .chunkSize head' body => head' = head ∧ limits.Admits body.length
  | .chunk head' body size => head' = head ∧ limits.Admits (body.length + size)
  | .trailers head' body => head' = head ∧ limits.Admits body.length

/-- If this is the end of a message, it is the message with this head, and its body is within the limit. -/
def Ended.Within (limits : Limits) (head : H) : Ended H → Prop
  | .message head' text => head' = head ∧ limits.Admits (octets text).length
  | .failed _ | .overflowed => True

/-- A step leads on within the limit, or to an end within it. -/
def Progress.Within (limits : Limits) (head : H) : Progress H → Prop
  | .wants d => d.stage.Within limits head d.buffer
  | .ended how _ => how.Within limits head

namespace Decoder

variable {limits : Limits} {head : H}

/-- A body that is complete has been measured before. -/
theorem within_finish {body : Octets} (h : limits.Admits body.length) (left : Octets) :
    (finish head body left).Within limits head := by
  unfold finish
  split
  next text htext =>
    refine ⟨rfl, ?_⟩
    rwa [octets_of_text? htext]
  next => trivial

/-- Of a body of known length no more is taken than was announced. -/
theorem within_sized {length : Nat} (h : limits.Admits length) (buffer : Octets) :
    (sized head length buffer).Within limits head := by
  unfold sized
  split
  · exact ⟨rfl, h⟩
  · exact within_finish (h.of_le (List.length_take_le _ _)) _

/-- Trailers add nothing to the body. -/
theorem within_trailers {body : Octets} (h : limits.Admits body.length) (buffer : Octets) :
    (trailers head body buffer).Within limits head := by
  unfold trailers
  split
  · exact within_finish h _
  · exact ⟨rfl, h⟩

/-- A chunk is as long as it was announced. -/
theorem length_of_takeChunk {size : Nat} {buffer data rest : Octets} (h : takeChunk size buffer = .taken data rest) :
    data.length = size := by
  unfold takeChunk at h
  split at h
  next => cases h
  next hlen =>
    split at h
    next =>
      obtain ⟨rfl, -⟩ := ChunkTaken.taken.inj h
      rw [List.length_take]
      omega
    next => cases h

/-- The test before a chunk measures the body together with the chunk. -/
theorem admits_of_not_isTooMuch {body : Octets} {size : Nat} (h : ¬ isTooMuch limits body size) :
    limits.Admits (body.length + size) := by
  rw [isTooMuch, decide_eq_true_eq, Nat.not_lt] at h
  exact h

/-- By induction on the chunks: each is tested with the body before it, and then becomes part of that body. -/
theorem within_chunks {body : Octets} (h : limits.Admits body.length) (buffer : Octets) :
    (chunks limits head body buffer).Within limits head := by
  fun_induction chunks limits head body buffer with
  | case1 => exact ⟨rfl, h⟩
  | case3 body buffer rest hscan => exact within_trailers h rest
  | case6 body buffer size rest hscan hsize hmuch hbound htake => exact ⟨rfl, admits_of_not_isTooMuch hmuch⟩
  | case8 body buffer size rest hscan hsize hmuch hbound data rest' htake ih =>
    -- The chunk was measured together with the body before it.
    refine ih ?_
    rw [List.length_append, length_of_takeChunk htake]
    exact admits_of_not_isTooMuch hmuch
  | _ => trivial

/-- A body that does not last to the end of the stream is measured before it is taken. -/
theorem within_body {framing : Framing} (h : framing ≠ .untilEnd) (buffer : Octets) :
    (body limits head framing buffer).Within limits head := by
  cases framing with
  | none => exact ⟨rfl, Limits.admits_of_le (Nat.zero_le _)⟩
  | length n =>
    show Progress.Within limits head (if limits.body < n then _ else _)
    split
    next => trivial
    next hfits => exact within_sized (Limits.admits_of_le (Nat.not_lt.mp hfits)) buffer
  | untilEnd => exact absurd rfl h
  | chunked => exact within_chunks (Limits.admits_of_le (Nat.zero_le _)) buffer

/-- A step of the decoder keeps its body within the limit. -/
theorem within_advance (form : Form H) {d : Decoder H} (h : d.stage.Within limits head d.buffer) :
    (advance form limits d).Within limits head := by
  obtain ⟨stage, buffer⟩ := d
  cases stage with
  | head => exact h.elim
  | sized head' length =>
    obtain ⟨rfl, hadmits⟩ := h
    exact within_sized hadmits buffer
  | «open» head' => exact h
  | chunkSize head' body =>
    obtain ⟨rfl, hadmits⟩ := h
    exact within_chunks hadmits buffer
  -- A chunk was measured together with the body before it, so it may join that.
  | chunk head' body size =>
    obtain ⟨rfl, hadmits⟩ := h
    rw [advance_chunk]
    cases htake : takeChunk size buffer with
    | short => exact ⟨rfl, hadmits⟩
    | unclosed => trivial
    | taken data rest =>
      refine within_chunks ?_ rest
      rwa [List.length_append, length_of_takeChunk htake]
  | trailers head' body =>
    obtain ⟨rfl, hadmits⟩ := h
    exact within_trailers hadmits buffer

/-- What arrives of a body that lasts to the end of the stream is measured with all that was there before. -/
theorem within_feed_open (form : Form H) (buffer arrived : Octets) :
    (feed form limits ⟨.open head, buffer⟩ arrived).Within limits head := by
  show Progress.Within limits head (if limits.body < (buffer ++ arrived).length then _ else _)
  split
  next => trivial
  next hfits => exact ⟨rfl, Limits.admits_of_le (Nat.not_lt.mp hfits)⟩

/-- An open body is measured after each read. -/
theorem within_feed (form : Form H) {d : Decoder H} (h : d.stage.Within limits head d.buffer) (arrived : Octets) :
    (feed form limits d arrived).Within limits head := by
  obtain ⟨stage, buffer⟩ := d
  cases stage with
  | head => exact h.elim
  | «open» head' =>
    obtain ⟨rfl, -⟩ := h
    exact within_feed_open form buffer arrived
  -- In the other stages nothing depends on the octets that are not yet taken.
  | sized head' length => exact within_advance form (d := ⟨.sized head' length, buffer ++ arrived⟩) h
  | chunkSize head' body => exact within_advance form (d := ⟨.chunkSize head' body, buffer ++ arrived⟩) h
  | chunk head' body size => exact within_advance form (d := ⟨.chunk head' body size, buffer ++ arrived⟩) h
  | trailers head' body => exact within_advance form (d := ⟨.trailers head' body, buffer ++ arrived⟩) h

/-- At the end of the stream an open body is as it was after the last read. -/
theorem within_atEnd {d : Decoder H} (h : d.stage.Within limits head d.buffer) : d.atEnd.Within limits head := by
  unfold atEnd
  split
  next => trivial
  next head' hstage =>
    rw [hstage] at h
    obtain ⟨rfl, hadmits⟩ := h
    exact within_finish hadmits []
  next => trivial

end Decoder

namespace Reader

variable {limits : Limits} {head : H}

/-- So whatever a read brings, the body is within the limit. -/
theorem within_receive (form : Form H) {d : Decoder H} (h : d.stage.Within limits head d.buffer) (r : Read) :
    (receive form limits d r).Within limits head := by
  cases r with
  | data arrived =>
    cases arrived with
    | nil => exact Decoder.within_atEnd h
    | cons b bs => exact Decoder.within_feed form h (b :: bs)
  | failed cause => trivial
  | late => trivial

/-- Whatever the stream brings, the limit is kept from there on. -/
theorem within_readOn (form : Form H) {p : Progress H} (h : p.Within limits head) (reads : List Read) :
    (readOn form limits p reads).how.Within limits head := by
  fun_induction readOn form limits p reads with
  | case1 how left reads => exact h
  | case2 d how left hend =>
    have hwithin := Decoder.within_atEnd h
    rwa [hend] at hwithin
  | case3 => trivial
  | case4 d r reads ih => exact ih (within_receive form h r)

/-! ## Heads -/

/-- A head has been taken: these octets, of those in the buffer and of as many reads as were needed, and no more than
the limit. The rest of the octets is left, and the reads after them. -/
structure HeadTaken (form : Form H) (limits : Limits) (buffer : Octets) (reads : List Read) (head : H)
    (used rest : Octets) (after : List Read) : Prop where
  arrived : ∃ pieces : List Octets, reads = pieces.map .data ++ after ∧ buffer ++ pieces.flatten = used ++ rest ∧
    ∀ n < pieces.length, form.scan (buffer ++ (pieces.take n).flatten) = .short
  scan : form.scan used = .done head []
  fits : used.length ≤ limits.head

/-- A head that is all there is taken, if it is not too long. -/
theorem headTaken_of_done {form : Form H} (hf : form.scan.Complete) {buffer rest : Octets}
    (hdone : form.scan buffer = .done head rest) (hfits : buffer.length - rest.length ≤ limits.head)
    (reads : List Read) : ∃ used, HeadTaken form limits buffer reads head used rest reads := by
  obtain ⟨used, rfl⟩ := hf.suffix _ _ _ hdone
  refine ⟨used, ⟨[], rfl, List.append_nil _, fun n hn => absurd hn (Nat.not_lt_zero n)⟩, ?_, ?_⟩
  · have hclosed := hf.closed used rest [] head hdone
    rwa [List.append_nil] at hclosed
  · rw [List.length_append] at hfits
    omega

/-- A head that is not all there may be taken after a read. -/
theorem HeadTaken.cons {form : Form H} {buffer arrived used rest : Octets} {reads after : List Read}
    (hshort : form.scan buffer = .short)
    (h : HeadTaken form limits (buffer ++ arrived) reads head used rest after) :
    HeadTaken form limits buffer (.data arrived :: reads) head used rest after := by
  obtain ⟨⟨pieces, hreads, hoctets, hneeded⟩, hscan, hfits⟩ := h
  refine ⟨⟨arrived :: pieces, congrArg _ hreads, ?_, fun n hn => ?_⟩, hscan, hfits⟩
  · rw [List.flatten_cons, ← List.append_assoc, hoctets]
  · cases n with
    | zero =>
      rw [List.take_zero, List.flatten_nil, List.append_nil]
      exact hshort
    | succ n =>
      rw [List.take_succ_cons, List.flatten_cons, ← List.append_assoc]
      exact hneeded n (Nat.lt_of_succ_lt_succ hn)

/-- The octets that were used for the head spell it, and behind them the body begins. -/
theorem HeadTaken.begins {form : Form H} (hf : form.scan.Complete) {buffer used rest : Octets}
    {reads after : List Read} (h : HeadTaken form limits buffer reads head used rest after) {framing : Framing}
    (hframing : form.framing head = .ok framing) : form.Begins limits (used ++ rest) head rest framing := by
  refine ⟨?_, ?_, hframing⟩
  · exact hf.stable.of_done h.scan rest
  · have hfits := h.fits
    rw [List.length_append]
    omega

/-- Reading goes on with the body that a head within the limit announces. -/
def ReachesBody (form : Form H) (limits : Limits) (buffer : Octets) (reads : List Read) (r : ReadResult H) : Prop :=
  ∃ head framing used rest after, form.framing head = .ok framing ∧
    HeadTaken form limits buffer reads head used rest after ∧
    r = readOn form limits (Decoder.body limits head framing rest) after

/-- While a head is waited for, a read brings octets or ends the reading. -/
theorem exists_data_or_failed (form : Form H) (limits : Limits) (buffer : Octets) (r : Read) :
    (∃ arrived, r = .data arrived ∧
        receive form limits ⟨.head, buffer⟩ r = Decoder.advance form limits ⟨.head, buffer ++ arrived⟩) ∨
      ∃ e left, receive form limits ⟨.head, buffer⟩ r = .ended (.failed e) left := by
  rcases r with (_ | ⟨b, bs⟩) | cause | _
  · exact .inr ⟨_, _, rfl⟩
  · exact .inl ⟨b :: bs, rfl, rfl⟩
  · exact .inr ⟨_, _, rfl⟩
  · exact .inr ⟨_, _, rfl⟩

/-- Reading fails in the head, or comes to the body. -/
theorem reachesBody_or_failed {form : Form H} (hf : form.scan.Complete) (limits : Limits) (buffer : Octets)
    (reads : List Read) :
    ReachesBody form limits buffer reads (readOn form limits (Decoder.advance form limits ⟨.head, buffer⟩) reads) ∨
      ∃ e, (readOn form limits (Decoder.advance form limits ⟨.head, buffer⟩) reads).how = .failed e := by
  -- On the reads: until the head is complete all that has come is in the buffer.
  induction reads generalizing buffer with
  | nil =>
    rcases Decoder.begins_or_wants_or_failed form limits buffer with
      ⟨head, rest, framing, hbegins⟩ | ⟨-, hwants⟩ | ⟨e, left, hfailed⟩
    · obtain ⟨used, htaken⟩ := headTaken_of_done hf hbegins.scan hbegins.fits []
      rw [Decoder.advance_of_begins hbegins]
      exact .inl ⟨head, framing, used, rest, [], hbegins.framing, htaken, rfl⟩
    · rw [hwants]
      exact .inr ⟨_, rfl⟩
    · rw [hfailed, readOn_ended]
      exact .inr ⟨e, rfl⟩
  | cons r reads ih =>
    rcases Decoder.begins_or_wants_or_failed form limits buffer with
      ⟨head, rest, framing, hbegins⟩ | ⟨hshort, hwants⟩ | ⟨e, left, hfailed⟩
    · obtain ⟨used, htaken⟩ := headTaken_of_done hf hbegins.scan hbegins.fits (r :: reads)
      rw [Decoder.advance_of_begins hbegins]
      exact .inl ⟨head, framing, used, rest, r :: reads, hbegins.framing, htaken, rfl⟩
    · -- Only octets can complete the head, and then this read was needed for it.
      rw [hwants, readOn]
      rcases exists_data_or_failed form limits buffer r with ⟨arrived, rfl, hreceive⟩ | ⟨e, left, hreceive⟩
      · rw [hreceive]
        refine (ih (buffer ++ arrived)).imp_left ?_
        rintro ⟨head, framing, used, rest, after, hframing, htaken, hread⟩
        exact ⟨head, framing, used, rest, after, hframing, htaken.cons hshort, hread⟩
      · rw [hreceive, readOn_ended]
        exact .inr ⟨e, rfl⟩
    · rw [hfailed, readOn_ended]
      exact .inr ⟨e, rfl⟩

/-! ## Bodies to the end of the stream -/

/-- The stream has ended: there is no further read, or it brings nothing. -/
def Ends (reads : List Read) : Prop := ∀ r ∈ reads.head?, r = .data []

/-- At the end of the stream a decoder that waits is at its end. -/
theorem how_readOn_of_ends {form : Form H} {d : Decoder H} {how : Ended H} {left : Octets}
    (hend : d.atEnd = .ended how left) {after : List Read} (hafter : Ends after) :
    (readOn form limits (.wants d) after).how = how := by
  cases after with
  | nil =>
    rw [readOn]
    simp only [hend]
  | cons r reads =>
    obtain rfl : r = .data [] := hafter r rfl
    have hreceive : receive form limits d (.data []) = .ended how left := hend
    rw [readOn, hreceive, readOn_ended]

/-- At the end of the stream such a body is what has come, and nothing is measured. -/
theorem how_readOn_open_of_ends (form : Form H) (limits : Limits) (head : H) (buffer : Octets) {reads : List Read}
    (h : Ends reads) :
    ∃ left, Decoder.finish head buffer [] =
      .ended (readOn form limits (.wants ⟨.open head, buffer⟩) reads).how left := by
  obtain ⟨how, left, hend⟩ := exists_atEnd (⟨.open head, buffer⟩ : Decoder H)
  refine ⟨left, ?_⟩
  rw [how_readOn_of_ends hend h]
  exact hend

/-- Before the end of the stream something arrives, and is measured with all that there was. -/
theorem within_readOn_open_of_not_ends (form : Form H) (limits : Limits) (head : H) (buffer : Octets)
    {reads : List Read} (h : ¬ Ends reads) :
    (readOn form limits (.wants ⟨.open head, buffer⟩) reads).how.Within limits head := by
  cases reads with
  | nil => exact absurd (fun r hr => by cases hr) h
  | cons r reads =>
    rw [readOn]
    refine within_readOn form ?_ reads
    rcases r with (_ | ⟨b, bs⟩) | cause | _
    · exact absurd (fun r hr => (Option.some.inj hr).symm) h
    · exact Decoder.within_feed_open form buffer (b :: bs)
    · trivial
    · trivial

end Reader

/-- A body that ends a message is the text of that message. -/
theorem Decoder.eq_of_finish {head' head : H} {body left left' : Octets} {text : String}
    (h : finish head' body left = .ended (.message head text) left') : head' = head ∧ octets text = body := by
  unfold finish at h
  split at h
  next s htext =>
    injection h with hmessage hleft
    injection hmessage with hhead htext'
    exact ⟨hhead, htext' ▸ octets_of_text? htext⟩
  next => cases h

namespace Reader

/-! ## Whole messages -/

/-- The body of a message that is read is within the limit, unless it lasts to the end of the stream and nothing of it
came after the head. -/
theorem lt_length_iff_of_message {form : Form H} (hf : form.scan.Complete) {limits : Limits} {buffer : Octets}
    {reads : List Read} {head : H} {text : String}
    (h : (read form limits buffer reads).how = .message head text) (hcount : (octets text).length < countBound) :
    ∃ used rest after, HeadTaken form limits buffer reads head used rest after ∧
      (limits.body < (octets text).length ↔
        form.framing head = .ok .untilEnd ∧ Ends after ∧ limits.body < rest.length) := by
  rcases reachesBody_or_failed hf limits buffer reads with
    ⟨head', framing, used, rest, after, hframing, htaken, hread⟩ | ⟨e, hfailed⟩
  · rw [read, Decoder.start, hread] at h
    -- One case escapes the limit: a body that lasts to the end of the stream, with no read behind the head to measure
    -- it at.
    by_cases hopen : framing = .untilEnd ∧ Ends after
    · obtain ⟨rfl, hends⟩ := hopen
      obtain ⟨left, hfinish⟩ := how_readOn_open_of_ends form limits head' rest hends
      have hhow : (readOn form limits (.wants ⟨.open head', rest⟩) after).how = .message head text := h
      rw [hhow] at hfinish
      obtain ⟨rfl, hbody⟩ := Decoder.eq_of_finish hfinish
      refine ⟨used, rest, after, htaken, ?_⟩
      rw [hbody]
      exact ⟨fun hlong => ⟨hframing, hends, hlong⟩, fun hlong => hlong.2.2⟩
    · -- Everything else is measured.
      have hwithin : (readOn form limits (Decoder.body limits head' framing rest) after).how.Within limits head' := by
        by_cases huntil : framing = .untilEnd
        · rw [huntil]
          exact within_readOn_open_of_not_ends form limits head' rest fun hends => hopen ⟨huntil, hends⟩
        · exact within_readOn form (Decoder.within_body huntil rest) after
      rw [h] at hwithin
      obtain ⟨rfl, hadmits⟩ := hwithin
      refine ⟨used, rest, after, htaken, iff_of_false (Nat.not_lt.mpr (hadmits.le hcount)) ?_⟩
      rintro ⟨huntil, hends, -⟩
      rw [hframing] at huntil
      exact hopen ⟨Except.ok.inj huntil, hends⟩
  · rw [read, Decoder.start, hfailed] at h
    cases h

/-- **What is read is within the limits.** Of a request that is read the head and the body are, whatever was in the
buffer and whatever the reads bring. Of a response the head is, and the body is longer than the limit exactly if it
lasts to the end of the stream, all of it came before the head was complete or together with its end, and what came of
it is longer. A length is a count of 64 bits. -/
theorem read_fits (limits : Limits) (buffer : Octets) (reads : List Read) :
    (∀ head text, (read .request limits buffer reads).how = .message head text →
        (octets text).length < countBound →
        (∃ used rest after, HeadTaken .request limits buffer reads head used rest after) ∧
          (octets text).length ≤ limits.body) ∧
      ∀ m head text, (read (.response m) limits buffer reads).how = .message head text →
        (octets text).length < countBound →
        ∃ used rest after, HeadTaken (.response m) limits buffer reads head used rest after ∧
          (limits.body < (octets text).length ↔
            (Form.response m).framing head = .ok .untilEnd ∧ Ends after ∧ limits.body < rest.length) := by
  refine ⟨fun head text h hcount => ?_, fun m head text h hcount => ?_⟩
  · obtain ⟨used, rest, after, htaken, hiff⟩ := lt_length_iff_of_message Head.complete_requestHead h hcount
    refine ⟨⟨used, rest, after, htaken⟩, Nat.not_lt.mp fun hlong => ?_⟩
    have hbegins := htaken.begins Head.complete_requestHead (hiff.mp hlong).1
    exact not_lastsToEnd_request limits (used ++ rest) ⟨head, rest, hbegins⟩
  · exact lt_length_iff_of_message Head.complete_responseHead h hcount

/-- A request with a length and a response that arrives in two pieces, both with as long a body as the limit allows. -/
theorem read_fits_exactly :
    let limits : Limits := ⟨48, 5⟩
    let request := octets "POST / HTTP/1.1\r\nContent-Length: 5\r\n\r\nhello"
    let response := [Read.data (octets "HTTP/1.1 200 OK\r\n\r\nhel"), .data (octets "lo")]
    (∃ head, (read .request limits request []).how = .message head "hello" ∧
        (octets "hello").length ≤ limits.body) ∧
      ∃ head, (read (.response .get) limits [] response).how = .message head "hello" ∧
        ∃ used rest after, HeadTaken (.response .get) limits [] response head used rest after := by
  intro limits request response
  have hcount : (octets "hello").length < countBound := by decide
  have hrequest : (read .request limits request []).how = .message _ "hello" := rfl
  have hresponse : (read (.response .get) limits [] response).how = .message _ "hello" := rfl
  refine ⟨⟨_, hrequest, ((read_fits limits request []).1 _ _ hrequest hcount).2⟩, _, hresponse, ?_⟩
  obtain ⟨used, rest, after, htaken, -⟩ := (read_fits limits [] response).2 .get _ _ hresponse hcount
  exact ⟨used, rest, after, htaken⟩

/-- A body that comes with the head and is followed by the end of the stream is not measured. -/
theorem body_longer_than_limit :
    let limits : Limits := ⟨48, 4⟩
    ∃ head, (read (.response .get) limits [] [.data (octets "HTTP/1.1 200 OK\r\n\r\nhello")]).how =
        .message head "hello" ∧ limits.body < (octets "hello").length := by
  intro limits
  exact ⟨_, rfl, by decide⟩

end Reader

end HttpService
