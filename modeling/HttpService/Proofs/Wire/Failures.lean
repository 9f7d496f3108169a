import HttpService.Proofs.Wire.Pieces

/-!
# How reading fails

A reader fails by what it reads, by its limits, at the end of the stream, with the connection or with the time. It
never tells of a status, which is judged later and of a response that was read. And it breaks off only where the limit
of a body is almost the largest count.

* `Ended.Expected` — a message, such a failure, or breaking off at such a limit.
* `Reader.expected_read` — reading ends so, whatever is in the buffer and whatever the reads bring.
-/

namespace HttpService

variable {H : Type}

/-- A failure tells of no status, and the limit where reading breaks off is almost the largest count. -/
def Ended.Expected (limits : Limits) : Ended H → Prop
  | .message _ _ => True
  | .failed e => e.status? = none
  | .overflowed => countBound ≤ limits.body + 2

/-- If this is an end, it is an expected one. -/
def Progress.Expected (limits : Limits) : Progress H → Prop
  | .wants _ => True
  | .ended how _ => how.Expected limits

namespace Decoder

variable {limits : Limits}

/-- A refusal is a fault of the message. -/
theorem expected_refuse (fault : MessageFault) (left : Octets) : (refuse fault left : Progress H).Expected limits := rfl

/-- A body that is not text is one, too. -/
theorem expected_finish (head : H) (body left : Octets) : (finish head body left).Expected limits := by
  unfold finish
  split
  · trivial
  · exact expected_refuse _ left

/-- A body of known length fails in no other way. -/
theorem expected_sized (head : H) (n : Nat) (buffer : Octets) : (sized head n buffer).Expected limits := by
  unfold sized
  split
  · trivial
  · exact expected_finish head _ _

/-- Trailers cannot fail. -/
theorem expected_trailers (head : H) (body buffer : Octets) : (trailers head body buffer).Expected limits := by
  unfold trailers
  split
  · exact expected_finish head body _
  · trivial

/-- Chunks are refused, or reading breaks off between two of them. -/
theorem expected_chunks (head : H) (body buffer : Octets) : (chunks limits head body buffer).Expected limits := by
  fun_induction chunks limits head body buffer with
  | case1 => trivial
  | case2 body buffer fault hscan => exact expected_refuse fault buffer
  | case3 body buffer rest hscan => exact expected_trailers head body rest
  | case4 body buffer size rest hscan hsize hmuch => exact expected_refuse _ rest
  | case5 body buffer size rest hscan hsize hmuch hbound =>
    -- The one place where reading breaks off: the limit has let a size through that no count holds.
    exact countBound_le_of_oversized (.here hscan hsize hmuch hbound)
  | case6 => trivial
  | case7 body buffer size rest hscan hsize hmuch hbound htake => exact expected_refuse _ rest
  | case8 body buffer size rest hscan hsize hmuch hbound data rest' htake ih => exact ih

/-- A body fails by its length or in its chunks. -/
theorem expected_body (head : H) (framing : Framing) (buffer : Octets) :
    (body limits head framing buffer).Expected limits := by
  cases framing with
  | none => trivial
  | length n =>
    simp only [body]
    split
    · exact expected_refuse _ buffer
    · exact expected_sized head n buffer
  | untilEnd => trivial
  | chunked => exact expected_chunks head [] buffer

/-- A head adds faults of its own, and its length. -/
theorem expected_advance (form : Form H) (d : Decoder H) : (advance form limits d).Expected limits := by
  obtain ⟨stage, buffer⟩ := d
  -- By the stage. A head fails by its form, its length or its framing; everything else fails in its body.
  cases stage with
  | head =>
    cases hscan : form.scan buffer with
    | done head rest =>
      rw [advance_of_done hscan]
      split
      · exact expected_refuse _ buffer
      · split
        next framing hframing => exact expected_body head framing rest
        next fault hframing => exact expected_refuse fault rest
    | failed fault =>
      rw [advance_of_failed hscan]
      exact expected_refuse fault buffer
    | short =>
      rw [advance_of_short hscan]
      split
      · exact expected_refuse _ buffer
      · trivial
  | sized head n => exact expected_sized head n buffer
  | «open» head => trivial
  | chunkSize head body => exact expected_chunks head body buffer
  | chunk head body size =>
    rw [advance_chunk]
    split
    · trivial
    · exact expected_refuse _ buffer
    · exact expected_chunks head _ _
  | trailers head body => exact expected_trailers head body buffer

/-- A body that stays open fails by its length. -/
theorem expected_feed (form : Form H) (d : Decoder H) (arrived : Octets) :
    (feed form limits d arrived).Expected limits := by
  unfold feed
  split
  next head hstage =>
    show Progress.Expected limits (if limits.body < (d.buffer ++ arrived).length then _ else _)
    split
    · exact expected_refuse _ _
    · trivial
  next => exact expected_advance form _

/-- At the end of the stream a message is complete, or truncated. -/
theorem expected_atEnd (d : Decoder H) : d.atEnd.Expected limits := by
  unfold atEnd
  split
  · -- The stream has ended before the first octet, or in the head.
    show Error.status? (if d.buffer.isEmpty then .endOfStream else .io .truncated) = none
    split
    · rfl
    · rfl
  · exact expected_finish _ _ []
  · rfl

end Decoder

namespace Reader

variable {limits : Limits}

/-- A read that fails is passed on, as is the time that ran out. -/
theorem expected_receive (form : Form H) (d : Decoder H) (r : Read) : (receive form limits d r).Expected limits := by
  unfold receive
  split
  · exact Decoder.expected_atEnd d
  · exact Decoder.expected_feed form d _
  · rfl
  · rfl

/-- Nothing else is made of the reads: by induction on them. -/
theorem expected_readOn (form : Form H) {p : Progress H} (hp : p.Expected limits) (reads : List Read) :
    (readOn form limits p reads).how.Expected limits := by
  fun_induction readOn form limits p reads with
  | case1 how left reads => exact hp
  | case2 d how left hend =>
    have hexpected : d.atEnd.Expected limits := Decoder.expected_atEnd d
    rwa [hend] at hexpected
  | case3 => rfl
  | case4 d r reads ih => exact ih (expected_receive form d r)

/-- **Reading never fails with a status, and breaks off at a limit of almost the largest count only.** -/
theorem expected_read (form : Form H) (limits : Limits) (buffer : Octets) (reads : List Read) :
    (read form limits buffer reads).how.Expected limits :=
  expected_readOn form (Decoder.expected_advance form (Decoder.start buffer)) reads

end Reader

end HttpService
