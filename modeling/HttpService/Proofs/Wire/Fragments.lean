import HttpService.Proofs.Wire.Scanning
import HttpService.Wire.Reader

/-!
# Steps on more octets

A decoder goes as far as the octets at hand reach and is run again when more has arrived. Here a decoder that has more
octets from the start is compared with one that stopped for want of them and went on (`Progress.resume`).

* `Decoder.trailers_append`, `Decoder.chunks_append`, `Decoder.body_append` — in the body both come to the same step.
* `Decoder.advance_append` — so they do everywhere, except that a head which is found too long before it is complete
  may turn out to be wrong in another way: both fail, with errors of one kind (`Progress.Alike`).
-/

namespace HttpService

variable {H : Type}

/-! ## Going on with more -/

/-- What a step comes to when more octets arrive behind those it had. -/
def Progress.resume (form : Form H) (limits : Limits) (p : Progress H) (more : Octets) : Progress H :=
  match p with
  | .wants d => Decoder.advance form limits ⟨d.stage, d.buffer ++ more⟩
  | .ended how left => .ended how (left ++ more)

/-- The steps are equal, or both are failures of one kind. -/
def Progress.Alike (p p' : Progress H) : Prop :=
  p = p' ∨ ∃ e e' left left', p = .ended (.failed e) left ∧ p' = .ended (.failed e') left' ∧
    e.kindName = e'.kindName

namespace Decoder

/-- More octets behind a complete body are left with the others. -/
theorem resume_finish (form : Form H) (limits : Limits) (head : H) (body left more : Octets) :
    (finish head body left).resume form limits more = finish head body (left ++ more) := by
  unfold finish
  split
  · rfl
  · rfl

/-- A body of known length is cut at the same place once it is there. -/
theorem sized_append (form : Form H) (limits : Limits) (head : H) (n : Nat) (buffer more : Octets) :
    sized head n (buffer ++ more) = (sized head n buffer).resume form limits more := by
  by_cases hlen : buffer.length < n
  · have hwants : sized head n buffer = .wants ⟨.sized head n, buffer⟩ := by rw [sized, if_pos hlen]
    rw [hwants]
    rfl
  · have hmore : ¬ (buffer ++ more).length < n := by
      rw [List.length_append]
      omega
    rw [sized, sized, if_neg hlen, if_neg hmore, resume_finish,
      List.take_append_of_le_length (by omega), List.drop_append_of_le_length (by omega)]

/-! ## Trailers -/

/-- A line end tells of an empty line if it comes first in its line. -/
theorem dropLines_crlf (line : Octets) (fresh : Bool) (rest : Octets) :
    dropLines line fresh (13 :: 10 :: rest) = if fresh then .ended rest else dropLines rest true rest := rfl

/-- Any other octet, with the one behind it, is in the middle of a line. -/
theorem dropLines_cons {b c : UInt8} (h : ¬ (b = 13 ∧ c = 10)) (line : Octets) (fresh : Bool) (bs : Octets) :
    dropLines line fresh (b :: c :: bs) = dropLines line false (c :: bs) := by
  rw [dropLines]
  · simp
  · rintro rest rfl hrest
    exact h ⟨rfl, (List.cons.inj hrest).1⟩

/-- Once the empty line has come, nothing behind it matters, and neither does where the line began. -/
theorem dropLines_of_ended {line : Octets} {fresh : Bool} {bs rest : Octets}
    (h : dropLines line fresh bs = .ended rest) (line' more : Octets) :
    dropLines line' fresh (bs ++ more) = .ended (rest ++ more) := by
  fun_induction dropLines line fresh bs generalizing line' with
  | case1 => cases h
  | case2 => cases h
  | case3 =>
    obtain rfl := Trailers.ended.inj h
    rfl
  | case4 _ fresh rest' hfresh ih =>
    rw [List.cons_append, List.cons_append, dropLines_crlf, if_neg hfresh]
    exact ih h _
  -- More octets behind it do not make the octet begin a line end, since there was one behind it already.
  | case5 _ fresh b bs hnil hcrlf ih =>
    cases bs with
    | nil => exact absurd rfl hnil
    | cons c cs =>
      rw [List.cons_append, List.cons_append, dropLines_cons fun e => hcrlf cs e.1 (by rw [e.2])]
      exact ih h _

/-- What was dropped before the unfinished line need not be looked at again. -/
theorem dropLines_of_unended {line : Octets} {fresh : Bool} {bs left : Octets}
    (h : dropLines line fresh bs = .unended left) :
    left = line ∨ ∀ line' more,
      dropLines line' fresh (bs ++ more) = dropLines (left ++ more) true (left ++ more) := by
  -- Along the octets: up to the first line end nothing is dropped, and from there on the line begun last is all that
  -- counts.
  fun_induction dropLines line fresh bs with
  | case1 => exact .inl (Trailers.unended.inj h).symm
  | case2 => exact .inl (Trailers.unended.inj h).symm
  | case3 => cases h
  | case4 _ fresh rest hfresh ih =>
    refine .inr fun line' more => ?_
    rw [List.cons_append, List.cons_append, dropLines_crlf, if_neg hfresh]
    rcases ih h with rfl | hleft
    · rfl
    · exact hleft _ more
  | case5 line fresh b bs hnil hcrlf ih =>
    refine (ih h).imp_right fun hleft line' more => ?_
    cases bs with
    | nil => exact absurd rfl hnil
    | cons c cs =>
      rw [List.cons_append, List.cons_append, dropLines_cons fun e => hcrlf cs e.1 (by rw [e.2])]
      exact hleft _ more

/-- Trailers that stopped for want of octets kept their last line, and go on from there. -/
theorem trailers_append (form : Form H) (limits : Limits) (head : H) (body buffer more : Octets) :
    trailers head body (buffer ++ more) = (trailers head body buffer).resume form limits more := by
  cases hdrop : dropLines buffer true buffer with
  | ended rest =>
    rw [trailers, trailers, hdrop, dropLines_of_ended hdrop]
    exact (resume_finish form limits head body rest more).symm
  | unended left =>
    have hwants : trailers head body buffer = .wants ⟨.trailers head body, left⟩ := by
      rw [trailers, hdrop]
    rw [hwants]
    show trailers head body (buffer ++ more) = trailers head body (left ++ more)
    -- Either nothing was dropped, or the walk starts again at the unfinished line.
    rcases dropLines_of_unended hdrop with rfl | hleft
    · rfl
    · rw [trailers, trailers, hleft]

/-! ## Chunks -/

/-- A chunk that was there, or was not closed, stays so; only one that is short may change. -/
theorem takeChunk_append {size : Nat} {buffer : Octets} (h : takeChunk size buffer ≠ .short)
    (more : Octets) :
    takeChunk size (buffer ++ more) =
      match takeChunk size buffer with
      | .short => .short
      | .unclosed => .unclosed
      | .taken data rest => .taken data (rest ++ more) := by
  have hlen : ¬ buffer.length < size + 2 := fun hlt => h (if_pos hlt)
  have hmore : ¬ (buffer ++ more).length < size + 2 := by
    rw [List.length_append]
    omega
  -- The chunk and its line end stand whole in the buffer, so what comes behind is not looked at.
  have hend : ((buffer ++ more).drop size).take 2 = (buffer.drop size).take 2 := by
    rw [List.drop_append_of_le_length (by omega), List.take_append_of_le_length]
    rw [List.length_drop]
    omega
  rw [takeChunk, takeChunk, if_neg hlen, if_neg hmore, hend]
  split
  · rw [List.take_append_of_le_length (by omega), List.drop_append_of_le_length (by omega)]
  · rfl

/-- Behind a size line come the tests of the size, and then the chunk. -/
theorem chunks_of_done {limits : Limits} {body buffer rest : Octets} {size : Nat}
    (h : ChunkSize.scan buffer = .done size rest) (head : H) :
    chunks limits head body buffer =
      if size = 0 then trailers head body rest
      else if isTooMuch limits body size then refuse (.bodyTooLong limits.body) rest
      else if countBound ≤ size + 2 then .ended .overflowed rest
      else match takeChunk size rest with
        | .short => .wants ⟨.chunk head body size, rest⟩
        | .unclosed => refuse .chunkWithoutEnd rest
        | .taken data rest' => chunks limits head (body ++ data) rest' := by
  rw [chunks]
  split
  next e => rw [e] at h; cases h
  next e => rw [e] at h; cases h
  next size' rest' e =>
    rw [e] at h
    obtain ⟨rfl, rfl⟩ := Scanned.done.inj h
    congr 3
    split
    all_goals simp_all

/-- A size line that is refused ends the message. -/
theorem chunks_of_failed {limits : Limits} {body buffer : Octets} {fault : MessageFault}
    (h : ChunkSize.scan buffer = .failed fault) (head : H) :
    chunks limits head body buffer = refuse fault buffer := by
  rw [chunks]
  split
  next e => rw [e] at h; cases h
  next e => rw [e] at h; rw [Scanned.failed.inj h]
  next e => rw [e] at h; cases h

/-- In the middle of a chunk, the decoder tries for the whole of it again. -/
theorem advance_chunk (form : Form H) (limits : Limits) (head : H) (body : Octets) (size : Nat)
    (buffer : Octets) :
    advance form limits ⟨.chunk head body size, buffer⟩ =
      match takeChunk size buffer with
      | .short => .wants ⟨.chunk head body size, buffer⟩
      | .unclosed => refuse .chunkWithoutEnd buffer
      | .taken data rest => chunks limits head (body ++ data) rest := rfl

/-- Chunks that stopped for want of octets go on where they stopped: by induction on the chunks taken before. -/
theorem chunks_append (form : Form H) (limits : Limits) (head : H) (body buffer more : Octets) :
    chunks limits head body (buffer ++ more) = (chunks limits head body buffer).resume form limits more := by
  -- Along the chunks that are there: what was read of the first octets is read of all of them, up to where they ran
  -- out.
  fun_induction chunks limits head body buffer with
  | case1 => rfl
  | case2 body buffer fault hscan =>
    rw [chunks_of_failed (ChunkSize.stable_chunkSize.of_failed hscan more)]
    rfl
  | case3 body buffer rest hscan =>
    rw [chunks_of_done (ChunkSize.stable_chunkSize.of_done hscan more), if_pos rfl]
    exact trailers_append form limits head body rest more
  | case4 body buffer size rest hscan hsize hmuch =>
    rw [chunks_of_done (ChunkSize.stable_chunkSize.of_done hscan more), if_neg hsize, if_pos hmuch]
    rfl
  | case5 body buffer size rest hscan hsize hmuch hbound =>
    rw [chunks_of_done (ChunkSize.stable_chunkSize.of_done hscan more), if_neg hsize, if_neg hmuch,
      if_pos hbound]
    rfl
  | case6 body buffer size rest hscan hsize hmuch hbound htake =>
    rw [chunks_of_done (ChunkSize.stable_chunkSize.of_done hscan more), if_neg hsize, if_neg hmuch,
      if_neg hbound]
    rfl
  | case7 body buffer size rest hscan hsize hmuch hbound htake =>
    -- A chunk that is there stays the same with more behind it, and one that is not closed stays so.
    have hmore := takeChunk_append (by rw [htake]; exact ChunkTaken.noConfusion) more
    rw [htake] at hmore
    rw [chunks_of_done (ChunkSize.stable_chunkSize.of_done hscan more), if_neg hsize, if_neg hmuch,
      if_neg hbound, hmore]
    rfl
  | case8 body buffer size rest hscan hsize hmuch hbound data rest' htake ih =>
    have hmore := takeChunk_append (by rw [htake]; exact ChunkTaken.noConfusion) more
    rw [htake] at hmore
    rw [chunks_of_done (ChunkSize.stable_chunkSize.of_done hscan more), if_neg hsize, if_neg hmuch,
      if_neg hbound, hmore]
    exact ih

/-! ## Steps -/

/-- In a body it makes no difference whether all octets were there when it was entered. -/
theorem body_append (form : Form H) (limits : Limits) (head : H) (framing : Framing) (buffer more : Octets) :
    body limits head framing (buffer ++ more) = (body limits head framing buffer).resume form limits more := by
  cases framing with
  | none => rfl
  | length n =>
    simp only [body]
    split
    · rfl
    · exact sized_append form limits head n buffer more
  | untilEnd => rfl
  | chunked => exact chunks_append form limits head [] buffer more

/-- A head that is complete is measured, and its framing looked at, before its body is entered. -/
theorem advance_of_done {form : Form H} {limits : Limits} {buffer rest : Octets} {head : H}
    (h : form.scan buffer = .done head rest) :
    advance form limits ⟨.head, buffer⟩ =
      if limits.head < buffer.length - rest.length then refuse (.headTooLong limits.head) buffer
      else match form.framing head with
        | .ok framing => body limits head framing rest
        | .error fault => refuse fault rest := by
  cases hframing : form.framing head with
  | ok framing => simp only [advance, h, hframing]
  | error fault => simp only [advance, h, hframing]

/-- A head that is refused is not measured. -/
theorem advance_of_failed {form : Form H} {limits : Limits} {buffer : Octets} {fault : MessageFault}
    (h : form.scan buffer = .failed fault) :
    advance form limits ⟨.head, buffer⟩ = refuse fault buffer := by
  simp only [advance, h]

/-- A head that is not complete is measured by what has come of it, which is why a longer piece may be refused where a
shorter one was waited on. -/
theorem advance_of_short {form : Form H} {limits : Limits} {buffer : Octets}
    (h : form.scan buffer = .short) :
    advance form limits ⟨.head, buffer⟩ =
      if limits.head < buffer.length then refuse (.headTooLong limits.head) buffer
      else .wants ⟨.head, buffer⟩ := by
  simp only [advance, h]

/-- A head that more octets complete takes up all that there was before. -/
theorem length_lt_of_short {s : Scan H} (hs : s.Complete) {buffer more rest : Octets} {head : H}
    (hshort : s buffer = .short) (hdone : s (buffer ++ more) = .done head rest) :
    rest.length < more.length := by
  refine Nat.lt_of_not_le fun hlen => ?_
  obtain ⟨used, hused⟩ := hs.suffix _ _ _ hdone
  -- Otherwise the octets used are a part of the buffer, and the head was there already.
  obtain ⟨behind, hbehind⟩ : used <+: buffer := by
    refine List.prefix_of_prefix_length_le ⟨rest, hused⟩ ⟨more, rfl⟩ ?_
    have := congrArg List.length hused
    simp only [List.length_append] at this
    omega
  have hdone' := hs.closed used rest behind head (by rw [hused]; exact hdone)
  rw [hbehind, hshort] at hdone'
  cases hdone'

/-- A step in the head does not depend on what has arrived when, but for a head that is found too long. -/
theorem advance_head_append {form : Form H} (hf : form.scan.Complete) (limits : Limits) (buffer more : Octets) :
    (advance form limits ⟨.head, buffer ++ more⟩).Alike
      ((advance form limits ⟨.head, buffer⟩).resume form limits more) := by
  cases hscan : form.scan buffer with
  | done head rest =>
    refine .inl ?_
    have hsame : (buffer ++ more).length - (rest ++ more).length = buffer.length - rest.length := by
      simp only [List.length_append]
      omega
    -- The head is as long as before.
    rw [advance_of_done hscan, advance_of_done (hf.stable.of_done hscan more), hsame]
    split
    · rfl
    · split
      next framing hframing => exact body_append form limits head framing rest more
      · rfl
  | failed fault =>
    refine .inl ?_
    rw [advance_of_failed hscan, advance_of_failed (hf.stable.of_failed hscan more)]
    rfl
  | short =>
    rw [advance_of_short hscan]
    split
    next hlong =>
      have hlonger : limits.head < (buffer ++ more).length := by
        rw [List.length_append]
        omega
      cases hmore : form.scan (buffer ++ more) with
      | done head rest =>
        -- The head is complete now, but all of the octets before belong to it.
        have hlen := length_lt_of_short hf hscan hmore
        rw [advance_of_done hmore, if_pos]
        · exact .inl rfl
        · rw [List.length_append]
          omega
      | failed fault =>
        rw [advance_of_failed hmore]
        exact .inr ⟨_, _, _, _, rfl, rfl, rfl⟩
      | short =>
        rw [advance_of_short hmore, if_pos hlonger]
        exact .inl rfl
    next => exact .inl rfl

/-- **A step does not depend on what has arrived when.** Only a head that is found too long before it is complete may
turn out to be wrong in another way as well. -/
theorem advance_append {form : Form H} (hf : form.scan.Complete) (limits : Limits) (stage : Stage H)
    (buffer more : Octets) :
    (advance form limits ⟨stage, buffer ++ more⟩).Alike
      ((advance form limits ⟨stage, buffer⟩).resume form limits more) := by
  cases stage with
  | head => exact advance_head_append hf limits buffer more
  | sized head length => exact .inl (sized_append form limits head length buffer more)
  | «open» head => exact .inl rfl
  | chunkSize head body => exact .inl (chunks_append form limits head body buffer more)
  | chunk head body size =>
    refine .inl ?_
    -- A chunk that is not all there is taken when more has arrived.
    by_cases hshort : takeChunk size buffer = .short
    · rw [advance_chunk form limits head body size buffer, hshort]
      rfl
    · rw [advance_chunk, advance_chunk, takeChunk_append hshort]
      cases htake : takeChunk size buffer with
      | short => exact absurd htake hshort
      | unclosed => rfl
      | taken data rest => exact chunks_append form limits head (body ++ data) rest more
  | trailers head body => exact .inl (trailers_append form limits head body buffer more)

end Decoder

end HttpService
