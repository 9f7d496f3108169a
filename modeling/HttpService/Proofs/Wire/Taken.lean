import HttpService.Proofs.Wire.Limits

/-!
# What a message takes from its connection

A decoder keeps what it has not used, so the octets of a connection fall into those that were taken for a message and
those that are left.

* `Decoder.held_advance` — a step leaves octets from the end of those that were there.
* `Decoder.waitsAfter_advance` — a step that leads to waiting has not found there what it waits for.
* `Decoder.length_lt_of_waits` — a decoder that waits uses of what arrives at least the octet that it waited for.
-/

namespace HttpService

variable {H : Type}

/-! ## What is left -/

/-- The octets that have not been used. -/
def Progress.held : Progress H → Octets
  | .wants d => d.buffer
  | .ended _ left => left

namespace Decoder

/-- The octets behind a body that is complete stay in the buffer. -/
theorem held_finish (head : H) (body left : Octets) : (finish head body left).held = left := by
  unfold finish
  split
  · rfl
  · rfl

/-- They stay there whether or not the body was text. -/
theorem left_of_finish {head : H} {body left left' : Octets} {how : Ended H}
    (h : finish head body left' = .ended how left) : left = left' := by
  have hheld := held_finish head body left'
  rw [h] at hheld
  exact hheld

/-- A body of known length is taken off the front. -/
theorem held_sized (head : H) (n : Nat) (buffer : Octets) : (sized head n buffer).held <:+ buffer := by
  unfold sized
  split
  · exact List.suffix_rfl
  · rw [held_finish]
    exact List.drop_suffix n buffer

/-- Passing over trailers goes forward only: by induction on the octets, with the line begun last. -/
theorem suffix_dropLines {whole line : Octets} {fresh : Bool} {bs : Octets} (hline : line <:+ whole)
    (hbs : bs <:+ whole) :
    match dropLines line fresh bs with
    | .ended rest => rest <:+ whole
    | .unended left => left <:+ whole := by
  fun_induction dropLines line fresh bs with
  | case1 => exact hline
  | case2 => exact hline
  | case3 => exact ((List.suffix_cons _ _).trans (List.suffix_cons _ _)).trans hbs
  | case4 line rest fresh hfresh ih =>
    have hrest := ((List.suffix_cons _ _).trans (List.suffix_cons _ _)).trans hbs
    exact ih hrest hrest
  | case5 line fresh b rest hnil hcrlf ih => exact ih hline ((List.suffix_cons b rest).trans hbs)

/-- What trailers leave, ended or not, was behind them. -/
theorem held_trailers (head : H) (body buffer : Octets) : (trailers head body buffer).held <:+ buffer := by
  have hbuffer : buffer <:+ buffer := List.suffix_rfl
  have hsuffix := @suffix_dropLines buffer buffer true buffer hbuffer hbuffer
  unfold trailers
  split
  next rest hdrop =>
    rw [hdrop] at hsuffix
    rw [held_finish]
    exact hsuffix
  next line hdrop =>
    rw [hdrop] at hsuffix
    exact hsuffix

end Decoder

namespace ChunkSize

/-- A size line is read from the left, in whatever part of it the reading is. -/
theorem suffix_scanFrom {part : SizePart} {size n : Nat} {bs rest : Octets}
    (h : scanFrom part size bs = .done n rest) : rest <:+ bs := by
  fun_induction scanFrom part size bs with
  | case1 => cases h
  | case2 => cases h
  | case3 =>
    obtain ⟨-, rfl⟩ := Scanned.done.inj h
    exact (List.suffix_cons _ _).trans (List.suffix_cons _ _)
  | case4 => cases h
  | case5 part size b bs h13 h1310 hb part' size' hstep ih => exact (ih h).trans (List.suffix_cons b bs)
  | case6 => cases h

/-- What a size line leaves was behind it. -/
theorem suffix_scan {n : Nat} {bs rest : Octets} (h : scan bs = .done n rest) : rest <:+ bs := suffix_scanFrom h

end ChunkSize

namespace Decoder

/-- What a chunk leaves was behind it. -/
theorem suffix_takeChunk {size : Nat} {buffer data rest : Octets} (h : takeChunk size buffer = .taken data rest) :
    rest <:+ buffer := by
  unfold takeChunk at h
  split at h
  · cases h
  · split at h
    · obtain ⟨-, rfl⟩ := ChunkTaken.taken.inj h
      exact List.drop_suffix _ buffer
    · cases h

/-- Chunks are taken off the front, one after another, and so nothing is read twice. -/
theorem held_chunks (limits : Limits) (head : H) (body buffer : Octets) :
    (chunks limits head body buffer).held <:+ buffer := by
  fun_induction chunks limits head body buffer with
  | case1 => exact List.suffix_rfl
  | case2 => exact List.suffix_rfl
  | case3 body buffer rest hscan => exact (held_trailers head body rest).trans (ChunkSize.suffix_scan hscan)
  | case8 body buffer size rest hscan hsize hmuch hbound data rest' htake ih =>
    exact (ih.trans (suffix_takeChunk htake)).trans (ChunkSize.suffix_scan hscan)
  -- In the other cases nothing behind the size line is used.
  | _ => exact ChunkSize.suffix_scan (by assumption)

/-- A size line that has been read is used. -/
theorem held_chunks_of_done {limits : Limits} {body buffer rest : Octets} {size : Nat}
    (h : ChunkSize.scan buffer = .done size rest) (head : H) : (chunks limits head body buffer).held <:+ rest := by
  rw [chunks_of_done h]
  split
  · exact held_trailers head body rest
  · split
    · exact List.suffix_rfl
    · split
      · exact List.suffix_rfl
      · split
        · exact List.suffix_rfl
        · exact List.suffix_rfl
        next data rest' htake => exact (held_chunks limits head _ rest').trans (suffix_takeChunk htake)

/-- However a body is framed, what is held of the buffer is an end of it. -/
theorem held_body (limits : Limits) (head : H) (framing : Framing) (buffer : Octets) :
    (body limits head framing buffer).held <:+ buffer := by
  cases framing with
  | none => exact List.suffix_rfl
  | length n =>
    simp only [body]
    split
    · exact List.suffix_rfl
    · exact held_sized head n buffer
  | untilEnd => exact List.suffix_rfl
  | chunked => exact held_chunks limits head [] buffer

/-- A step of the decoder forgets octets only from the front. -/
theorem held_advance {form : Form H} (hs : form.scan.Suffix) (limits : Limits) (d : Decoder H) :
    (advance form limits d).held <:+ d.buffer := by
  obtain ⟨stage, buffer⟩ := d
  -- By the stage: each of them takes from the front, and the head is followed by its body in the same step.
  cases stage with
  | head =>
    cases hscan : form.scan buffer with
    | done head rest =>
      have hrest := hs _ _ _ hscan
      rw [advance_of_done hscan]
      split
      · exact List.suffix_rfl
      · split
        next framing hframing => exact (held_body limits head framing rest).trans hrest
        next => exact hrest
    | failed fault =>
      rw [advance_of_failed hscan]
      exact List.suffix_rfl
    -- A head that is not all there is kept, all of it.
    | short =>
      rw [advance_of_short hscan]
      split
      · exact List.suffix_rfl
      · exact List.suffix_rfl
  | sized head n => exact held_sized head n buffer
  | «open» head => exact List.suffix_rfl
  | chunkSize head body => exact held_chunks limits head body buffer
  | chunk head body size =>
    rw [advance_chunk]
    cases htake : takeChunk size buffer with
    | short => exact List.suffix_rfl
    | unclosed => exact List.suffix_rfl
    | taken data rest => exact (held_chunks limits head _ rest).trans (suffix_takeChunk htake)
  | trailers head body => exact held_trailers head body buffer

end Decoder

namespace Reader

/-- Only a body that lasts to the end of the stream is not looked at when more of it arrives. -/
theorem receive_data (form : Form H) (limits : Limits) {stage : Stage H} (hstage : ∀ head, stage ≠ .open head)
    (buffer : Octets) {arrived : Octets} (hne : arrived ≠ []) :
    receive form limits ⟨stage, buffer⟩ (.data arrived) =
      Decoder.advance form limits ⟨stage, buffer ++ arrived⟩ := by
  obtain ⟨b, bs, rfl⟩ := List.exists_cons_of_ne_nil hne
  cases stage with
  | «open» head => exact absurd rfl (hstage head)
  | _ => rfl

end Reader

/-! ## What a waiting decoder uses -/

/-- A line that more octets complete ends in those. -/
theorem ChunkSize.length_lt_of_short {part : SizePart} {size n : Nat} {bs more rest : Octets}
    (hshort : scanFrom part size bs = .short) (hdone : scanFrom part size (bs ++ more) = .done n rest) :
    rest.length < more.length := by
  fun_induction scanFrom part size bs with
  | case1 => exact length_lt_of_scanFrom hdone
  | case2 part size =>
    -- The CR waits for its LF, and without one the line is no size line.
    cases more with
    | nil => cases hdone
    | cons c cs =>
      by_cases hc : c = 10
      · subst hc
        obtain ⟨-, rfl⟩ := Scanned.done.inj hdone
        exact Nat.lt_succ_self _
      · rw [List.singleton_append, scanFrom] at hdone
        · cases hdone
        · simp
        · intro ds _ hds
          exact hc (List.cons.inj hds).1
  | case3 => cases hshort
  | case4 => cases hshort
  | case5 part size b bs h13 h1310 hb part' size' hstep ih =>
    have hne : b ≠ 13 := by simpa using hb
    rw [List.cons_append, scanFrom_cons part size hne, hstep] at hdone
    exact ih hshort hdone
  | case6 => cases hshort

namespace Decoder

/-- An end of trailers uses octets. -/
theorem length_lt_of_ended {line : Octets} {fresh : Bool} {bs rest : Octets}
    (h : dropLines line fresh bs = .ended rest) : rest.length < bs.length := by
  fun_induction dropLines line fresh bs with
  | case1 => cases h
  | case2 => cases h
  -- The line end that ends the trailers is taken as well.
  | case3 =>
    obtain rfl := Trailers.ended.inj h
    simp only [List.length_cons]
    omega
  | case4 line rest' fresh hfresh ih =>
    have hlt := ih h
    simp only [List.length_cons]
    omega
  | case5 line fresh b rest' hnil hcrlf ih =>
    have hlt := ih h
    simp only [List.length_cons]
    omega

/-- The empty line that more octets complete ends in those. -/
theorem length_lt_of_unended {line line' left : Octets} {fresh : Bool} {bs more rest : Octets}
    (hunended : dropLines line fresh bs = .unended left)
    (hended : dropLines line' fresh (bs ++ more) = .ended rest) : rest.length < more.length := by
  -- Along the octets that were there: none of them was the end, so what completes the trailers came later.
  fun_induction dropLines line fresh bs generalizing line' with
  | case1 => exact length_lt_of_ended hended
  | case2 line fresh b =>
    cases more with
    | nil => cases hended
    | cons c cs =>
      -- The last octet that was there may be the first half of the line end that is looked for.
      by_cases hcrlf : b = 13 ∧ c = 10
      · obtain ⟨rfl, rfl⟩ := hcrlf
        rw [List.singleton_append, dropLines_crlf] at hended
        split at hended
        · obtain rfl := Trailers.ended.inj hended
          exact Nat.lt_succ_self _
        · exact Nat.lt_succ_of_lt (length_lt_of_ended hended)
      · rw [List.singleton_append, dropLines_cons hcrlf] at hended
        exact length_lt_of_ended hended
  | case3 => cases hunended
  | case4 line rest' fresh hfresh ih =>
    rw [List.cons_append, List.cons_append, dropLines_crlf, if_neg hfresh] at hended
    exact ih hunended hended
  | case5 line fresh b bs hnil hcrlf ih =>
    cases bs with
    | nil => exact absurd rfl hnil
    | cons c cs =>
      rw [List.cons_append, List.cons_append, dropLines_cons fun e => hcrlf cs e.1 (by rw [e.2])] at hended
      exact ih hunended hended

/-- The decoder is where the octets at hand have not been enough. -/
def Waits (form : Form H) : Decoder H → Prop
  | ⟨.head, buffer⟩ => form.scan buffer = .short
  | ⟨.sized _ n, buffer⟩ => buffer.length < n
  | ⟨.open _, _⟩ => True
  | ⟨.chunkSize _ _, buffer⟩ => ChunkSize.scan buffer = .short
  | ⟨.chunk _ _ size, buffer⟩ => takeChunk size buffer = .short
  | ⟨.trailers _ _, buffer⟩ => dropLines buffer true buffer = .unended buffer

/-- If the step leads to waiting, the decoder waits for something. -/
def WaitsAfter (form : Form H) : Progress H → Prop
  | .wants d => d.Waits form
  | .ended _ _ => True

variable {form : Form H}

/-- A message that has ended does not wait. -/
theorem waitsAfter_finish (head : H) (body left : Octets) : WaitsAfter form (finish head body left) := by
  unfold finish
  split
  · trivial
  · trivial

/-- Advancing again in a body of known length would change nothing. -/
theorem waitsAfter_sized (head : H) (n : Nat) (buffer : Octets) : WaitsAfter form (sized head n buffer) := by
  unfold sized
  split
  next hlen => exact hlen
  next => exact waitsAfter_finish head _ _

/-- Nor would it among trailers, since only a line that has not ended was kept. -/
theorem waitsAfter_trailers (head : H) (body buffer : Octets) : WaitsAfter form (trailers head body buffer) := by
  unfold trailers
  split
  next => exact waitsAfter_finish head _ _
  next line hdrop =>
    -- What is kept begins with the unfinished line.
    rcases dropLines_of_unended hdrop with rfl | hline
    · exact hdrop
    · have hagain := hline buffer []
      rw [List.append_nil, List.append_nil, hdrop] at hagain
      exact hagain.symm

/-- Nor among chunks: those that are there have been taken. -/
theorem waitsAfter_chunks (limits : Limits) (head : H) (body buffer : Octets) :
    WaitsAfter form (chunks limits head body buffer) := by
  fun_induction chunks limits head body buffer with
  | case1 body buffer hscan => exact hscan
  | case3 body buffer rest hscan => exact waitsAfter_trailers head body rest
  | case6 body buffer size rest hscan hsize hmuch hbound htake => exact htake
  | case8 body buffer size rest hscan hsize hmuch hbound data rest' htake ih => exact ih
  | _ => trivial

/-- Nor in a body, of whichever framing. -/
theorem waitsAfter_body (limits : Limits) (head : H) (framing : Framing) (buffer : Octets) :
    WaitsAfter form (body limits head framing buffer) := by
  cases framing with
  | none => trivial
  | length n =>
    simp only [body]
    split
    · trivial
    · exact waitsAfter_sized head n buffer
  | untilEnd => trivial
  | chunked => exact waitsAfter_chunks limits head [] buffer

/-- One step goes as far as the octets at hand allow; a second one would stop at once. -/
theorem waitsAfter_advance (limits : Limits) (d : Decoder H) : WaitsAfter form (advance form limits d) := by
  obtain ⟨stage, buffer⟩ := d
  -- By the stage: where the octets are not enough, the same step was tried on what is kept.
  cases stage with
  | head =>
    cases hscan : form.scan buffer with
    | done head rest =>
      rw [advance_of_done hscan]
      split
      · trivial
      · split
        next framing hframing => exact waitsAfter_body limits head framing rest
        next => trivial
    | failed fault =>
      rw [advance_of_failed hscan]
      trivial
    | short =>
      rw [advance_of_short hscan]
      split
      · trivial
      · exact hscan
  | sized head n => exact waitsAfter_sized head n buffer
  | «open» head => trivial
  | chunkSize head body => exact waitsAfter_chunks limits head body buffer
  | chunk head body size =>
    rw [advance_chunk]
    cases htake : takeChunk size buffer with
    | short => exact htake
    | unclosed => trivial
    | taken data rest => exact waitsAfter_chunks limits head _ rest
  | trailers head body => exact waitsAfter_trailers head body buffer

/-! ### The octet that was waited for -/

/-- What is left at an end is no more than was held. -/
theorem length_le_of_held {p : Progress H} {how : Ended H} {left buffer : Octets} (h : p = .ended how left)
    (hheld : p.held <:+ buffer) : left.length ≤ buffer.length := by
  rw [h] at hheld
  exact hheld.length_le

/-- Without a whole size line, chunks wait for it. -/
theorem chunks_of_short {limits : Limits} {body buffer : Octets} (h : ChunkSize.scan buffer = .short) (head : H) :
    chunks limits head body buffer = .wants ⟨.chunkSize head body, buffer⟩ := by
  rw [chunks]
  split
  next => rfl
  next hscan => rw [hscan] at h; cases h
  next hscan => rw [hscan] at h; cases h

/-- A chunk that more octets complete takes up all that there was before. -/
theorem length_lt_of_takeChunk_short {size : Nat} {buffer more data rest : Octets}
    (hshort : takeChunk size buffer = .short) (htaken : takeChunk size (buffer ++ more) = .taken data rest) :
    rest.length < more.length := by
  -- A chunk was short, so it and its line end reach beyond what was there.
  have hlen : buffer.length < size + 2 := by
    refine Nat.lt_of_not_le fun hle => ?_
    have hnot : ¬ buffer.length < size + 2 := Nat.not_lt.mpr hle
    rw [takeChunk, if_neg hnot] at hshort
    split at hshort
    · cases hshort
    · cases hshort
  unfold takeChunk at htaken
  split at htaken
  next => cases htaken
  next hlong =>
    split at htaken
    next =>
      obtain ⟨-, rfl⟩ := ChunkTaken.taken.inj htaken
      rw [List.length_append] at hlong
      rw [List.length_drop, List.length_append]
      omega
    next => cases htaken

/-- A head that more octets complete takes up all that there was before, and so does what follows it. -/
theorem length_lt_of_head_short (hf : form.scan.Complete) {limits : Limits} {buffer more left : Octets} {head : H}
    {text : String} (hshort : form.scan buffer = .short)
    (hended : advance form limits ⟨.head, buffer ++ more⟩ = .ended (.message head text) left) :
    left.length < more.length := by
  cases hscan : form.scan (buffer ++ more) with
  | done head' rest =>
    -- The head that was waited for ends in what arrives, and the body gives nothing back.
    have hlt := length_lt_of_short hf hshort hscan
    rw [advance_of_done hscan] at hended
    split at hended
    · cases hended
    · split at hended
      next framing hframing =>
        have hle := length_le_of_held hended (held_body limits head' framing rest)
        omega
      next => cases hended
  | failed fault =>
    rw [advance_of_failed hscan] at hended
    cases hended
  | short =>
    rw [advance_of_short hscan] at hended
    split at hended
    · cases hended
    · cases hended

/-- So does a size line, with the chunks behind it. -/
theorem length_lt_of_chunks_short {limits : Limits} {head head' : H} {body buffer more left : Octets} {text : String}
    (hshort : ChunkSize.scan buffer = .short)
    (hended : chunks limits head' body (buffer ++ more) = .ended (.message head text) left) :
    left.length < more.length := by
  cases hscan : ChunkSize.scan (buffer ++ more) with
  | done size rest =>
    -- The chunks take from what is left of the line.
    have hlt := ChunkSize.length_lt_of_short hshort hscan
    have hle := length_le_of_held hended (held_chunks_of_done hscan head')
    omega
  | failed fault =>
    rw [chunks_of_failed hscan] at hended
    cases hended
  | short =>
    rw [chunks_of_short hscan] at hended
    cases hended

/-- **A decoder that waits uses some of what arrives.** If its message is complete then, less is left than has
arrived. -/
theorem length_lt_of_waits (hf : form.scan.Complete) {limits : Limits} {d : Decoder H} (hd : d.Waits form)
    {more left : Octets} {head : H} {text : String}
    (hended : advance form limits ⟨d.stage, d.buffer ++ more⟩ = .ended (.message head text) left) :
    left.length < more.length := by
  obtain ⟨stage, buffer⟩ := d
  cases stage with
  | head => exact length_lt_of_head_short hf hd hended
  | sized head' n =>
    have hlen : buffer.length < n := hd
    have hsized : sized head' n (buffer ++ more) = .ended (.message head text) left := hended
    unfold sized at hsized
    split at hsized
    next => cases hsized
    next hlong =>
      rw [List.length_append] at hlong
      rw [left_of_finish hsized, List.length_drop, List.length_append]
      omega
  | «open» head' => cases hended
  | chunkSize head' body => exact length_lt_of_chunks_short hd hended
  | chunk head' body size =>
    rw [advance_chunk] at hended
    cases htake : takeChunk size (buffer ++ more) with
    | short =>
      rw [htake] at hended
      cases hended
    | unclosed =>
      rw [htake] at hended
      cases hended
    | taken data rest =>
      rw [htake] at hended
      have hle := length_le_of_held hended (held_chunks limits head' _ rest)
      have hlt := length_lt_of_takeChunk_short hd htake
      omega
  | trailers head' body =>
    have htrailers : trailers head' body (buffer ++ more) = .ended (.message head text) left := hended
    unfold trailers at htrailers
    split at htrailers
    next rest hdrop =>
      rw [left_of_finish htrailers]
      exact length_lt_of_unended hd hdrop
    next => cases htrailers

end Decoder

end HttpService
