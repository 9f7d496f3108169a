import HttpService.Proofs.Wire.Spelled

/-!
# What a reader holds while it waits

A reader issues a read when the octets in its buffer are not enough. The limits bound what it holds then where they are
tested before more is waited for: an unfinished head, a body of a known length, a chunk, and a body that lasts to the
end of the stream. In a size line and in the lines behind the last chunk nothing is tested. There the buffer is one line
without its end, and grows as long as the peer sends no line end.

* `Stage.Tested` — what a decoder that waits owes to the limits. Each step keeps it (`tested_receive`), so each read is
  issued under it.
* `Reader.held_of_asks` — what is held are the last octets that have come.
* `Reader.asks_bounded` — what is held at each read, for requests and for responses.
* `Reader.exists_asks_unendingLine` — a size line without an end makes a reader hold any number of octets.
-/

namespace HttpService

variable {H : Type}

/-! ## Lines without an end -/

/-- A size line that is waited for has no line end in it, wherever in the line the scan stopped. -/
theorem ChunkSize.not_lineEnd_of_short {part : SizePart} {size : Nat} {bs : Octets}
    (h : scanFrom part size bs = .short) : ¬ [13, 10] <:+: bs := by
  fun_induction scanFrom part size bs with
  | case1 => decide
  | case2 => decide
  | case3 => cases h
  | case4 => cases h
  | case5 part size b bs h13 h1310 hb part' size' hstep ih =>
    intro hinfix
    rcases List.infix_cons_iff.mp hinfix with hfront | hinfix
    · -- A line end in front would begin with the octet that was just read.
      have hb13 : (13 : UInt8) = b := (List.cons_prefix_cons.mp hfront).1
      exact hb (by simp [← hb13])
    · exact ih h hinfix
  | case6 => cases h

/-- Any octet but CR stands in an extension. -/
theorem ChunkSize.scanFrom_extension {bs : Octets} (h : 13 ∉ bs) (size : Nat) :
    scanFrom .extension size bs = .short := by
  induction bs with
  | nil => rfl
  | cons b bs ih =>
    have hb : b ≠ 13 := fun e => h (by simp [e])
    rw [scanFrom_cons .extension size hb]
    exact ih fun hmem => h (List.mem_cons_of_mem b hmem)

namespace Decoder

/-- Where lines are dropped something is gone, and nothing is gone of a line that is not complete. -/
theorem line_of_unended {line left : Octets} {fresh : Bool} {bs : Octets}
    (h : dropLines line fresh bs = .unended left) :
    left = line ∧ ¬ [13, 10] <:+: bs ∨ left.length < bs.length := by
  -- Once a line is dropped, fewer octets are left, and the lines behind it leave no more than that.
  fun_induction dropLines line fresh bs with
  | case1 => exact .inl ⟨(Trailers.unended.inj h).symm, by decide⟩
  | case2 line fresh b =>
    have hlen : ¬ [13, 10] <:+: [b] := fun hinfix => absurd hinfix.length_le (by simp)
    exact .inl ⟨(Trailers.unended.inj h).symm, hlen⟩
  | case3 => cases h
  | case4 line rest fresh hfresh ih =>
    -- From here on the line begins behind the line end.
    right
    rcases ih h with ⟨rfl, -⟩ | hlt
    · simp only [List.length_cons]
      omega
    · simp only [List.length_cons]
      omega
  | case5 line fresh b rest hnil hcrlf ih =>
    rcases ih h with ⟨hleft, hnone⟩ | hlt
    · refine .inl ⟨hleft, fun hinfix => ?_⟩
      rcases List.infix_cons_iff.mp hinfix with ⟨behind, hfront⟩ | hinfix
      · obtain ⟨hb, hrest⟩ := List.cons.inj hfront
        exact hcrlf behind hb.symm hrest.symm
      · exact hnone hinfix
    · right
      simp only [List.length_cons]
      omega

end Decoder

/-! ## What the limits have let through -/

/-- The decoder is in a line of a body in chunks: a size line, or one behind the last chunk. -/
def Stage.InLine : Stage H → Prop
  | .chunkSize _ _ | .trailers _ _ => True
  | .head | .sized _ _ | .open _ | .chunk _ _ _ => False

/-- The limits have been tested on what the decoder holds or waits for. -/
def Stage.Tested (limits : Limits) (buffer : Octets) : Stage H → Prop
  | .head => buffer.length ≤ limits.head
  | .sized _ n => n ≤ limits.body
  | .open _ => buffer.length ≤ limits.head + limits.body + Reader.readSize
  | .chunk _ _ size => size ≤ limits.body
  | .chunkSize _ _ | .trailers _ _ => True

/-- A step leads to an end, or to waiting under the limits. -/
def Progress.Tested (limits : Limits) : Progress H → Prop
  | .wants d => d.stage.Tested limits d.buffer
  | .ended _ _ => True

namespace Decoder

variable {form : Form H} {limits : Limits}

/-- A message that has ended owes nothing more. -/
theorem tested_finish (head : H) (body left : Octets) : (finish head body left).Tested limits := by
  unfold finish
  split
  · trivial
  · trivial

/-- The length of a body was tested when the head announced it. -/
theorem tested_sized {n : Nat} (h : n ≤ limits.body) (head : H) (buffer : Octets) :
    (sized head n buffer).Tested limits := by
  unfold sized
  split
  · exact h
  · exact tested_finish head _ _

/-- Among trailers nothing is owed, for nothing is tested there. -/
theorem tested_trailers (head : H) (body buffer : Octets) : (trailers head body buffer).Tested limits := by
  unfold trailers
  split
  · exact tested_finish head _ _
  · trivial

/-- A chunk that is waited for is within the limit: its end fits a count, and then the sum that was tested is no smaller
than its size. -/
theorem size_le_of_not_isTooMuch {body : Octets} {size : Nat} (hmuch : ¬ isTooMuch limits body size = true)
    (hcount : ¬ countBound ≤ size + 2) : size ≤ limits.body := by
  simp only [isTooMuch, decide_eq_true_eq, Nat.not_lt] at hmuch
  omega

/-- A chunk is let through or refused before it is waited for. Of the size lines between chunks nothing is asked. -/
theorem tested_chunks (head : H) (body buffer : Octets) : (chunks limits head body buffer).Tested limits := by
  fun_induction chunks limits head body buffer with
  | case3 body buffer rest hscan => exact tested_trailers head body rest
  | case6 body buffer size rest hscan hsize hmuch hcount htake => exact size_le_of_not_isTooMuch hmuch hcount
  | case8 body buffer size rest hscan hsize hmuch hcount data rest' htake ih => exact ih
  | _ => trivial

/-- Entering a body: what came with the head may lie behind it untested, and is within the bound of a body that stays
open. -/
theorem tested_body {buffer : Octets} (hbuffer : buffer.length ≤ limits.head + limits.body + Reader.readSize)
    (head : H) (framing : Framing) : (body limits head framing buffer).Tested limits := by
  cases framing with
  | none => trivial
  | length n =>
    simp only [body]
    split
    next => trivial
    next hfits => exact tested_sized (Nat.not_lt.mp hfits) head buffer
  | untilEnd => exact hbuffer
  | chunked => exact tested_chunks head [] buffer

/-- The head is tested at each end that its scan comes to but refusal, and in the same step the body is entered. -/
theorem tested_advance_head (hs : form.scan.Suffix) {buffer : Octets}
    (hbuffer : buffer.length ≤ limits.head + limits.body + Reader.readSize) :
    (advance form limits ⟨.head, buffer⟩).Tested limits := by
  -- What was left behind a head is shorter than all of it.
  cases hscan : form.scan buffer with
  | done head rest =>
    have hrest := (hs _ _ _ hscan).length_le
    rw [advance_of_done hscan]
    split
    · trivial
    · split
      next framing hframing => exact tested_body (Nat.le_trans hrest hbuffer) head framing
      next => trivial
  | failed fault =>
    rw [advance_of_failed hscan]
    trivial
  | short =>
    rw [advance_of_short hscan]
    split
    next => trivial
    next hfits => exact Nat.not_lt.mp hfits

/-- A chunk that was let through stays so while it is waited for. -/
theorem tested_chunk (form : Form H) {size : Nat} (h : size ≤ limits.body) (head : H) (body buffer : Octets) :
    (advance form limits ⟨.chunk head body size, buffer⟩).Tested limits := by
  rw [advance_chunk]
  cases takeChunk size buffer with
  | short => exact h
  | unclosed => trivial
  | taken data rest => exact tested_chunks head _ rest

/-- What arrives is measured with what there was before the next read, where anything is. -/
theorem tested_advance (hs : form.scan.Suffix) {stage : Stage H} {buffer arrived : Octets}
    (hstage : ∀ head, stage ≠ .open head) (h : stage.Tested limits buffer)
    (harrived : arrived.length ≤ Reader.readSize) :
    (advance form limits ⟨stage, buffer ++ arrived⟩).Tested limits := by
  cases stage with
  -- A head is tested when it ends, so what it leaves is bounded by the limits and the last read.
  | head =>
    have hhead : buffer.length ≤ limits.head := h
    have hbuffer : (buffer ++ arrived).length ≤ limits.head + limits.body + Reader.readSize := by
      rw [List.length_append]
      omega
    exact tested_advance_head hs hbuffer
  | sized head n => exact tested_sized h head (buffer ++ arrived)
  | «open» head => exact absurd rfl (hstage head)
  | chunkSize head body => exact tested_chunks head body (buffer ++ arrived)
  | chunk head body size => exact tested_chunk form h head body (buffer ++ arrived)
  | trailers head body => exact tested_trailers head body (buffer ++ arrived)

end Decoder

namespace Reader

variable {form : Form H} {limits : Limits}

/-- **A reader that waits on after a read** got some octets. A body that lasts to the end of the stream takes them up to
its limit, and in any other stage they are looked at together with those that were there. -/
theorem receive_eq_wants {d d' : Decoder H} {r : Read} (h : receive form limits d r = .wants d') :
    ∃ arrived, r = .data arrived ∧
      ((∃ head, d' = ⟨.open head, d.buffer ++ arrived⟩ ∧ d'.buffer.length ≤ limits.body) ∨
        (∀ head, d.stage ≠ .open head) ∧ Decoder.advance form limits ⟨d.stage, d.buffer ++ arrived⟩ = .wants d') := by
  obtain ⟨stage, buffer⟩ := d
  rcases r with (_ | ⟨b, bs⟩) | cause | _
  · -- The end of the stream is the end of the message as well.
    obtain ⟨how, left, hend⟩ := exists_atEnd (⟨stage, buffer⟩ : Decoder H)
    rw [show receive form limits ⟨stage, buffer⟩ (.data []) = .ended how left from hend] at h
    cases h
  · refine ⟨b :: bs, rfl, ?_⟩
    -- A body that stays open is measured and not cut; in any other stage the decoder goes on.
    by_cases hstage : ∃ head, stage = .open head
    · obtain ⟨head, rfl⟩ := hstage
      have hfeed : (if limits.body < (buffer ++ b :: bs).length then _ else _ : Progress H) = .wants d' := h
      split at hfeed
      next => cases hfeed
      next hfits =>
        obtain rfl := Progress.wants.inj hfeed
        exact .inl ⟨head, rfl, Nat.not_lt.mp hfits⟩
    · have hclosed := not_exists.mp hstage
      rw [receive_data form limits hclosed buffer (List.cons_ne_nil b bs)] at h
      exact .inr ⟨hclosed, h⟩
  · cases h
  · cases h

/-- **A read keeps to the limits** where they are tested, and the reader waits on where it has not found what it
waits for. -/
theorem tested_receive (hs : form.scan.Suffix) {d d' : Decoder H} (hd : d.stage.Tested limits d.buffer) {r : Read}
    (hr : r.size ≤ readSize) (h : receive form limits d r = .wants d') :
    d'.stage.Tested limits d'.buffer ∧ d'.Waits form := by
  obtain ⟨arrived, rfl, ⟨head, rfl, hfits⟩ | ⟨hstage, hadvance⟩⟩ := receive_eq_wants h
  · have hopen : (d.buffer ++ arrived).length ≤ limits.head + limits.body + readSize := by
      have hbody : (d.buffer ++ arrived).length ≤ limits.body := hfits
      omega
    exact ⟨hopen, trivial⟩
  · have htested := Decoder.tested_advance hs hstage hd hr
    have hwaits : Decoder.WaitsAfter form (Decoder.advance form limits ⟨d.stage, d.buffer ++ arrived⟩) :=
      Decoder.waitsAfter_advance limits _
    rw [hadvance] at htested hwaits
    exact ⟨htested, hwaits⟩

/-- What is held after a read are the last of the octets that were there and those that it brought. -/
theorem held_receive (hs : form.scan.Suffix) {d d' : Decoder H} {r : Read}
    (h : receive form limits d r = .wants d') : d'.buffer <:+ d.buffer ++ r.octets := by
  obtain ⟨arrived, rfl, ⟨head, rfl, -⟩ | ⟨-, hadvance⟩⟩ := receive_eq_wants h
  · exact List.suffix_rfl
  · have hheld := Decoder.held_advance hs limits ⟨d.stage, d.buffer ++ arrived⟩
    rw [hadvance] at hheld
    exact hheld

/-! ## Reads that are issued -/

/-- After these reads the reader issues another one, with this decoder. -/
def Asks (form : Form H) (limits : Limits) (buffer : Octets) (reads : List Read) (d : Decoder H) : Prop :=
  readSome form limits ((Decoder.start buffer).advance form limits) reads = (.wants d, [])

/-- What holds of a decoder that waits first and is kept by each read holds of the one that waits last. -/
theorem readSome_keeps {P : Decoder H → Prop} {p : Progress H} {reads : List Read} {d : Decoder H}
    (h : readSome form limits p reads = (.wants d, [])) (hfirst : ∀ d, p = .wants d → P d)
    (hstep : ∀ d d', ∀ r ∈ reads, P d → receive form limits d r = .wants d' → P d') : P d := by
  fun_induction readSome form limits p reads with
  | case1 => cases (Prod.mk.inj h).1
  | case2 => exact hfirst d (Prod.mk.inj h).1
  | case3 d₀ r reads ih =>
    have hd₀ := hfirst d₀ rfl
    exact ih h (fun d' hd' => hstep d₀ d' r List.mem_cons_self hd₀ hd')
      fun d d' r' hr' => hstep d d' r' (List.mem_cons_of_mem r hr')

/-- Reads that came before a place may be taken off: what comes later depends on the decoder that waits there. -/
theorem readOn_of_readSome {p : Progress H} {reads : List Read} {d : Decoder H}
    (h : readSome form limits p reads = (.wants d, [])) (more : List Read) :
    readOn form limits p (reads ++ more) = readOn form limits (.wants d) more := by
  fun_induction readSome form limits p reads with
  | case1 => cases (Prod.mk.inj h).1
  | case2 =>
    obtain rfl := Progress.wants.inj (Prod.mk.inj h).1
    rfl
  | case3 d' r reads ih =>
    rw [List.cons_append, readOn]
    exact ih h

theorem read_of_asks {buffer : Octets} {reads : List Read} {d : Decoder H}
    (h : Asks form limits buffer reads d) (more : List Read) :
    read form limits buffer (reads ++ more) = readOn form limits (.wants d) more :=
  readOn_of_readSome h more

/-- By induction on the reads: each one puts its octets behind those held, and a step takes from the front only. -/
theorem held_of_readSome (hs : form.scan.Suffix) {p : Progress H} {reads : List Read} {d : Decoder H}
    (h : readSome form limits p reads = (.wants d, [])) : d.buffer <:+ p.held ++ reads.flatMap Read.octets := by
  fun_induction readSome form limits p reads with
  | case1 => cases (Prod.mk.inj h).1
  | case2 =>
    obtain rfl := Progress.wants.inj (Prod.mk.inj h).1
    rw [List.flatMap_nil, List.append_nil]
    exact List.suffix_rfl
  | case3 d' r reads ih =>
    cases hreceive : receive form limits d' r with
    | ended how left =>
      rw [hreceive, readSome] at h
      cases (Prod.mk.inj h).1
    | wants d'' =>
      -- What this read leaves stands before all that comes later.
      obtain ⟨used, hused⟩ := held_receive hs hreceive
      refine (ih h).trans ⟨used, ?_⟩
      rw [hreceive, ← List.append_assoc]
      show (used ++ d''.buffer) ++ _ = _
      rw [hused, List.flatMap_cons, ← List.append_assoc]
      rfl

/-- What is held at a read are the last of all the octets that have come. -/
theorem held_of_asks (hs : form.scan.Suffix) {buffer : Octets} {reads : List Read} {d : Decoder H}
    (h : Asks form limits buffer reads d) : d.buffer <:+ buffer ++ reads.flatMap Read.octets := by
  obtain ⟨used, hused⟩ := Decoder.held_advance hs limits (Decoder.start buffer)
  refine (held_of_readSome hs h).trans ⟨used, ?_⟩
  rw [← List.append_assoc, hused]
  rfl

/-- A read is issued where the limits have been tested and the octets at hand are not enough. -/
theorem tested_of_asks (hs : form.scan.Suffix) {buffer : Octets} {reads : List Read} {d : Decoder H}
    (hbuffer : buffer.length ≤ limits.head + limits.body + readSize) (hreads : ∀ r ∈ reads, r.size ≤ readSize)
    (h : Asks form limits buffer reads d) : d.stage.Tested limits d.buffer ∧ d.Waits form := by
  -- What is kept along the reads is both: the limits have been tested, and the octets at hand are not enough.
  refine readSome_keeps h (fun d hd => ?_) fun d d' r hr hd hreceive => tested_receive hs hd.1 (hreads r hr) hreceive
  have htested := Decoder.tested_advance_head hs hbuffer
  have hwaits : Decoder.WaitsAfter form ((Decoder.start buffer).advance form limits) :=
    Decoder.waitsAfter_advance limits _
  rw [Decoder.start] at hd hwaits
  rw [hd] at htested hwaits
  exact ⟨htested, hwaits⟩

end Reader

/-! ## What is held -/

namespace Decoder

variable {form : Form H} {limits : Limits}

/-- A chunk is waited for as long as it, or its line end, is not all there. -/
theorem length_lt_of_takeChunk_eq_short {size : Nat} {buffer : Octets} (h : takeChunk size buffer = .short) :
    buffer.length < size + 2 := by
  unfold takeChunk at h
  split at h
  next hlen => exact hlen
  next =>
    split at h
    · cases h
    · cases h

/-- Outside of those lines a decoder that waits holds no more than the limits and one read. -/
theorem length_le_of_tested {d : Decoder H} (hd : d.stage.Tested limits d.buffer) (hwaits : d.Waits form)
    (hline : ¬ d.stage.InLine) : d.buffer.length ≤ limits.head + limits.body + Reader.readSize := by
  obtain ⟨stage, buffer⟩ := d
  have hread : 1 ≤ Reader.readSize := by decide
  cases stage with
  | head =>
    have hfits : buffer.length ≤ limits.head := hd
    show buffer.length ≤ _
    omega
  | sized head n =>
    have hfits : n ≤ limits.body := hd
    have hshort : buffer.length < n := hwaits
    show buffer.length ≤ _
    omega
  | «open» head => exact hd
  | chunkSize head body => exact absurd trivial hline
  | chunk head body size =>
    -- The line end behind the chunk is waited for as well.
    have hfits : size ≤ limits.body := hd
    have hshort := length_lt_of_takeChunk_eq_short hwaits
    show buffer.length ≤ _
    omega
  | trailers head body => exact absurd trivial hline

/-- In those lines a decoder that waits holds a line without its end. -/
theorem not_lineEnd_of_waits {d : Decoder H} (hwaits : d.Waits form) (hline : d.stage.InLine) :
    ¬ [13, 10] <:+: d.buffer := by
  obtain ⟨stage, buffer⟩ := d
  cases stage with
  | chunkSize head body => exact ChunkSize.not_lineEnd_of_short hwaits
  | trailers head body =>
    rcases line_of_unended hwaits with ⟨-, hnone⟩ | hlt
    · exact hnone
    · exact absurd hlt (Nat.lt_irrefl _)
  | head => exact absurd hline id
  | sized head n => exact absurd hline id
  | «open» head => exact absurd hline id
  | chunk head body size => exact absurd hline id

end Decoder

/-! ## A line that goes on -/

namespace Reader

/-- A size line in its extension takes piece after piece. Nothing in the way of this looks at a limit. -/
theorem readSome_extension (form : Form H) (limits : Limits) (head : H) (body : Octets) {line : Octets}
    (hline : 13 ∉ line) {pieces : List Octets} (hpieces : ∀ c ∈ pieces, c ≠ [] ∧ 13 ∉ c) :
    readSome form limits (.wants ⟨.chunkSize head body, octet ';' :: line⟩) (pieces.map .data) =
      (.wants ⟨.chunkSize head body, octet ';' :: line ++ pieces.flatten⟩, []) := by
  -- The line grows with each piece and is looked at from its beginning again, so the induction is for any line.
  induction pieces generalizing line with
  | nil => rw [List.map_nil, readSome, List.flatten_nil, List.append_nil]
  | cons c cs ih =>
    obtain ⟨hne, hc⟩ := hpieces c List.mem_cons_self
    have hmore : 13 ∉ line ++ c := by
      rw [List.mem_append, not_or]
      exact ⟨hline, hc⟩
    have hscan : ChunkSize.scan (octet ';' :: (line ++ c)) = .short := by
      rw [ChunkSize.scan, ChunkSize.scanFrom_cons (.digits 0) 0 (by decide)]
      exact ChunkSize.scanFrom_extension hmore 0
    have hreceive : receive form limits ⟨.chunkSize head body, octet ';' :: line⟩ (.data c) =
        .wants ⟨.chunkSize head body, octet ';' :: (line ++ c)⟩ := by
      rw [receive_data form limits (fun _ h => by cases h) _ hne]
      exact Decoder.chunks_of_short hscan head
    rw [List.map_cons, readSome, hreceive, ih hmore fun c' hc' => hpieces c' (List.mem_cons_of_mem c hc')]
    rw [List.flatten_cons, List.cons_append, List.cons_append, List.append_assoc]

/-- The reads of a peer that begins a request in chunks and then does not end the first size line. -/
def unendingLine (count : Nat) : List Read :=
  .data (octets "POST / HTTP/1.1\r\nTransfer-Encoding: chunked\r\n\r\n;") ::
    (List.replicate count (List.replicate readSize (octet 'a'))).map .data

/-- Such a peer does nothing out of the way: each of its reads is of the size that a reader asks for. -/
theorem size_le_of_mem_unendingLine {count : Nat} {r : Read} (h : r ∈ unendingLine count) : r.size ≤ readSize := by
  rcases List.mem_cons.mp h with rfl | h
  · decide
  · obtain ⟨c, hc, rfl⟩ := List.mem_map.mp h
    refine Nat.le_of_eq ?_
    rw [List.eq_of_mem_replicate hc, Read.size, List.length_replicate]

/-- Under any limits that let the head through, such a peer is waited for with all that it has sent of the line. -/
theorem exists_asks_unendingLine {limits : Limits} (hlimit : 47 ≤ limits.head) (count : Nat) :
    ∃ d, Asks .request limits [] (unendingLine count) d ∧ d.buffer.length = 1 + count * readSize := by
  obtain ⟨head, hbegins⟩ : ∃ head, Form.request.Begins limits
      (octets "POST / HTTP/1.1\r\nTransfer-Encoding: chunked\r\n\r\n;") head [octet ';'] .chunked :=
    ⟨_, rfl, hlimit, rfl⟩
  have hstart : Decoder.advance .request limits (Decoder.start []) = .wants ⟨.head, []⟩ := by
    rw [Decoder.start, Decoder.advance_of_short rfl]
    exact if_neg (Nat.not_lt_zero _)
  -- The first read is the head and the mark that begins an extension, after which the size line has not ended.
  have hfirst : receive .request limits ⟨.head, []⟩
        (.data (octets "POST / HTTP/1.1\r\nTransfer-Encoding: chunked\r\n\r\n;")) =
      .wants ⟨.chunkSize head [], [octet ';']⟩ := by
    rw [receive_data .request limits (fun _ h => by cases h) [] (by decide), List.nil_append,
      Decoder.advance_of_begins hbegins]
    exact Decoder.chunks_of_short rfl head
  -- No read behind it holds the octet that could end the line.
  have hpieces : ∀ c ∈ List.replicate count (List.replicate readSize (octet 'a')), c ≠ [] ∧ 13 ∉ c := by
    intro c hc
    rw [List.eq_of_mem_replicate hc]
    refine ⟨fun hnil => ?_, fun hmem => absurd (List.eq_of_mem_replicate hmem) (by decide)⟩
    have hlength := congrArg List.length hnil
    rw [List.length_replicate] at hlength
    cases hlength
  have hasks : Asks .request limits [] (unendingLine count)
      ⟨.chunkSize head [], [octet ';'] ++ (List.replicate count (List.replicate readSize (octet 'a'))).flatten⟩ := by
    rw [Asks, hstart, unendingLine, readSome, hfirst]
    exact readSome_extension .request limits head [] List.not_mem_nil hpieces
  refine ⟨_, hasks, ?_⟩
  rw [List.length_append, List.length_singleton, List.length_flatten, List.map_replicate, List.length_replicate,
    List.sum_replicate_nat]

end Reader

/-! ## What is held at a read -/

/-- The decoder waits for the end of this line of a body in chunks, and holds nothing else. -/
structure Decoder.AwaitsLineEnd (d : Decoder H) (line : Octets) : Prop where
  inLine : d.stage.InLine
  held : d.buffer = line
  unended : ¬ [13, 10] <:+: line

/-- What a decoder holds that waits under these limits, after these octets: no more than the limits and one read, unless
it waits for the end of a line of a body in chunks. It holds more than the limits and two reads exactly if such a line,
the last of the octets, is longer than that. -/
structure Decoder.Bounded (limits : Limits) (seen : Octets) (d : Decoder H) : Prop where
  length_le : (¬ ∃ line, d.AwaitsLineEnd line) → d.buffer.length ≤ limits.head + limits.body + Reader.readSize
  exceeds_iff : limits.head + limits.body + 2 * Reader.readSize < d.buffer.length ↔
    ∃ line, line <:+ seen ∧ d.AwaitsLineEnd line ∧ limits.head + limits.body + 2 * Reader.readSize < line.length

namespace Reader

/-- For either kind of message: the stage tells which of the two bounds applies. -/
theorem bounded_of_asks {form : Form H} (hf : form.scan.Complete) {limits : Limits} {buffer : Octets}
    {reads : List Read} {d : Decoder H} (hbuffer : buffer.length ≤ limits.head + limits.body + readSize)
    (hreads : ∀ r ∈ reads, r.size ≤ readSize) (h : Asks form limits buffer reads d) :
    d.Bounded limits (buffer ++ reads.flatMap Read.octets) := by
  obtain ⟨htested, hwaits⟩ := tested_of_asks hf.suffix hbuffer hreads h
  -- A decoder that waits inside a line has seen no line end, so its whole buffer is that line.
  have hline : d.stage.InLine → d.AwaitsLineEnd d.buffer := fun hin =>
    ⟨hin, rfl, Decoder.not_lineEnd_of_waits hwaits hin⟩
  refine ⟨fun hnone => ?_, fun hlong => ?_, ?_⟩
  · exact Decoder.length_le_of_tested htested hwaits fun hin => hnone ⟨d.buffer, hline hin⟩
  · have hin : d.stage.InLine := by
      refine Classical.byContradiction fun hnot => ?_
      have hfits := Decoder.length_le_of_tested htested hwaits hnot
      omega
    exact ⟨d.buffer, held_of_asks hf.suffix h, hline hin, hlong⟩
  · rintro ⟨line, -, hawaits, hlong⟩
    rwa [hawaits.held]

/-- **What is held at each read.** If a reader starts with no more than the limits and one read, and no read brings more
than `readSize` octets, then at every read that it issues it holds no more than the limits and one read, in every phase
of a message but two. In a size line and in the lines behind the last chunk it holds the unfinished line, however long
that is, for a request as for a response. -/
theorem asks_bounded (limits : Limits) {buffer : Octets} {reads : List Read}
    (hbuffer : buffer.length ≤ limits.head + limits.body + readSize) (hreads : ∀ r ∈ reads, r.size ≤ readSize) :
    (∀ d, Asks .request limits buffer reads d → d.Bounded limits (buffer ++ reads.flatMap Read.octets)) ∧
      ∀ m d, Asks (.response m) limits buffer reads d →
        d.Bounded limits (buffer ++ reads.flatMap Read.octets) := by
  refine ⟨fun d h => ?_, fun m d h => ?_⟩
  · exact bounded_of_asks Head.complete_requestHead hbuffer hreads h
  · exact bounded_of_asks Head.complete_responseHead hbuffer hreads h

/-- A reader with a body limit of five octets waits inside the first size line of a request. -/
theorem asks_bounded_in_size_line :
    let limits : Limits := ⟨64, 5⟩
    let seen := [] ++ (unendingLine 1).flatMap Read.octets
    ([] : Octets).length ≤ limits.head + limits.body + readSize ∧ (∀ r ∈ unendingLine 1, r.size ≤ readSize) ∧
      ∃ d, Asks .request limits [] (unendingLine 1) d ∧ d.Bounded limits seen := by
  intro limits seen
  have hbuffer : ([] : Octets).length ≤ limits.head + limits.body + readSize := Nat.zero_le _
  have hreads : ∀ r ∈ unendingLine 1, r.size ≤ readSize := fun r hr => size_le_of_mem_unendingLine hr
  have hlimit : 47 ≤ limits.head := by decide
  obtain ⟨d, hasks, -⟩ := exists_asks_unendingLine hlimit 1
  exact ⟨hbuffer, hreads, d, hasks, (asks_bounded limits hbuffer hreads).1 d hasks⟩

/-- Three reads into such a line, more is held than the limits and two reads. -/
theorem holds_more_than_limits :
    let limits : Limits := ⟨64, 0⟩
    (∀ r ∈ unendingLine 3, r.size ≤ readSize) ∧
      ∃ d, Asks .request limits [] (unendingLine 3) d ∧
        limits.head + limits.body + 2 * readSize < d.buffer.length := by
  intro limits
  have hlimit : 47 ≤ limits.head := by decide
  obtain ⟨d, hasks, hlength⟩ := exists_asks_unendingLine hlimit 3
  refine ⟨fun r hr => size_le_of_mem_unendingLine hr, d, hasks, ?_⟩
  rw [hlength]
  decide

end Reader

end HttpService
