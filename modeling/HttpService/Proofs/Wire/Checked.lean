import HttpService.Proofs.Wire.Spelled

/-!
# Counts and bounds

A reader computes with counts of 64 bits and takes octets out of its buffer by their places. The reader is written here
once more with every sum and every place tested before use (`Checked.read`): where a test fails it is trapped. It turns
out that it is the same reader, and trapped only where that breaks off: at a chunk whose end no count holds.

* `Checked.advance_eq` — one step of a decoder is never trapped but there.
* `Reader.Counted` — the buffers that are held on the way are as long as a buffer can be.
* `Reader.OversizedAhead` — what comes has a chunk whose end no count holds, and that the limit lets through.
* `Checked.read_trapped_iff` — reading is trapped exactly there, in an addition, and otherwise gives what it gives.
-/

namespace HttpService

/-- An operation without a result. -/
inductive Trap where
  /-- A sum that no count holds. -/
  | addition
  /-- Octets that are not in the buffer. -/
  | slice
  /-- A split behind the end of the buffer. -/
  | split
  /-- An advance beyond the end of the buffer. -/
  | advance
deriving DecidableEq

namespace Checked

/-! ## Operations -/

/-- A sum of counts. -/
def add (a b : Nat) : Except Trap Nat := if countBound ≤ a + b then .error .addition else .ok (a + b)

/-- The octets between two places. -/
def slice (bs : Octets) (start stop : Nat) : Except Trap Octets :=
  if start ≤ stop ∧ stop ≤ bs.length then .ok ((bs.take stop).drop start) else .error .slice

/-- The first octets, and those behind them. -/
def splitTo (bs : Octets) (n : Nat) : Except Trap (Octets × Octets) :=
  if n ≤ bs.length then .ok (bs.take n, bs.drop n) else .error .split

/-- The octets behind the first ones. -/
def skip (bs : Octets) (n : Nat) : Except Trap Octets := if n ≤ bs.length then .ok (bs.drop n) else .error .advance

theorem add_of_lt {a b : Nat} (h : a + b < countBound) : add a b = .ok (a + b) := if_neg (Nat.not_le.mpr h)

/-- The one way in which a sum is trapped. -/
theorem add_of_le {a b : Nat} (h : countBound ≤ a + b) : add a b = .error .addition := if_pos h

/-- Places in order and within the buffer may be asked for. -/
theorem slice_of_le {bs : Octets} {start stop : Nat} (h : start ≤ stop) (h' : stop ≤ bs.length) :
    slice bs start stop = .ok ((bs.take stop).drop start) := if_pos ⟨h, h'⟩

/-- A split within the buffer is one into its first octets and the others. -/
theorem splitTo_of_le {bs : Octets} {n : Nat} (h : n ≤ bs.length) : splitTo bs n = .ok (bs.take n, bs.drop n) :=
  if_pos h

theorem skip_of_le {bs : Octets} {n : Nat} (h : n ≤ bs.length) : skip bs n = .ok (bs.drop n) := if_pos h

/-- What a scanner has used is skipped, and what it has left is there. -/
theorem skip_of_suffix {bs rest : Octets} (h : rest <:+ bs) : skip bs (bs.length - rest.length) = .ok rest := by
  rw [skip_of_le (Nat.sub_le _ _), ← List.suffix_iff_eq_drop.mp h]

/-- What was skipped had been there. -/
theorem length_of_skip {bs rest : Octets} {n : Nat} (h : skip bs n = .ok rest) : rest.length + n = bs.length := by
  unfold skip at h
  split at h
  next hle =>
    obtain rfl := Except.ok.inj h
    rw [List.length_drop]
    omega
  next => cases h

/-! ## A checked decoder

The steps are those of `Decoder`, under the same names. -/

variable {H : Type}

def sized (head : H) (length : Nat) (buffer : Octets) : Except Trap (Progress H) :=
  if buffer.length < length then .ok (.wants ⟨.sized head length, buffer⟩)
  else do
    let (body, rest) ← splitTo buffer length
    return Decoder.finish head body rest

/-- The place of the first line end. -/
def lineEnd? : Octets → Option Nat
  | 13 :: 10 :: _ => some 0
  | _ :: rest => (lineEnd? rest).map (· + 1)
  | [] => none

/-- What is behind a line of this length and its end. -/
def dropLine (buffer : Octets) (length : Nat) : Except Trap Octets := do skip buffer (← add length 2)

/-- A line takes its line end with it, so passing over trailers ends. -/
theorem length_lt_of_dropLine {buffer rest : Octets} {length : Nat} (h : dropLine buffer length = .ok rest) :
    rest.length < buffer.length := by
  unfold dropLine add at h
  split at h
  next => cases h
  next =>
    have hlength := length_of_skip h
    omega

def trailers (head : H) (body buffer : Octets) : Except Trap (Progress H) :=
  match lineEnd? buffer with
  | none => .ok (.wants ⟨.trailers head body, buffer⟩)
  -- The line is empty, and its end is the end of the message.
  | some 0 => do return Decoder.finish head body (← skip buffer 2)
  | some (n + 1) =>
    match _h : dropLine buffer (n + 1) with
    | .error t => .error t
    | .ok rest => trailers head body rest
termination_by buffer.length
decreasing_by exact length_lt_of_dropLine _h

def takeChunk (size : Nat) (buffer : Octets) : Except Trap Decoder.ChunkTaken := do
  -- A size that is let through is a count, but its end need not be one.
  if buffer.length < (← add size 2) then return .short
  let data ← slice buffer 0 size
  let close ← slice buffer size (← add size 2)
  if close = [13, 10] then return .taken data (← skip buffer (← add size 2))
  return .unclosed

/-- The trap: nothing is looked at before the sum, so it does not matter how much has arrived. -/
theorem takeChunk_of_le {size : Nat} (h : countBound ≤ size + 2) (buffer : Octets) :
    takeChunk size buffer = .error .addition := by
  rw [takeChunk, add_of_le h]
  rfl

/-- Where the sum fits, all the places asked for are within the buffer, for its length was compared with that sum. -/
theorem takeChunk_of_lt {size : Nat} (h : size + 2 < countBound) (buffer : Octets) :
    takeChunk size buffer = .ok (Decoder.takeChunk size buffer) := by
  unfold takeChunk Decoder.takeChunk
  simp only [add_of_lt h, bind, Except.bind, pure, Except.pure]
  by_cases hshort : buffer.length < size + 2
  · rw [if_pos hshort, if_pos hshort]
  · have hle : size + 2 ≤ buffer.length := Nat.not_lt.mp hshort
    -- The octets that close the chunk are found behind it, or in the slice that holds both.
    have hclose : (buffer.take (size + 2)).drop size = (buffer.drop size).take 2 := by
      rw [List.drop_take, Nat.add_sub_cancel_left]
    rw [if_neg hshort, if_neg hshort, slice_of_le (Nat.zero_le _) (Nat.le_of_add_right_le hle),
      slice_of_le (Nat.le_add_right _ _) hle, skip_of_le hle, hclose]
    simp only [List.drop_zero]
    split
    · rfl
    · rfl

/-- A chunk that is taken leaves no more than there was, trapped or not. -/
theorem length_le_of_takeChunk {size : Nat} {buffer data rest : Octets}
    (h : takeChunk size buffer = .ok (.taken data rest)) : rest.length ≤ buffer.length := by
  rcases Nat.lt_or_ge (size + 2) countBound with hlt | hge
  · rw [takeChunk_of_lt hlt] at h
    exact Decoder.length_le_of_takeChunk (Except.ok.inj h)
  · rw [takeChunk_of_le hge] at h
    cases h

def chunks (limits : Limits) (head : H) (body buffer : Octets) : Except Trap (Progress H) :=
  match _h : ChunkSize.scan buffer with
  | .short => .ok (.wants ⟨.chunkSize head body, buffer⟩)
  | .failed fault => .ok (Decoder.refuse fault buffer)
  | .done size left =>
    match _h' : skip buffer (buffer.length - left.length) with
    | .error t => .error t
    | .ok rest =>
      if size = 0 then trailers head body rest
      else if Decoder.isTooMuch limits body size then .ok (Decoder.refuse (.bodyTooLong limits.body) rest)
      else match _h'' : takeChunk size rest with
        | .error t => .error t
        | .ok .short => .ok (.wants ⟨.chunk head body size, rest⟩)
        | .ok .unclosed => .ok (Decoder.refuse .chunkWithoutEnd rest)
        | .ok (.taken data rest') => chunks limits head (body ++ data) rest'
termination_by buffer.length
decreasing_by
  have := ChunkSize.length_lt_of_scan _h
  have := length_of_skip _h'
  have := length_le_of_takeChunk _h''
  omega

def body (limits : Limits) (head : H) (framing : Framing) (buffer : Octets) : Except Trap (Progress H) :=
  match framing with
  | .none => .ok (.ended (.message head "") buffer)
  | .length n =>
    if limits.body < n then .ok (Decoder.refuse (.bodyTooLong limits.body) buffer) else sized head n buffer
  | .untilEnd => .ok (.wants ⟨.open head, buffer⟩)
  | .chunked => chunks limits head [] buffer

def advance (form : Form H) (limits : Limits) (d : Decoder H) : Except Trap (Progress H) :=
  match d.stage with
  | .head =>
    match form.scan d.buffer with
    | .done head left => do
      let consumed := d.buffer.length - left.length
      if limits.head < consumed then return Decoder.refuse (.headTooLong limits.head) d.buffer
      let rest ← skip d.buffer consumed
      match form.framing head with
      | .ok framing => body limits head framing rest
      | .error fault => return Decoder.refuse fault rest
    | .failed fault => .ok (Decoder.refuse fault d.buffer)
    | .short =>
      if limits.head < d.buffer.length then .ok (Decoder.refuse (.headTooLong limits.head) d.buffer) else .ok (.wants d)
  | .sized head length => sized head length d.buffer
  | .open _ => .ok (.wants d)
  | .chunkSize head body => chunks limits head body d.buffer
  | .chunk head body size => do
    match ← takeChunk size d.buffer with
    | .short => return .wants d
    | .unclosed => return Decoder.refuse .chunkWithoutEnd d.buffer
    | .taken data rest => chunks limits head (body ++ data) rest
  | .trailers head body => trailers head body d.buffer

def receive (form : Form H) (limits : Limits) (d : Decoder H) : Read → Except Trap (Progress H)
  | .data (b :: bs) =>
    match d.stage with
    -- A body that lasts to the end of the stream is neither cut nor added to.
    | .open _ => .ok (Reader.receive form limits d (.data (b :: bs)))
    | stage => advance form limits ⟨stage, d.buffer ++ (b :: bs)⟩
  | r => .ok (Reader.receive form limits d r)

def readOn (form : Form H) (limits : Limits) : Progress H → List Read → Except Trap (ReadResult H)
  | .wants d, r :: reads => do readOn form limits (← receive form limits d r) reads
  | p, reads => .ok (Reader.readOn form limits p reads)

def read (form : Form H) (limits : Limits) (buffer : Octets) (reads : List Read) : Except Trap (ReadResult H) := do
  readOn form limits (← advance form limits ⟨.head, buffer⟩) reads

end Checked

/-- What is trapped of a step: the end at which the reader breaks off. -/
def Progress.checked : Progress H → Except Trap (Progress H)
  | .ended .overflowed _ => .error .addition
  | p => .ok p

/-- The end of a chunk that is waited for fits a count. -/
def Stage.Counts : Stage H → Prop
  | .chunk _ _ size => size + 2 < countBound
  | _ => True

/-- The same of the decoder that waits. -/
def Progress.Counts : Progress H → Prop
  | .wants d => d.stage.Counts
  | .ended _ _ => True

/-- A step that does not break off is not trapped. -/
theorem Progress.checked_of_not_overflows {p : Progress H} (h : ¬ p.Overflows) : p.checked = .ok p := by
  cases p with
  | wants d => rfl
  | ended how left =>
    cases how with
    | overflowed => exact absurd trivial h
    | message head body => rfl
    | failed e => rfl

namespace Checked

/-! ## Line ends -/

/-- What does not begin with a line end has it one place further on. -/
theorem lineEnd?_cons {b : UInt8} {bs : Octets} (h : ∀ rest, b = 13 → bs = 10 :: rest → False) :
    lineEnd? (b :: bs) = (lineEnd? bs).map (· + 1) := by
  rw [lineEnd?]
  exact h

/-- A line end that was found is within the buffer, both octets of it. -/
theorem le_of_lineEnd? {bs : Octets} {n : Nat} (h : lineEnd? bs = some n) : n + 2 ≤ bs.length := by
  fun_induction lineEnd? bs generalizing n with
  | case1 rest =>
    obtain rfl := Option.some.inj h
    simp
  | case2 b rest hnot ih =>
    obtain ⟨m, hm, rfl⟩ := Option.map_eq_some_iff.mp h
    have := ih hm
    rw [List.length_cons]
    omega
  | case3 => cases h

/-- Dropping lines goes from one line end to the next. -/
theorem dropLines_eq (line : Octets) (fresh : Bool) (bs : Octets) :
    Decoder.dropLines line fresh bs =
      match lineEnd? bs with
      | none => .unended line
      | some 0 => if fresh then .ended (bs.drop 2) else Decoder.dropLines (bs.drop 2) true (bs.drop 2)
      | some (n + 1) => Decoder.dropLines (bs.drop (n + 3)) true (bs.drop (n + 3)) := by
  -- The loop of the source looks for the next line end, the decoder goes octet by octet: an octet that begins no line
  -- end moves both on by one.
  fun_induction Decoder.dropLines line fresh bs with
  | case1 line fresh => rfl
  | case2 line fresh b =>
    rw [lineEnd?_cons fun rest _ hrest => by cases hrest]
    rfl
  | case3 line rest => rfl
  | case4 line fresh rest hfresh => exact (if_neg hfresh).symm
  | case5 line fresh b rest _ hnot ih =>
    rw [lineEnd?_cons hnot, ih]
    cases lineEnd? rest with
    | none => rfl
    | some n =>
      cases n with
      | zero => rfl
      | succ n => rfl

/-- The sum behind a line end that was found fits, since it is no more than the length of a buffer. -/
theorem dropLine_of_lt {buffer : Octets} {n : Nat} (hle : n + 2 ≤ buffer.length) (hlen : buffer.length < countBound) :
    dropLine buffer n = .ok (buffer.drop (n + 2)) := by
  rw [dropLine, add_of_lt (Nat.lt_of_le_of_lt hle hlen)]
  exact skip_of_le hle

/-- **Dropping lines is never trapped.** -/
theorem trailers_eq (head : H) (body : Octets) {buffer : Octets} (hlen : buffer.length < countBound) :
    trailers head body buffer = (Decoder.trailers head body buffer).checked := by
  rw [Progress.checked_of_not_overflows (Decoder.plain_trailers head body buffer).2]
  fun_induction trailers head body buffer with
  | case1 buffer hend => rw [Decoder.trailers, dropLines_eq, hend]
  | case2 buffer hend =>
    rw [Decoder.trailers, dropLines_eq, hend, skip_of_le (le_of_lineEnd? hend)]
    rfl
  | case3 buffer n hend t hdrop =>
    -- A line end that was found is in the buffer.
    rw [dropLine_of_lt (le_of_lineEnd? hend) hlen] at hdrop
    cases hdrop
  | case4 buffer n hend rest hdrop ih =>
    rw [ih (Nat.lt_trans (length_lt_of_dropLine hdrop) hlen)]
    rw [dropLine_of_lt (le_of_lineEnd? hend) hlen] at hdrop
    obtain rfl := Except.ok.inj hdrop
    unfold Decoder.trailers
    rw [dropLines_eq buffer true buffer, hend]

/-! ## A step -/

/-- A body of known length is cut only once it is there. -/
theorem sized_eq (head : H) (length : Nat) (buffer : Octets) :
    sized head length buffer = (Decoder.sized head length buffer).checked := by
  rw [Progress.checked_of_not_overflows (Decoder.plain_sized head length buffer).2]
  unfold sized Decoder.sized
  by_cases hshort : buffer.length < length
  · rw [if_pos hshort, if_pos hshort]
  · rw [if_neg hshort, if_neg hshort, splitTo_of_le (Nat.not_lt.mp hshort)]
    rfl

/-- What a size line was used for is skipped without a trap, for a scanner leaves a suffix. -/
theorem chunks_of_done {limits : Limits} {body buffer rest : Octets} {size : Nat}
    (h : ChunkSize.scan buffer = .done size rest) (head : H) :
    chunks limits head body buffer =
      if size = 0 then trailers head body rest
      else if Decoder.isTooMuch limits body size then .ok (Decoder.refuse (.bodyTooLong limits.body) rest)
      else match takeChunk size rest with
        | .error t => .error t
        | .ok .short => .ok (.wants ⟨.chunk head body size, rest⟩)
        | .ok .unclosed => .ok (Decoder.refuse .chunkWithoutEnd rest)
        | .ok (.taken data rest') => chunks limits head (body ++ data) rest' := by
  -- The size line that was scanned is skipped, which cannot go beyond the buffer.
  have hskip := skip_of_suffix (ChunkSize.suffix_scan h)
  rw [chunks]
  split
  next e => rw [e] at h; cases h
  next e => rw [e] at h; cases h
  next size' left e =>
    rw [e] at h
    obtain ⟨rfl, rfl⟩ := Scanned.done.inj h
    split
    next e' => rw [hskip] at e'; cases e'
    next e' =>
      rw [hskip] at e'
      obtain rfl := Except.ok.inj e'
      split
      · rfl
      · split
        · rfl
        · split
          next e'' => rw [e'']
          next e'' => rw [e'']
          next e'' => rw [e'']
          next e'' => rw [e'']

/-- A size line that has not ended asks for no place. -/
theorem chunks_of_short {limits : Limits} {body buffer : Octets} (h : ChunkSize.scan buffer = .short) (head : H) :
    chunks limits head body buffer = .ok (.wants ⟨.chunkSize head body, buffer⟩) := by
  rw [chunks]
  split
  next => rfl
  next e => rw [e] at h; cases h
  next e => rw [e] at h; cases h

/-- Nor does one that is refused. -/
theorem chunks_of_failed {limits : Limits} {body buffer : Octets} {fault : MessageFault}
    (h : ChunkSize.scan buffer = .failed fault) (head : H) :
    chunks limits head body buffer = .ok (Decoder.refuse fault buffer) := by
  rw [chunks]
  split
  next e => rw [e] at h; cases h
  next e => rw [e] at h; rw [Scanned.failed.inj h]
  next e => rw [e] at h; cases h

/-- **Chunks are trapped only at one whose end no count holds.** -/
theorem chunks_eq (limits : Limits) (head : H) (body : Octets) {buffer : Octets} (hlen : buffer.length < countBound) :
    chunks limits head body buffer = (Decoder.chunks limits head body buffer).checked := by
  fun_induction Decoder.chunks limits head body buffer with
  | case1 body buffer hscan => exact chunks_of_short hscan head
  | case2 body buffer fault hscan => exact chunks_of_failed hscan head
  | case3 body buffer rest hscan =>
    have hrest := ChunkSize.length_lt_of_scan hscan
    rw [chunks_of_done hscan, if_pos rfl]
    exact trailers_eq head body (Nat.lt_trans hrest hlen)
  | case4 body buffer size rest hscan hsize hmuch =>
    rw [chunks_of_done hscan, if_neg hsize, if_pos hmuch]
    rfl
  | case5 body buffer size rest hscan hsize hmuch hbound =>
    -- Where the reader breaks off the sum is too large.
    rw [chunks_of_done hscan, if_neg hsize, if_neg hmuch, takeChunk_of_le hbound]
    rfl
  | case6 body buffer size rest hscan hsize hmuch hbound htake =>
    rw [chunks_of_done hscan, if_neg hsize, if_neg hmuch, takeChunk_of_lt (Nat.not_le.mp hbound), htake]
    rfl
  | case7 body buffer size rest hscan hsize hmuch hbound htake =>
    rw [chunks_of_done hscan, if_neg hsize, if_neg hmuch, takeChunk_of_lt (Nat.not_le.mp hbound), htake]
    rfl
  | case8 body buffer size rest hscan hsize hmuch hbound data rest' htake ih =>
    have hrest := ChunkSize.length_lt_of_scan hscan
    have hrest' := Decoder.length_le_of_takeChunk htake
    rw [chunks_of_done hscan, if_neg hsize, if_neg hmuch, takeChunk_of_lt (Nat.not_le.mp hbound), htake]
    exact ih (Nat.lt_of_le_of_lt hrest' (Nat.lt_trans hrest hlen))

/-- Whatever the framing, a body is read as the decoder reads it, or trapped at an oversized chunk. -/
theorem body_eq (limits : Limits) (head : H) (framing : Framing) {buffer : Octets} (hlen : buffer.length < countBound) :
    body limits head framing buffer = (Decoder.body limits head framing buffer).checked := by
  cases framing with
  | none => rfl
  | length n =>
    show (if limits.body < n then _ else _) = Progress.checked (if limits.body < n then _ else _)
    split
    · rfl
    · exact sized_eq head n buffer
  | untilEnd => rfl
  | chunked => exact chunks_eq limits head [] hlen

/-- **A step is trapped only at a chunk whose end no count holds**, and otherwise leads where it leads. -/
theorem advance_eq {form : Form H} (hf : form.scan.Complete) (limits : Limits) {d : Decoder H}
    (hlen : d.buffer.length < countBound) (hstage : d.stage.Counts) :
    advance form limits d = (Decoder.advance form limits d).checked := by
  obtain ⟨stage, buffer⟩ := d
  cases stage with
  | head =>
    cases hscan : form.scan buffer with
    | done head rest =>
      have hsuffix := hf.suffix _ _ _ hscan
      rw [Decoder.advance_of_done hscan]
      simp only [advance, hscan, skip_of_suffix hsuffix, bind, Except.bind, pure, Except.pure]
      split
      · rfl
      · cases form.framing head with
        | ok framing => exact body_eq limits head framing (Nat.lt_of_le_of_lt hsuffix.length_le hlen)
        | error fault => rfl
    | failed fault =>
      rw [Decoder.advance_of_failed hscan]
      simp only [advance, hscan]
      rfl
    | short =>
      rw [Decoder.advance_of_short hscan]
      simp only [advance, hscan]
      split
      · rfl
      · rfl
  | sized head length => exact sized_eq head length buffer
  | «open» head => rfl
  | chunkSize head body => exact chunks_eq limits head body hlen
  | chunk head body size =>
    -- The sum was made when the chunk was announced, and it fitted.
    rw [Decoder.advance_chunk]
    simp only [advance, takeChunk_of_lt hstage, bind, Except.bind, pure, Except.pure]
    cases htake : Decoder.takeChunk size buffer with
    | short => rfl
    | unclosed => rfl
    | taken data rest =>
      exact chunks_eq limits head (body ++ data) (Nat.lt_of_le_of_lt (Decoder.length_le_of_takeChunk htake) hlen)
  | trailers head body => exact trailers_eq head body hlen

/-! ## Reading on -/

/-- A message that has ended waits for no chunk. -/
theorem counts_finish (head : H) (body left : Octets) : (Decoder.finish head body left).Counts := by
  unfold Decoder.finish
  split
  · trivial
  · trivial

/-- Trailers announce none. -/
theorem counts_trailers (head : H) (body buffer : Octets) : (Decoder.trailers head body buffer).Counts := by
  unfold Decoder.trailers
  split
  · exact counts_finish head body _
  · trivial

/-- The decoder waits for a chunk only after it has found that the place of its end is a count. -/
theorem counts_chunks (limits : Limits) (head : H) (body buffer : Octets) :
    (Decoder.chunks limits head body buffer).Counts := by
  fun_induction Decoder.chunks limits head body buffer with
  | case3 body buffer rest hscan => exact counts_trailers head body rest
  | case6 body buffer size rest hscan hsize hmuch hbound htake => exact Nat.not_le.mp hbound
  | case8 body buffer size rest hscan hsize hmuch hbound data rest' htake ih => exact ih
  | _ => trivial

/-- A body of known length waits for no chunk. -/
theorem counts_sized (head : H) (length : Nat) (buffer : Octets) : (Decoder.sized head length buffer).Counts := by
  unfold Decoder.sized
  split
  · trivial
  · exact counts_finish head _ _

/-- A step waits only for chunks whose end fits a count. -/
theorem counts_advance (form : Form H) (limits : Limits) {d : Decoder H} (hstage : d.stage.Counts) :
    (Decoder.advance form limits d).Counts := by
  obtain ⟨stage, buffer⟩ := d
  -- Only in the middle of a chunk is there anything to keep, and there it is kept by waiting on.
  cases stage with
  | head =>
    rcases Decoder.begins_or_wants_or_failed form limits buffer with
      ⟨head, rest, framing, hbegins⟩ | ⟨-, hwants⟩ | ⟨e, left, hfailed⟩
    · rw [Decoder.advance_of_begins hbegins]
      cases framing with
      | none => trivial
      | length n =>
        show Progress.Counts (if limits.body < n then _ else _)
        split
        · trivial
        · exact counts_sized head n rest
      | untilEnd => trivial
      | chunked => exact counts_chunks limits head [] rest
    · rw [hwants]
      trivial
    · rw [hfailed]
      trivial
  | sized head length => exact counts_sized head length buffer
  | «open» head => trivial
  | chunkSize head body => exact counts_chunks limits head body buffer
  | chunk head body size =>
    rw [Decoder.advance_chunk]
    split
    · exact hstage
    · trivial
    · exact counts_chunks limits head _ _
  | trailers head body => exact counts_trailers head body buffer

end Checked

namespace Reader

variable {form : Form H} {limits : Limits}

/-- The buffers that are held on the way, with what arrives, are no longer than a count can tell. -/
def CountedFrom (form : Form H) (limits : Limits) : Progress H → List Read → Prop
  | .wants d, r :: reads =>
    d.buffer.length + r.size < countBound ∧ CountedFrom form limits (receive form limits d r) reads
  | _, _ => True

/-- So is the first buffer: no buffer that is held while a message is read is longer than a count can tell. -/
def Counted (form : Form H) (limits : Limits) (buffer : Octets) (reads : List Read) : Prop :=
  buffer.length < countBound ∧ CountedFrom form limits (Decoder.advance form limits ⟨.head, buffer⟩) reads

/-- The buffer on the way never holds more than there is left to read, which is bounded before the first read. -/
theorem countedFrom_of_lt (hs : form.scan.Shortens) {p : Progress H} {reads : List Read}
    (h : p.bound + (reads.map Read.size).foldr (· + ·) 0 < countBound) : CountedFrom form limits p reads := by
  induction reads generalizing p with
  | nil =>
    cases p with
    | wants d => trivial
    | ended how left => trivial
  | cons r reads ih =>
    cases p with
    | wants d =>
      -- What a read adds to the bound is its size, so the sum over the reads still to come goes on holding.
      have hbound := bound_receive hs limits d r
      have hbuffer : d.buffer.length ≤ (Progress.wants d).bound := Nat.le_add_right _ _
      rw [List.map_cons, List.foldr_cons] at h
      exact ⟨by omega, ih (by omega)⟩
    | ended how left => trivial

/-- It is so if a count can tell everything that there is to be read. -/
theorem counted_of_available_lt (hs : form.scan.Shortens) {buffer : Octets} {reads : List Read}
    (h : available buffer reads < countBound) : Counted form limits buffer reads := by
  have hbound : (Decoder.advance form limits ⟨.head, buffer⟩).bound ≤ buffer.length :=
    Decoder.bound_advance hs limits ⟨.head, buffer⟩
  unfold available at h
  exact ⟨by omega, countedFrom_of_lt hs (by omega)⟩

/-- A body that lasts to the end of the stream has no chunks. -/
theorem not_overflows_receive_open (form : Form H) (limits : Limits) (head : H) (buffer : Octets) (r : Read) :
    ¬ (receive form limits ⟨.open head, buffer⟩ r).Overflows := by
  cases r with
  | data arrived =>
    cases arrived with
    | nil => exact Decoder.not_overflows_atEnd (⟨.open head, buffer⟩ : Decoder H)
    | cons b bs =>
      show ¬ Progress.Overflows (if limits.body < (buffer ++ (b :: bs)).length then _ else _)
      split
      · exact id
      · exact id
  | failed cause => exact id
  | late => exact id

end Reader

/-- What is trapped of reading a message: breaking off. -/
def ReadResult.checked (r : ReadResult H) : Except Trap (ReadResult H) :=
  match r.how with
  | .overflowed => .error .addition
  | _ => .ok r

namespace Checked

variable {form : Form H} {limits : Limits}

/-- One read: what arrives is put behind what is held, and the two together are still of a length that a count can tell.
-/
theorem receive_eq (hf : form.scan.Complete) {d : Decoder H} (hstage : d.stage.Counts) {r : Read}
    (hlen : d.buffer.length + r.size < countBound) :
    receive form limits d r = (Reader.receive form limits d r).checked := by
  obtain ⟨stage, buffer⟩ := d
  cases r with
  | data arrived =>
    cases arrived with
    | nil => exact (Progress.checked_of_not_overflows (Decoder.not_overflows_atEnd ⟨stage, buffer⟩)).symm
    | cons b bs =>
      have hlen' : (buffer ++ (b :: bs)).length < countBound := by
        rw [List.length_append]
        exact hlen
      -- A body up to the end of the stream is only put together, so the checked advance does not come to it.
      cases stage with
      | «open» head =>
        exact (Progress.checked_of_not_overflows (Reader.not_overflows_receive_open form limits head buffer _)).symm
      | _ => exact advance_eq hf limits (d := ⟨_, buffer ++ (b :: bs)⟩) hlen' hstage
  | failed cause => rfl
  | late => rfl

/-- The end of the stream begins no chunk. -/
theorem counts_atEnd (d : Decoder H) : d.atEnd.Counts := by
  unfold Decoder.atEnd
  split
  · trivial
  · exact counts_finish _ _ _
  · trivial

/-- A read keeps it so that the end of the chunk waited for is a count. -/
theorem counts_receive {d : Decoder H} (hstage : d.stage.Counts) (r : Read) :
    (Reader.receive form limits d r).Counts := by
  obtain ⟨stage, buffer⟩ := d
  cases r with
  | data arrived =>
    cases arrived with
    | nil => exact counts_atEnd ⟨stage, buffer⟩
    | cons b bs =>
      -- A body up to the end of the stream is not advanced, only its size is tested, so it is a case of its own.
      cases stage with
      | «open» head =>
        show Progress.Counts (if limits.body < (buffer ++ (b :: bs)).length then _ else _)
        split
        · trivial
        · trivial
      | _ => exact counts_advance form limits (d := ⟨_, buffer ++ (b :: bs)⟩) hstage
  | failed cause => trivial
  | late => trivial

/-- **Reading on is trapped where it breaks off**, and otherwise ends as it ends. -/
theorem readOn_eq (hf : form.scan.Complete) {p : Progress H} {reads : List Read} (hp : p.Counts)
    (hcounted : Reader.CountedFrom form limits p reads) :
    (p.checked >>= fun p => readOn form limits p reads) = (Reader.readOn form limits p reads).checked := by
  induction reads generalizing p with
  | nil =>
    cases p with
    | wants d =>
      -- At the end of the stream nothing is computed any more.
      have hnot : (Reader.readOn form limits (.wants d) []).how ≠ .overflowed :=
        mt (Reader.how_readOn_eq_overflowed_iff form limits (.wants d)).mp id
      show Except.ok _ = _
      unfold ReadResult.checked
      split
      next hover => exact absurd hover hnot
      next => rfl
    | ended how left =>
      rw [Reader.readOn_ended]
      cases how with
      | _ => rfl
  | cons r reads ih =>
    cases p with
    | wants d =>
      obtain ⟨hlen, hrest⟩ := hcounted
      rw [Reader.readOn, ← ih (counts_receive hp r) hrest, ← receive_eq hf hp hlen]
      rfl
    | ended how left =>
      rw [Reader.readOn_ended]
      cases how with
      | _ => rfl

theorem read_eq (hf : form.scan.Complete) {buffer : Octets} {reads : List Read}
    (hcounted : Reader.Counted form limits buffer reads) :
    read form limits buffer reads = (Reader.read form limits buffer reads).checked := by
  have hadvance := advance_eq hf limits (d := ⟨.head, buffer⟩) hcounted.1 trivial
  rw [read, hadvance]
  exact readOn_eq hf (counts_advance form limits (d := ⟨.head, buffer⟩) trivial) hcounted.2

end Checked

/-! ## Where the reader breaks off -/

/-- Where the octets have led to breaking off there is a chunk whose end no count holds. -/
theorem Progress.Follows.oversized {form : Form H} {limits : Limits} {seen left : Octets}
    (h : (Progress.ended .overflowed left).Follows form limits seen) : form.Oversized limits seen := by
  have hnone := h []
  rw [List.append_nil] at hnone
  rw [← Decoder.overflows_advance_iff]
  rcases hnone with hsame | ⟨e, e', left₁, left₂, -, hfailed, -⟩
  · rw [hsame]
    trivial
  · cases hfailed

namespace Reader

variable {form : Form H} {limits : Limits}

/-- Octets arrive, piece by piece, in which the body comes to a chunk that no count holds. -/
def OversizedAhead (form : Form H) (limits : Limits) (buffer : Octets) (reads : List Read) : Prop :=
  ∃ (pieces : List Octets) (after : List Read), (∀ c ∈ pieces, c ≠ []) ∧ reads = pieces.map .data ++ after ∧
    form.Oversized limits (buffer ++ pieces.flatten)

theorem OversizedAhead.here {buffer : Octets} (h : form.Oversized limits buffer) (reads : List Read) :
    OversizedAhead form limits buffer reads := by
  refine ⟨[], reads, fun c hc => absurd hc List.not_mem_nil, rfl, ?_⟩
  rw [List.flatten_nil, List.append_nil]
  exact h

/-- What stands ahead after a read stood ahead before it. -/
theorem OversizedAhead.cons {buffer arrived : Octets} {reads : List Read} (hne : arrived ≠ [])
    (h : OversizedAhead form limits (buffer ++ arrived) reads) :
    OversizedAhead form limits buffer (.data arrived :: reads) := by
  obtain ⟨pieces, after, hpieces, rfl, hover⟩ := h
  refine ⟨arrived :: pieces, after, List.forall_mem_cons.mpr ⟨hne, hpieces⟩, rfl, ?_⟩
  rw [List.flatten_cons, ← List.append_assoc]
  exact hover

/-- Reading that has broken off had come upon such a chunk. -/
theorem oversizedAhead_of_ended {how : Ended H} {left seen : Octets} {reads : List Read}
    (hp : (Progress.ended how left).Follows form limits seen)
    (h : (readOn form limits (.ended how left) reads).how = .overflowed) : OversizedAhead form limits seen reads := by
  rw [readOn_ended] at h
  obtain rfl : how = .overflowed := h
  exact .here hp.oversized reads

/-- Reading breaks off nowhere else: by induction on the reads, with the octets seen so far. -/
theorem oversizedAhead_of_overflowed (hf : form.scan.Complete) {p : Progress H} {seen : Octets} {reads : List Read}
    (hp : p.Follows form limits seen) (h : (readOn form limits p reads).how = .overflowed) :
    OversizedAhead form limits seen reads := by
  -- Over the reads, with what has been seen until now kept beside the decoder, since the oversized chunk is found in
  -- the octets from the start.
  induction reads generalizing p seen with
  | nil =>
    cases p with
    | wants d => exact absurd ((how_readOn_eq_overflowed_iff form limits (.wants d)).mp h) id
    | ended how left => exact oversizedAhead_of_ended hp h
  | cons r reads ih =>
    cases p with
    | ended how left => exact oversizedAhead_of_ended hp h
    | wants d =>
      rw [readOn] at h
      cases r with
      | data arrived =>
        by_cases hne : arrived = []
        · -- At the end of the stream nothing breaks off.
          subst hne
          obtain ⟨how, left, hend⟩ := exists_atEnd d
          have hnot := Decoder.not_overflows_atEnd d
          have hreceive : receive form limits d (.data []) = .ended how left := hend
          rw [hend, Progress.overflows_ended_iff] at hnot
          rw [hreceive, readOn_ended] at h
          exact absurd h hnot
        · rcases hp.receive hf hne with hfollows | ⟨e, left, hfailed⟩
          · exact .cons hne (ih hfollows h)
          · rw [hfailed, readOn_ended] at h
            cases h
      | failed cause =>
        rw [receive, Decoder.fault, readOn_ended] at h
        cases h
      | late =>
        rw [receive, Decoder.expire, readOn_ended] at h
        cases h

/-- A body in chunks does not last to the end of the stream. -/
theorem not_lastsToEnd_of_oversized {bytes : Octets} (h : form.Oversized limits bytes) :
    ¬ form.LastsToEnd limits bytes := by
  obtain ⟨head, rest, hbegins, -⟩ := h
  rw [← Decoder.atOpen_advance_iff, Decoder.advance_of_begins hbegins]
  exact Decoder.not_atOpen_chunks limits head [] rest

/-- What breaks off does so whatever more there is to be read. -/
theorem overflowed_readOn_append {p : Progress H} {reads : List Read}
    (h : (readOn form limits p reads).how = .overflowed) (after : List Read) :
    (readOn form limits p (reads ++ after)).how = .overflowed := by
  -- The reads that break off are gone through before the others are looked at.
  induction reads generalizing p with
  | nil =>
    cases p with
    | wants d => exact absurd ((how_readOn_eq_overflowed_iff form limits (.wants d)).mp h) id
    | ended how left =>
      rw [readOn_ended] at h ⊢
      exact h
  | cons r reads ih =>
    cases p with
    | wants d =>
      rw [readOn] at h
      rw [List.cons_append, readOn]
      exact ih h
    | ended how left =>
      rw [readOn_ended] at h ⊢
      exact h

/-- **The reader breaks off exactly where such a chunk comes.** -/
theorem how_read_eq_overflowed_iff (hf : form.scan.Complete) {buffer : Octets} {reads : List Read} :
    (read form limits buffer reads).how = .overflowed ↔ OversizedAhead form limits buffer reads := by
  constructor
  · exact oversizedAhead_of_overflowed hf fun more => Decoder.advance_append hf limits .head buffer more
  · rintro ⟨pieces, after, hne, rfl, hover⟩
    have halike := read_agrees hf hne (not_lastsToEnd_of_oversized hover)
    have hwhole := (how_readOn_eq_overflowed_iff form limits _).mpr (Decoder.overflows_advance_iff.mpr hover)
    exact overflowed_readOn_append (halike.overflowed hwhole) after

end Reader

namespace Checked

/-- Reading is trapped exactly where a chunk comes whose end no count holds, and in the addition that looks for it. Only
a limit of almost the largest count lets that through. Otherwise what is read is what the reader reads. -/
structure TrappedAtOversized (form : Form H) (limits : Limits) (buffer : Octets) (reads : List Read) : Prop where
  trapped : ∀ t, read form limits buffer reads = .error t ↔
    t = .addition ∧ Reader.OversizedAhead form limits buffer reads
  untrapped : ¬ Reader.OversizedAhead form limits buffer reads →
    read form limits buffer reads = .ok (Reader.read form limits buffer reads)
  limit : Reader.OversizedAhead form limits buffer reads → countBound ≤ limits.body + 2

/-- Both sides are put together here: the traps are those of the reader, and these are told from the octets alone. -/
theorem trappedAtOversized {form : Form H} (hf : form.scan.Complete) {limits : Limits} {buffer : Octets}
    {reads : List Read} (hcounted : Reader.Counted form limits buffer reads) :
    TrappedAtOversized form limits buffer reads := by
  have hread := read_eq hf hcounted
  -- That the count breaks off is said by the stream alone.
  have hover : (Reader.read form limits buffer reads).how = .overflowed ↔ _ := Reader.how_read_eq_overflowed_iff hf
  rw [ReadResult.checked] at hread
  refine ⟨fun t => ?_, fun hnot => ?_, ?_⟩
  · rw [hread, ← hover]
    split
    next h => rw [Except.error.injEq, and_iff_left h, eq_comm]
    next h => exact iff_of_false (fun e => by cases e) fun c => h c.2
  · rw [← hover] at hnot
    rw [hread]
    split
    next h => exact absurd h hnot
    next => rfl
  · rintro ⟨pieces, after, -, -, head, rest, -, hoversized⟩
    exact Decoder.countBound_le_of_oversized hoversized

/-- **No sum is too large and no octet is outside the buffer**, of requests as of responses, under every limit, for
every buffer and all that the reads may bring: but for the sum that gives the end of a chunk, which is too large exactly
where such a chunk is let through. -/
theorem read_trapped_iff (limits : Limits) (buffer : Octets) (reads : List Read) :
    (Reader.Counted .request limits buffer reads → TrappedAtOversized .request limits buffer reads) ∧
      ∀ m, Reader.Counted (.response m) limits buffer reads → TrappedAtOversized (.response m) limits buffer reads :=
  ⟨trappedAtOversized Head.complete_requestHead, fun _ => trappedAtOversized Head.complete_responseHead⟩

/-- A response in chunks and with trailers, cut inside its line ends, under the largest limits. -/
theorem read_trapped_iff_trailers :
    let limits : Limits := ⟨countBound - 1, countBound - 1⟩
    let buffer := octets "HTTP/1.1 200 OK\r\nTransfer-Encoding: chunked\r\n\r\n2\r"
    let reads := [Read.data (octets "\nhi\r\n0\r\nx: y\r"), .data (octets "\n\r\nHTTP")]
    Reader.Counted (.response .get) limits buffer reads ∧ TrappedAtOversized (.response .get) limits buffer reads := by
  intro limits buffer reads
  have hcounted : Reader.Counted (.response .get) limits buffer reads :=
    Reader.counted_of_available_lt Head.complete_responseHead.shortens (by decide +kernel)
  exact ⟨hcounted, (read_trapped_iff limits buffer reads).2 .get hcounted⟩

/-- Under the largest limit an announced chunk traps the reader. -/
theorem read_trapped_at_oversized_chunk :
    let limits : Limits := ⟨16384, countBound - 1⟩
    let bytes := octets "POST / HTTP/1.1\r\nTransfer-Encoding: chunked\r\n\r\nFFFFFFFFFFFFFFFE\r\n"
    read .request limits [] [.data bytes] = .error .addition := by
  intro limits bytes
  have hoversized : Form.request.Oversized limits bytes :=
    ⟨_, _, ⟨rfl, by decide +kernel, rfl⟩, .here rfl (by decide) (by decide) (by decide)⟩
  have hcounted : Reader.Counted .request limits [] [.data bytes] :=
    Reader.counted_of_available_lt Head.complete_requestHead.shortens (by decide +kernel)
  refine ((trappedAtOversized Head.complete_requestHead hcounted).trapped _).mpr ⟨rfl, ?_⟩
  exact .cons (by decide) (.here hoversized [])

end Checked

end HttpService
