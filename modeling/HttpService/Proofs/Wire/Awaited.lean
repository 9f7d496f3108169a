import HttpService.Proofs.Wire.Taken
import HttpService.Wire.Consumed

/-!
# A body in chunks, part by part

A decoder takes of a body what the octets at hand hold and keeps its place in a stage. The same body can be read part by
part: wait for a size line, then for the chunk that it announces, and at last for the fields behind the last chunk. Read
so, the body is there as octets before it is looked at as text.

* `Reader.await` — waits for one part, and tries it again after each arrival.
* `Reader.readChunked` — reads a body in chunks, one part after the other.
* `Reader.readOn_chunks` — the decoder comes to the same end, for every stream and from every place in the body.
-/

namespace HttpService

variable {H α : Type}

/-- What a part of a body makes of the octets at hand. -/
inductive Portion (α : Type) where
  | got (value : α) (rest : Octets)
  | refused (fault : MessageFault) (left : Octets)
  /-- The part ends behind these octets, if it does at all. -/
  | short (kept : Octets)

/-- How waiting for a part ends: what is left then, in the buffer and on the stream. -/
inductive Awaited (α : Type) where
  | got (value : α) (rest : Octets) (later : List Read)
  | failed (error : Error) (left : Octets) (later : List Read)

namespace Portion

/-! ## The parts of a body in chunks -/

/-- A size line. -/
def sizeLine (buffer : Octets) : Portion Nat :=
  match ChunkSize.scan buffer with
  | .done size rest => got size rest
  | .failed fault => refused fault buffer
  | .short => short buffer

/-- A chunk of so many octets and the line end behind it. -/
def chunk (size : Nat) (buffer : Octets) : Portion Octets :=
  match Decoder.takeChunk size buffer with
  | .taken data rest => got data rest
  | .unclosed => refused .chunkWithoutEnd buffer
  | .short => short buffer

/-- The fields behind the last chunk, and the empty line. -/
def trailers (buffer : Octets) : Portion Unit :=
  match Decoder.dropLines buffer true buffer with
  | .ended rest => got () rest
  | .unended line => short line

/-- A size line is there once it has been scanned. -/
theorem sizeLine_eq_got_iff {buffer rest : Octets} {size : Nat} :
    sizeLine buffer = got size rest ↔ ChunkSize.scan buffer = .done size rest := by
  unfold sizeLine
  cases ChunkSize.scan buffer <;> simp

/-- One that is refused leaves the buffer as it was, its octets included. -/
theorem sizeLine_eq_refused_iff {buffer left : Octets} {fault : MessageFault} :
    sizeLine buffer = refused fault left ↔ ChunkSize.scan buffer = .failed fault ∧ buffer = left := by
  unfold sizeLine
  cases ChunkSize.scan buffer <;> simp

/-- One that has not ended is kept whole, and scanned again from its first octet. -/
theorem sizeLine_eq_short_iff {buffer kept : Octets} :
    sizeLine buffer = short kept ↔ ChunkSize.scan buffer = .short ∧ buffer = kept := by
  unfold sizeLine
  cases ChunkSize.scan buffer <;> simp

/-- A chunk is there together with the line end behind it. -/
theorem chunk_eq_got_iff {size : Nat} {buffer data rest : Octets} :
    chunk size buffer = got data rest ↔ Decoder.takeChunk size buffer = .taken data rest := by
  unfold chunk
  cases Decoder.takeChunk size buffer <;> simp

/-- A chunk is refused in one case only, and nothing is taken then. -/
theorem chunk_eq_refused_iff {size : Nat} {buffer left : Octets} {fault : MessageFault} :
    chunk size buffer = refused fault left ↔
      Decoder.takeChunk size buffer = .unclosed ∧ .chunkWithoutEnd = fault ∧ buffer = left := by
  unfold chunk
  cases Decoder.takeChunk size buffer <;> simp

/-- A chunk that is not all there is kept whole. -/
theorem chunk_eq_short_iff {size : Nat} {buffer kept : Octets} :
    chunk size buffer = short kept ↔ Decoder.takeChunk size buffer = .short ∧ buffer = kept := by
  unfold chunk
  cases Decoder.takeChunk size buffer <;> simp

/-- Trailers have been passed over once the empty line has come. -/
theorem trailers_eq_got_iff {buffer rest : Octets} {a : Unit} :
    trailers buffer = got a rest ↔ Decoder.dropLines buffer true buffer = .ended rest := by
  unfold trailers
  cases Decoder.dropLines buffer true buffer <;> simp

/-- Of trailers that have not ended only the last line is kept. -/
theorem trailers_eq_short_iff {buffer kept : Octets} :
    trailers buffer = short kept ↔ Decoder.dropLines buffer true buffer = .unended kept := by
  unfold trailers
  cases Decoder.dropLines buffer true buffer <;> simp

/-- No field behind the last chunk is looked at, so none is refused. -/
theorem trailers_ne_refused (buffer left : Octets) (fault : MessageFault) : trailers buffer ≠ refused fault left := by
  unfold trailers
  cases Decoder.dropLines buffer true buffer <;> simp

end Portion

namespace Reader

/-! ## Waiting for a part -/

/-- Waits for a part of a body. -/
def await (part : Octets → Portion α) (buffer : Octets) : List Read → Awaited α
  | [] =>
    match part buffer with
    | .got a rest => .got a rest []
    | .refused fault left => .failed (.protocol fault) left []
    | .short kept => .failed (.io .truncated) kept []
  | r :: reads =>
    match part buffer with
    | .got a rest => .got a rest (r :: reads)
    | .refused fault left => .failed (.protocol fault) left (r :: reads)
    | .short kept =>
      match r with
      | .data [] => .failed (.io .truncated) kept reads
      | .data arrived => await part (kept ++ arrived) reads
      | .failed cause => .failed (.io cause) kept reads
      | .late => .failed (.timeout .read) kept reads

variable {part : Octets → Portion α} {buffer kept left rest : Octets} {a : α}

theorem await_of_got (h : part buffer = .got a rest) (reads : List Read) :
    await part buffer reads = .got a rest reads := by
  cases reads with
  | nil => rw [await, h]
  | cons r reads => rw [await, h]

/-- What is refused is refused without another read. -/
theorem await_of_refused {fault : MessageFault} (h : part buffer = .refused fault left) (reads : List Read) :
    await part buffer reads = .failed (.protocol fault) left reads := by
  cases reads with
  | nil => rw [await, h]
  | cons r reads => rw [await, h]

/-- A part that never comes is missed at the end of the stream. -/
theorem await_of_short_nil (h : part buffer = .short kept) :
    await part buffer [] = .failed (.io .truncated) kept [] := by
  rw [await, h]

/-- What arrives is put behind what was kept, and the part tried again. -/
theorem await_of_short_data (h : part buffer = .short kept) {arrived : Octets} (hne : arrived ≠ [])
    (reads : List Read) : await part buffer (.data arrived :: reads) = await part (kept ++ arrived) reads := by
  obtain ⟨b, bs, rfl⟩ := List.exists_cons_of_ne_nil hne
  rw [await, h]

section Available

variable {k : Nat} (hgot : ∀ buffer a rest, part buffer = .got a rest → rest.length + k ≤ buffer.length)

include hgot

/-- A part that is at hand takes so many octets of the buffer, and leaves the reads as they are. -/
theorem available_of_got {a' : α} {rest' : Octets} {reads later : List Read} (hpart : part buffer = .got a' rest')
    (h : await part buffer reads = .got a rest later) : available rest later + k ≤ available buffer reads := by
  rw [await_of_got hpart] at h
  obtain ⟨rfl, rfl, rfl⟩ := Awaited.got.inj h
  have hlen := hgot buffer a' rest' hpart
  simp only [available]
  omega

/-- Waiting adds nothing to a connection, and a part that takes so many octets of those at hand takes them of it. -/
theorem available_of_await (hkept : ∀ buffer kept, part buffer = .short kept → kept.length ≤ buffer.length)
    {reads later : List Read} (h : await part buffer reads = .got a rest later) :
    available rest later + k ≤ available buffer reads := by
  -- On the reads: what is kept is in the buffer, and what arrives was counted among the reads.
  induction reads generalizing buffer with
  | nil =>
    cases hpart : part buffer with
    | got a' rest' => exact available_of_got hgot hpart h
    | refused fault left =>
      rw [await_of_refused hpart] at h
      cases h
    | short kept =>
      rw [await_of_short_nil hpart] at h
      cases h
  | cons r reads ih =>
    cases hpart : part buffer with
    | got a' rest' => exact available_of_got hgot hpart h
    | refused fault left =>
      rw [await_of_refused hpart] at h
      cases h
    | short kept =>
      have hlen := hkept buffer kept hpart
      rw [await, hpart] at h
      cases r with
      | data arrived =>
        cases arrived with
        | nil => cases h
        | cons b bs =>
          -- Only octets that arrive lead on; any other read ends the wait.
          have hrest := ih h
          simp only [available, List.length_append, List.map_cons, List.foldr_cons, Read.size] at hrest ⊢
          omega
      | failed cause => cases h
      | late => cases h

end Available

/-! ## Reading a body in chunks -/

/-- How reading a body in chunks ends. -/
inductive ChunkedEnd where
  | body (octets : Octets)
  | failed (error : Error)
  | overflowed

/-- The end, and what is left then, in the buffer and on the stream. -/
structure ChunkedRead where
  how : ChunkedEnd
  buffer : Octets
  reads : List Read

/-- Reads a body in chunks, of which there is some already: a size line, the chunk, and so on to the last size line and
the fields behind it. -/
def readChunked (limits : Limits) (body buffer : Octets) (reads : List Read) : ChunkedRead :=
  match _h : await Portion.sizeLine buffer reads with
  | .failed e left later => ⟨.failed e, left, later⟩
  | .got size rest later =>
    if size = 0 then
      match await Portion.trailers rest later with
      | .failed e left later' => ⟨.failed e, left, later'⟩
      | .got () rest' later' => ⟨.body body, rest', later'⟩
    else if Decoder.isTooMuch limits body size then ⟨.failed (.protocol (.bodyTooLong limits.body)), rest, later⟩
    else if countBound ≤ size + 2 then ⟨.overflowed, rest, later⟩
    else match _h' : await (Portion.chunk size) rest later with
      | .failed e left later' => ⟨.failed e, left, later'⟩
      | .got data rest' later' => readChunked limits (body ++ data) rest' later'
termination_by available buffer reads
decreasing_by
  -- A size line takes an octet at least, and waiting takes none back.
  have hline := available_of_await (k := 1)
    (fun _ _ _ h => ChunkSize.length_lt_of_scan (Portion.sizeLine_eq_got_iff.mp h))
    (fun _ _ h => Nat.le_of_eq (congrArg List.length (Portion.sizeLine_eq_short_iff.mp h).2.symm)) _h
  have hchunk := available_of_await (k := 0)
    (fun _ _ _ h => Decoder.length_le_of_takeChunk (Portion.chunk_eq_got_iff.mp h))
    (fun _ _ h => Nat.le_of_eq (congrArg List.length (Portion.chunk_eq_short_iff.mp h).2.symm)) _h'
  omega

end Reader

/-! ## The decoder does the same -/

/-- A decoder in this stage goes as `go` says: it waits for the part and goes on with it as `next` says. -/
structure Stage.WaitsFor (form : Form H) (limits : Limits) (stage : Stage H) (part : Octets → Portion α)
    (go : Octets → Progress H) (next : α → Octets → Progress H) : Prop where
  advance : ∀ buffer, Decoder.advance form limits ⟨stage, buffer⟩ = go buffer
  atEnd : ∀ buffer, (⟨stage, buffer⟩ : Decoder H).atEnd = .ended (.failed (.io .truncated)) buffer
  notOpen : ∀ head, stage ≠ .open head
  got : ∀ buffer a rest, part buffer = .got a rest → go buffer = next a rest
  refused : ∀ buffer fault left, part buffer = .refused fault left → go buffer = Decoder.refuse fault left
  short : ∀ buffer kept, part buffer = .short kept → go buffer = .wants ⟨stage, kept⟩

namespace Reader

/-- In such a stage, the decoder reads on as one who waits for the part and then goes on with it. -/
theorem readOn_of_waitsFor {form : Form H} {limits : Limits} {stage : Stage H} {part : Octets → Portion α}
    {go : Octets → Progress H} {next : α → Octets → Progress H} (h : stage.WaitsFor form limits part go next)
    (buffer : Octets) (reads : List Read) :
    readOn form limits (go buffer) reads =
      match await part buffer reads with
      | .got a rest later => readOn form limits (next a rest) later
      | .failed e left later => ⟨.failed e, left, later⟩ := by
  -- On the stream: a short part leaves the decoder in its stage, with what was kept.
  induction reads generalizing buffer with
  | nil =>
    cases hpart : part buffer with
    | got a rest => rw [await_of_got hpart, h.got buffer a rest hpart]
    | refused fault left => rw [await_of_refused hpart, h.refused buffer fault left hpart, Decoder.refuse, readOn_ended]
    | short kept =>
      rw [await_of_short_nil hpart, h.short buffer kept hpart, readOn]
      simp only [h.atEnd]
  | cons r reads ih =>
    cases hpart : part buffer with
    | got a rest => rw [await_of_got hpart, h.got buffer a rest hpart]
    | refused fault left => rw [await_of_refused hpart, h.refused buffer fault left hpart, Decoder.refuse, readOn_ended]
    | short kept =>
      rw [h.short buffer kept hpart, readOn]
      cases r with
      | data arrived =>
        by_cases hne : arrived = []
        · subst hne
          rw [await, hpart, receive, h.atEnd, readOn_ended]
        · rw [await_of_short_data hpart hne, receive_data form limits h.notOpen kept hne, h.advance]
          exact ih (kept ++ arrived)
      | failed cause =>
        rw [await, hpart]
        exact readOn_ended form limits _ kept reads
      | late =>
        rw [await, hpart]
        exact readOn_ended form limits _ kept reads

end Reader

namespace Decoder

/-- What a size line leads to. -/
def announced (limits : Limits) (head : H) (body : Octets) (size : Nat) (rest : Octets) : Progress H :=
  if size = 0 then trailers head body rest
  else if isTooMuch limits body size then refuse (.bodyTooLong limits.body) rest
  else if countBound ≤ size + 2 then .ended .overflowed rest
  else match takeChunk size rest with
    | .short => .wants ⟨.chunk head body size, rest⟩
    | .unclosed => refuse .chunkWithoutEnd rest
    | .taken data rest' => chunks limits head (body ++ data) rest'

variable (form : Form H) (limits : Limits) (head : H) (body : Octets)

/-- A chunk that is let through is waited for. -/
theorem announced_of_admitted {size : Nat} (hzero : ¬ size = 0) (hmuch : ¬ isTooMuch limits body size = true)
    (hbound : ¬ countBound ≤ size + 2) (rest : Octets) :
    announced limits head body size rest = advance form limits ⟨.chunk head body size, rest⟩ := by
  rw [announced, if_neg hzero, if_neg hmuch, if_neg hbound]
  rfl

/-- The decoder waits for a size line and then does what that leads to. -/
theorem waitsFor_sizeLine :
    (Stage.chunkSize head body).WaitsFor form limits Portion.sizeLine (chunks limits head body)
      (announced limits head body) where
  advance _ := rfl
  atEnd _ := rfl
  notOpen _ := nofun
  got _ _ _ h := chunks_of_done (Portion.sizeLine_eq_got_iff.mp h) head
  refused _ _ _ h := by
    obtain ⟨hscan, rfl⟩ := Portion.sizeLine_eq_refused_iff.mp h
    exact chunks_of_failed hscan head
  short _ _ h := by
    obtain ⟨hscan, rfl⟩ := Portion.sizeLine_eq_short_iff.mp h
    exact chunks_of_short hscan head

/-- It waits for a chunk that was announced, and then for the size line behind it. -/
theorem waitsFor_chunk (size : Nat) :
    (Stage.chunk head body size).WaitsFor form limits (Portion.chunk size)
      (fun buffer => advance form limits ⟨.chunk head body size, buffer⟩)
      (fun data rest => chunks limits head (body ++ data) rest) where
  advance _ := rfl
  atEnd _ := rfl
  notOpen _ := nofun
  got _ _ _ h := by rw [advance_chunk, Portion.chunk_eq_got_iff.mp h]
  refused _ _ _ h := by
    obtain ⟨htake, rfl, rfl⟩ := Portion.chunk_eq_refused_iff.mp h
    rw [advance_chunk, htake]
  short _ _ h := by
    obtain ⟨htake, rfl⟩ := Portion.chunk_eq_short_iff.mp h
    rw [advance_chunk, htake]

/-- It waits for the end of the trailers, and then looks at the body as text. -/
theorem waitsFor_trailers :
    (Stage.trailers head body).WaitsFor form limits Portion.trailers (trailers head body)
      (fun _ rest => finish head body rest) where
  advance _ := rfl
  atEnd _ := rfl
  notOpen _ := nofun
  got _ _ _ h := by rw [trailers, Portion.trailers_eq_got_iff.mp h]
  refused buffer fault left h := absurd h (Portion.trailers_ne_refused buffer left fault)
  short _ _ h := by rw [trailers, Portion.trailers_eq_short_iff.mp h]

end Decoder

namespace Reader

/-- The message with this body, if it is text; a reading that failed gives none. -/
def ChunkedEnd.asMessage (head : H) : ChunkedEnd → Ended H
  | .body bs => bs.text?.elim (.failed (.protocol .bodyNotText)) (.message head)
  | .failed e => .failed e
  | .overflowed => .overflowed

def ChunkedRead.asMessage (head : H) (r : ChunkedRead) : ReadResult H := ⟨r.how.asMessage head, r.buffer, r.reads⟩

/-- A body that is complete is looked at as text, and read no further. -/
theorem readOn_finish (form : Form H) (limits : Limits) (head : H) (body left : Octets) (reads : List Read) :
    readOn form limits (Decoder.finish head body left) reads =
      ChunkedRead.asMessage head ⟨.body body, left, reads⟩ := by
  rw [Decoder.finish, ChunkedRead.asMessage, ChunkedEnd.asMessage]
  cases body.text? with
  | some text => exact readOn_ended form limits (.message head text) left reads
  | none => exact readOn_ended form limits (.failed (.protocol .bodyNotText)) left reads

/-- **The decoder reads a body in chunks as one does who waits for its parts.** -/
theorem readOn_chunks (form : Form H) (limits : Limits) (head : H) (body buffer : Octets) (reads : List Read) :
    readOn form limits (Decoder.chunks limits head body buffer) reads =
      (readChunked limits body buffer reads).asMessage head := by
  -- The stages follow the parts: the decoder is in a stage as long as its part is waited for.
  have hsize (body buffer : Octets) (reads : List Read) :=
    readOn_of_waitsFor (Decoder.waitsFor_sizeLine form limits head body) buffer reads
  have htrailers (body buffer : Octets) (reads : List Read) :=
    readOn_of_waitsFor (Decoder.waitsFor_trailers form limits head body) buffer reads
  have hchunk (body : Octets) (size : Nat) (buffer : Octets) (reads : List Read) :=
    readOn_of_waitsFor (Decoder.waitsFor_chunk form limits head body size) buffer reads
  fun_induction readChunked limits body buffer reads with
  | case1 body buffer reads e left later hline =>
    rw [hsize, hline]
    rfl
  | case2 body buffer reads rest later e left later' hend hline =>
    rw [hsize, hline]
    simp only [Decoder.announced, if_true]
    rw [htrailers, hend]
    rfl
  | case3 body buffer reads rest later rest' later' hend hline =>
    rw [hsize, hline]
    simp only [Decoder.announced, if_true]
    rw [htrailers, hend]
    exact readOn_finish form limits head body rest' later'
  | case4 body buffer reads size rest later hline hzero hmuch =>
    rw [hsize, hline]
    simp only [Decoder.announced, if_neg hzero, if_pos hmuch]
    exact readOn_ended form limits _ rest later
  | case5 body buffer reads size rest later hline hzero hmuch hbound =>
    rw [hsize, hline]
    simp only [Decoder.announced, if_neg hzero, if_neg hmuch, if_pos hbound]
    exact readOn_ended form limits _ rest later
  | case6 body buffer reads size rest later hline hzero hmuch hbound e left later' htake =>
    rw [hsize, hline]
    simp only [Decoder.announced_of_admitted form limits head body hzero hmuch hbound]
    rw [hchunk, htake]
    rfl
  | case7 body buffer reads size rest later hline hzero hmuch hbound data rest' later' htake ih =>
    rw [hsize, hline]
    simp only [Decoder.announced_of_admitted form limits head body hzero hmuch hbound]
    rw [hchunk, htake]
    exact ih

end Reader

end HttpService
