import HttpService.Proofs.Wire.Awaited
import HttpService.Proofs.Wire.Limits

/-!
# What a body in chunks spells

A body in chunks is a run of chunks, each a size line, so many octets and a line end; then comes a size line for zero,
and then lines up to the first empty one. The octets of a chunk may look like anything of that. The reading of such a
body is compared here with the form alone.

* `Chunk`, `IsTrailers`, `Coded` — the form.
* `ChunkSize.scan_eq_done_iff`, `Decoder.takeChunk_eq_taken_iff`, `Decoder.dropLines_eq_ended_iff` — what is taken of
  the octets for one part is a part of the form.
* `Reader.await_pieces` — a part that arrives in pieces is got as from everything at once.
* `Reader.readChunked_returns_iff` — a body is read exactly where the octets have the form, and what is behind it is
  left.
-/

namespace HttpService

/-- A line end. -/
def crlf : Octets := [13, 10]

/-! ## The form -/

/-- The octets are a size line for this size, and no more. -/
def ChunkSize.IsLine (line : Octets) (size : Nat) : Prop := scan line = .done size []

/-- A chunk with the line that announces it. -/
structure Chunk where
  line : Octets
  data : Octets
  announced : ChunkSize.IsLine line data.length
  nonempty : data ≠ []

/-- The chunk on the wire. -/
def Chunk.bytes (c : Chunk) : Octets := c.line ++ c.data ++ crlf

/-- Lines with their line ends, of which the last one is empty. -/
inductive IsLines : Octets → Prop where
  | last : IsLines crlf
  | line {l t : Octets} (hline : ¬ crlf <:+: l) (hrest : IsLines t) : IsLines (l ++ crlf ++ t)

/-- The shortest run of lines of which the last one is empty. -/
structure IsTrailers (t : Octets) : Prop where
  isLines : IsLines t
  shortest : ∀ t', IsLines t' → t' <+: t → t' = t

/-- The octets are a body in chunks, within the limit, and what is behind it. -/
def Coded (limit : Nat) (bytes body rest : Octets) : Prop :=
  ∃ (cs : List Chunk) (last trailers : Octets), ChunkSize.IsLine last 0 ∧ IsTrailers trailers ∧
    bytes = cs.flatMap Chunk.bytes ++ last ++ trailers ++ rest ∧ body = cs.flatMap Chunk.data ∧ body.length ≤ limit

/-! ## One part -/

namespace ChunkSize

/-- From any place in a size line, the scan uses a line and would have used no other. -/
theorem isLine_of_scanFrom {part : SizePart} {size n : Nat} {bs rest : Octets}
    (h : scanFrom part size bs = .done n rest) : ∃ line, scanFrom part size line = .done n [] ∧ bs = line ++ rest := by
  fun_induction scanFrom part size bs with
  | case1 => cases h
  | case2 => cases h
  | case3 part size bs =>
    obtain ⟨rfl, rfl⟩ := Scanned.done.inj h
    exact ⟨crlf, rfl, rfl⟩
  | case4 => cases h
  | case5 part size b bs hcr hcrlf hb part' size' hstep ih =>
    obtain ⟨line, hline, rfl⟩ := ih h
    refine ⟨b :: line, ?_, rfl⟩
    rw [scanFrom_cons part size (by simpa using hb), hstep]
    exact hline
  | case6 => cases h

/-- What is taken for a size is a size line. -/
theorem scan_eq_done_iff {bs rest : Octets} {size : Nat} :
    scan bs = .done size rest ↔ ∃ line, IsLine line size ∧ bs = line ++ rest := by
  constructor
  · exact isLine_of_scanFrom
  · rintro ⟨line, hline, rfl⟩
    exact stable_chunkSize.of_done hline rest

end ChunkSize

namespace Decoder

/-- What is taken for a chunk is so many octets with a line end behind them. -/
theorem takeChunk_eq_taken_iff {size : Nat} {buffer data rest : Octets} :
    takeChunk size buffer = .taken data rest ↔ data.length = size ∧ buffer = data ++ crlf ++ rest := by
  constructor
  · intro h
    refine ⟨length_of_takeChunk h, ?_⟩
    unfold takeChunk at h
    split at h
    next => cases h
    next hlen =>
      split at h
      next hend =>
        obtain ⟨rfl, rfl⟩ := ChunkTaken.taken.inj h
        -- The octets fall into the chunk, its line end and the rest.
        rw [crlf, ← hend, ← List.drop_drop, List.append_assoc, List.take_append_drop, List.take_append_drop]
      next => cases h
  · rintro ⟨rfl, rfl⟩
    rw [List.append_assoc]
    have hlen : ¬ (data ++ (crlf ++ rest)).length < data.length + 2 := by
      simp only [crlf, List.length_append, List.length_cons, List.length_nil]
      omega
    have hend : ((data ++ (crlf ++ rest)).drop data.length).take 2 = [13, 10] := by
      rw [List.drop_left]
      rfl
    rw [takeChunk, if_neg hlen, if_pos hend, List.take_left, ← List.drop_drop, List.drop_left]
    rfl

/-! ### Trailers -/

/-- A line that is not the empty one is dropped. -/
theorem dropLines_line {l : Octets} (hline : ¬ crlf <:+: l) (line : Octets) (fresh : Bool) (t : Octets) :
    dropLines line fresh (l ++ crlf ++ t) = if fresh ∧ l = [] then .ended t else dropLines t true t := by
  -- On the line: behind its first octet the walk is in the middle of the line, where it looks for its end only.
  induction l generalizing line fresh with
  | nil =>
    show dropLines line fresh (13 :: 10 :: t) = _
    rw [dropLines_crlf]
    simp
  | cons b l ih =>
    have hrest : ¬ crlf <:+: l := fun h => hline (h.trans (List.suffix_cons b l).isInfix)
    -- The first octet and what follows it are no line end: they stand in the line, or at its seam.
    obtain ⟨c, cs, hcons⟩ := List.exists_cons_of_ne_nil (l := l ++ crlf ++ t) (by simp [crlf])
    have hnot : ¬ (b = 13 ∧ c = 10) := by
      rintro ⟨rfl, rfl⟩
      cases l with
      | nil => cases hcons
      | cons d l =>
        obtain ⟨rfl, -⟩ := List.cons.inj hcons
        exact hline (List.prefix_append crlf l).isInfix
    have hfalse := ih hrest line false
    rw [hcons] at hfalse
    rw [List.cons_append, List.cons_append, hcons, dropLines_cons hnot, hfalse]
    simp

/-- What is dropped are lines, and in the middle of one it is the rest of that line first. -/
theorem isLines_of_ended {line bs rest : Octets} {fresh : Bool} (h : dropLines line fresh bs = .ended rest) :
    ∃ t, bs = t ++ rest ∧ IsLines t ∧
      (fresh = false → ∃ l t', ¬ crlf <:+: l ∧ IsLines t' ∧ t = l ++ crlf ++ t') := by
  fun_induction dropLines line fresh bs with
  | case1 => cases h
  | case2 => cases h
  | case3 =>
    obtain rfl := Trailers.ended.inj h
    exact ⟨crlf, rfl, .last, fun hfresh => by cases hfresh⟩
  | case4 line fresh rest' hfresh ih =>
    obtain ⟨t, rfl, ht, -⟩ := ih h
    have hnil : ¬ crlf <:+: [] := by decide
    exact ⟨crlf ++ t, rfl, .line hnil ht, fun _ => ⟨[], t, hnil, ht, rfl⟩⟩
  | case5 line fresh b bs hnil hcrlf ih =>
    obtain ⟨t, rfl, -, hrest⟩ := ih h
    obtain ⟨l, t', hline, ht', rfl⟩ := hrest rfl
    -- A line end that begins with the first octet would have been seen.
    have hlonger : ¬ crlf <:+: b :: l := by
      rw [List.infix_cons_iff]
      rintro (hfront | hwithin)
      · obtain ⟨behind, hbehind⟩ := hfront
        obtain ⟨rfl, rfl⟩ := List.cons.inj hbehind
        exact hcrlf _ rfl rfl
      · exact hline hwithin
    exact ⟨b :: (l ++ crlf ++ t'), rfl, .line hlonger ht', fun _ => ⟨b :: l, t', hlonger, ht', rfl⟩⟩

/-- Lines up to an empty one end there or at an empty one before. -/
theorem exists_ended_of_isLines {t : Octets} (h : IsLines t) (line : Octets) :
    ∃ rest, dropLines line true t = .ended rest := by
  induction h generalizing line with
  | last => exact ⟨[], rfl⟩
  | @line l t hline ht ih =>
    rw [dropLines_line hline]
    split
    · exact ⟨t, rfl⟩
    · exact ih t

/-- **What is dropped behind the last chunk is the shortest run of lines of which the last one is empty.** -/
theorem dropLines_eq_ended_iff {line bs rest : Octets} :
    dropLines line true bs = .ended rest ↔ ∃ t, IsTrailers t ∧ bs = t ++ rest := by
  constructor
  · intro h
    obtain ⟨t, rfl, ht, -⟩ := isLines_of_ended h
    refine ⟨t, ⟨ht, fun t' ht' hprefix => ?_⟩, rfl⟩
    obtain ⟨more, rfl⟩ := hprefix
    -- A shorter run would have been the end.
    obtain ⟨rest', hended⟩ := exists_ended_of_isLines ht' line
    have hmore := dropLines_of_ended hended line (more ++ rest)
    rw [← List.append_assoc, h] at hmore
    have hlen := congrArg List.length (Trailers.ended.inj hmore)
    simp only [List.length_append] at hlen
    obtain rfl : more = [] := List.eq_nil_of_length_eq_zero (by omega)
    rw [List.append_nil]
  · rintro ⟨t, ht, rfl⟩
    obtain ⟨rest', hended⟩ := exists_ended_of_isLines ht.isLines line
    obtain ⟨t', hsplit, ht', -⟩ := isLines_of_ended hended
    obtain rfl : t' = t := ht.shortest t' ht' ⟨rest', hsplit.symm⟩
    obtain rfl : rest' = [] := List.self_eq_append_right.mp hsplit
    exact dropLines_of_ended hended line rest

end Decoder

/-! ## Parts that arrive in pieces -/

namespace Portion

/-- What is made of some octets holds when more follow, and a part that is short goes on with what it kept. -/
structure Resumes {α : Type} (part : Octets → Portion α) : Prop where
  got : ∀ buffer a rest more, part buffer = .got a rest → part (buffer ++ more) = .got a (rest ++ more)
  refused : ∀ buffer fault left more, part buffer = .refused fault left →
    ∃ left', part (buffer ++ more) = .refused fault left'
  short : ∀ buffer kept more, part buffer = .short kept → part (buffer ++ more) = part (kept ++ more)

/-- Waiting for a size line keeps all of it. -/
theorem resumes_sizeLine : Resumes sizeLine where
  got _ _ _ more h :=
    sizeLine_eq_got_iff.mpr (ChunkSize.stable_chunkSize.of_done (sizeLine_eq_got_iff.mp h) more)
  refused buffer fault left more h := by
    obtain ⟨hscan, -⟩ := sizeLine_eq_refused_iff.mp h
    exact ⟨_, sizeLine_eq_refused_iff.mpr ⟨ChunkSize.stable_chunkSize.of_failed hscan more, rfl⟩⟩
  short _ _ _ h := by rw [(sizeLine_eq_short_iff.mp h).2]

/-- Waiting for a chunk keeps all of it. -/
theorem resumes_chunk (size : Nat) : Resumes (chunk size) where
  got buffer data rest more h := by
    obtain htake := chunk_eq_got_iff.mp h
    have hmore := Decoder.takeChunk_append (by rw [htake]; exact Decoder.ChunkTaken.noConfusion) more
    rw [htake] at hmore
    exact chunk_eq_got_iff.mpr hmore
  refused buffer fault left more h := by
    obtain ⟨htake, rfl, -⟩ := chunk_eq_refused_iff.mp h
    have hmore := Decoder.takeChunk_append (by rw [htake]; exact Decoder.ChunkTaken.noConfusion) more
    rw [htake] at hmore
    exact ⟨_, chunk_eq_refused_iff.mpr ⟨hmore, rfl, rfl⟩⟩
  short _ _ _ h := by rw [(chunk_eq_short_iff.mp h).2]

/-- Waiting for trailers keeps the line begun last, and the lines before it would be dropped again. -/
theorem resumes_trailers : Resumes trailers where
  got _ _ _ more h := trailers_eq_got_iff.mpr (Decoder.dropLines_of_ended (trailers_eq_got_iff.mp h) _ more)
  refused buffer fault left _ h := absurd h (trailers_ne_refused buffer left fault)
  short buffer kept more h := by
    -- Either nothing was dropped, or the walk starts again at the unfinished line.
    rcases Decoder.dropLines_of_unended (trailers_eq_short_iff.mp h) with rfl | hkept
    · rfl
    · rw [trailers, trailers, hkept]

end Portion

namespace Reader

/-- **A part that arrives in pieces is got as from everything at once**, and what is behind it is left. -/
theorem await_pieces {α : Type} {part : Octets → Portion α} (hpart : Portion.Resumes part) (buffer : Octets)
    {pieces : List Octets} (hne : ∀ c ∈ pieces, c ≠ []) :
    (∃ a rest pieces', await part buffer (pieces.map .data) = .got a rest (pieces'.map .data) ∧ pieces' <:+ pieces ∧
      part (buffer ++ pieces.flatten) = .got a (rest ++ pieces'.flatten)) ∨
    ∃ e left later, await part buffer (pieces.map .data) = .failed e left later ∧
      ∀ a rest, part (buffer ++ pieces.flatten) ≠ .got a rest := by
  -- On the pieces: a part that is short is tried again on what it kept and the next one.
  induction pieces generalizing buffer with
  | nil =>
    rw [List.flatten_nil, List.append_nil]
    cases hat : part buffer with
    | got a rest =>
      exact .inl ⟨a, rest, [], await_of_got hat _, List.suffix_rfl, by rw [List.flatten_nil, List.append_nil]⟩
    | refused fault left => exact .inr ⟨_, _, _, await_of_refused hat _, nofun⟩
    | short kept => exact .inr ⟨_, _, _, await_of_short_nil hat, nofun⟩
  | cons c cs ih =>
    cases hat : part buffer with
    | got a rest => exact .inl ⟨a, rest, c :: cs, await_of_got hat _, List.suffix_rfl, hpart.got buffer a rest _ hat⟩
    | refused fault left =>
      obtain ⟨left', hmore⟩ := hpart.refused buffer fault left (c :: cs).flatten hat
      exact .inr ⟨_, _, _, await_of_refused hat _, fun a rest h => by rw [hmore] at h; cases h⟩
    | short kept =>
      have hawait := await_of_short_data hat (hne c List.mem_cons_self) (cs.map .data)
      rw [List.map_cons, hawait, hpart.short buffer kept _ hat, List.flatten_cons, ← List.append_assoc]
      rcases ih (kept ++ c) fun c' hc' => hne c' (List.mem_cons_of_mem c hc') with
        ⟨a, rest, pieces', hgot, hsuffix, hwhole⟩ | hfailed
      · exact .inl ⟨a, rest, pieces', hgot, hsuffix.trans (List.suffix_cons c cs), hwhole⟩
      · exact .inr hfailed

/-- What has been waited for is there in all the octets taken together, and the pieces not yet read follow it. -/
theorem got_of_await {α : Type} {part : Octets → Portion α} (hpart : Portion.Resumes part) {buffer rest : Octets}
    {pieces : List Octets} (hne : ∀ c ∈ pieces, c ≠ []) {a : α} {later : List Read}
    (h : await part buffer (pieces.map .data) = .got a rest later) :
    ∃ pieces' : List Octets, later = pieces'.map .data ∧ (∀ c ∈ pieces', c ≠ []) ∧
      part (buffer ++ pieces.flatten) = .got a (rest ++ pieces'.flatten) := by
  rcases await_pieces hpart buffer hne with ⟨a', rest', pieces', hgot, hsuffix, hwhole⟩ | ⟨e, left, later', hfailed, -⟩
  · rw [hgot] at h
    obtain ⟨rfl, rfl, rfl⟩ := Awaited.got.inj h
    exact ⟨pieces', rfl, fun c hc => hne c (hsuffix.mem hc), hwhole⟩
  · rw [hfailed] at h
    cases h

/-- A part that was waited for in vain is not there in all the octets either. -/
theorem not_got_of_await {α : Type} {part : Octets → Portion α} (hpart : Portion.Resumes part) {buffer left : Octets}
    {pieces : List Octets} (hne : ∀ c ∈ pieces, c ≠ []) {e : Error} {later : List Read}
    (h : await part buffer (pieces.map .data) = .failed e left later) (a : α) (rest : Octets) :
    part (buffer ++ pieces.flatten) ≠ .got a rest := by
  rcases await_pieces hpart buffer hne with ⟨a', rest', pieces', hgot, -⟩ | ⟨e', left', later', -, hwhole⟩
  · rw [hgot] at h
    cases h
  · exact hwhole a rest

end Reader

/-! ## The whole body -/

/-- The octets are the rest of a body in chunks, of which there is some already, and what is behind it. -/
def CodedBehind (limit : Nat) (before bytes body rest : Octets) : Prop :=
  ∃ (cs : List Chunk) (last trailers : Octets), ChunkSize.IsLine last 0 ∧ IsTrailers trailers ∧
    bytes = cs.flatMap Chunk.bytes ++ last ++ trailers ++ rest ∧ body = before ++ cs.flatMap Chunk.data ∧
    body.length ≤ limit

/-- Such octets begin with a size line, and behind it come the last lines, or else a chunk and octets of this form. -/
theorem codedBehind_iff {limit : Nat} {before bytes body rest : Octets} :
    CodedBehind limit before bytes body rest ↔
      ∃ size mid, Portion.sizeLine bytes = .got size mid ∧
        if size = 0 then Portion.trailers mid = .got () rest ∧ body = before ∧ body.length ≤ limit
        else ∃ data mid', Portion.chunk size mid = .got data mid' ∧
          CodedBehind limit (before ++ data) mid' body rest := by
  -- Each part that is taken is a part of the form.
  simp only [Portion.sizeLine_eq_got_iff, Portion.trailers_eq_got_iff, Portion.chunk_eq_got_iff,
    ChunkSize.scan_eq_done_iff, Decoder.dropLines_eq_ended_iff, Decoder.takeChunk_eq_taken_iff]
  constructor
  · rintro ⟨cs, last, trailers, hlast, htrailers, rfl, rfl, hlimit⟩
    cases cs with
    | nil =>
      refine ⟨0, trailers ++ rest, ⟨last, hlast, by simp⟩, ?_⟩
      rw [if_pos rfl]
      exact ⟨⟨trailers, htrailers, rfl⟩, by simp, hlimit⟩
    | cons c cs =>
      have hsize : c.data.length ≠ 0 := fun h => c.nonempty (List.eq_nil_of_length_eq_zero h)
      refine ⟨c.data.length, c.data ++ crlf ++ (cs.flatMap Chunk.bytes ++ last ++ trailers ++ rest),
        ⟨c.line, c.announced, ?_⟩, ?_⟩
      · simp [Chunk.bytes]
      · rw [if_neg hsize]
        refine ⟨c.data, _, ⟨rfl, rfl⟩, cs, last, trailers, hlast, htrailers, rfl, ?_, hlimit⟩
        simp
  · rintro ⟨size, mid, ⟨line, hline, rfl⟩, hrest⟩
    split at hrest
    next hzero =>
      obtain ⟨⟨t, ht, rfl⟩, rfl, hlimit⟩ := hrest
      exact ⟨[], line, t, hzero ▸ hline, ht, by simp, by simp, hlimit⟩
    next hsize =>
      obtain ⟨data, mid', ⟨rfl, rfl⟩, cs, last, trailers, hlast, htrailers, rfl, rfl, hlimit⟩ := hrest
      have hne : data ≠ [] := fun h => hsize (by rw [h]; rfl)
      refine ⟨⟨line, data, hline, hne⟩ :: cs, last, trailers, hlast, htrailers, ?_, ?_, hlimit⟩
      · simp [Chunk.bytes]
      · simp

/-- The same, where the size line is known: this is the step that the reading takes. -/
theorem codedBehind_iff_of_sizeLine {limit : Nat} {before bytes mid body rest : Octets} {size : Nat}
    (h : Portion.sizeLine bytes = .got size mid) :
    CodedBehind limit before bytes body rest ↔
      if size = 0 then Portion.trailers mid = .got () rest ∧ body = before ∧ body.length ≤ limit
      else ∃ data mid', Portion.chunk size mid = .got data mid' ∧
        CodedBehind limit (before ++ data) mid' body rest := by
  rw [codedBehind_iff, h]
  constructor
  · rintro ⟨size', mid', heq, hrest⟩
    obtain ⟨rfl, rfl⟩ := Portion.got.inj heq
    exact hrest
  · exact fun hrest => ⟨size, mid, rfl, hrest⟩

namespace Reader

/-- The body was read, and this is behind it. -/
def ChunkedRead.Returns (r : ChunkedRead) (body rest : Octets) : Prop :=
  r.how = .body body ∧ r.buffer ++ r.reads.flatMap Read.octets = rest

/-- At the end of the body, what is behind it is what was left in the buffer and what has not been read. -/
theorem returns_body_iff {before buffer body rest : Octets} {pieces : List Octets} :
    ChunkedRead.Returns ⟨.body before, buffer, pieces.map .data⟩ body rest ↔
      before = body ∧ buffer ++ pieces.flatten = rest := by
  rw [ChunkedRead.Returns, flatMap_octets, ChunkedEnd.body.injEq]

/-- A chunk that is let through fits the body, where the limit is not one of almost the largest count. -/
theorem length_le_of_not_isTooMuch {limits : Limits} (hlimit : limits.body + 2 < countBound) {before : Octets}
    {size : Nat} (h : ¬ Decoder.isTooMuch limits before size = true) : before.length + size ≤ limits.body := by
  simp only [Decoder.isTooMuch, decide_eq_true_eq] at h
  omega

/-- The limit is on the whole body, so also on what there is of it already. -/
theorem length_le_of_codedBehind {limit : Nat} {before bytes body rest : Octets}
    (h : CodedBehind limit before bytes body rest) : before.length ≤ limit := by
  obtain ⟨cs, last, trailers, -, -, -, rfl, hlimit⟩ := h
  rw [List.length_append] at hlimit
  omega

/-- **The rest of a body is read exactly where the octets have the form.** -/
theorem returns_iff_codedBehind {limits : Limits} (hlimit : limits.body + 2 < countBound) {before buffer : Octets}
    (hbefore : before.length ≤ limits.body) {pieces : List Octets} (hne : ∀ c ∈ pieces, c ≠ []) (body rest : Octets) :
    (readChunked limits before buffer (pieces.map .data)).Returns body rest ↔
      CodedBehind limits.body before (buffer ++ pieces.flatten) body rest := by
  -- The cases are the ends of the reading. The form is opened as far as the parts were got; then either the next part
  -- is not to be had of any octets that are left, or the rest is another body of this form.
  generalize hreads : pieces.map Read.data = reads
  fun_induction readChunked limits before buffer reads generalizing pieces with
  | case1 before buffer reads e left later hline =>
    subst hreads
    rw [codedBehind_iff]
    refine iff_of_false (fun h => by cases h.1) ?_
    rintro ⟨size, mid, hwhole, -⟩
    exact not_got_of_await Portion.resumes_sizeLine hne hline size mid hwhole
  | case2 before buffer reads mid later e left' later' hend hline =>
    subst hreads
    obtain ⟨pieces', rfl, hne', hwhole⟩ := got_of_await Portion.resumes_sizeLine hne hline
    rw [codedBehind_iff_of_sizeLine hwhole, if_pos rfl]
    refine iff_of_false (fun h => by cases h.1) fun h => ?_
    exact not_got_of_await Portion.resumes_trailers hne' hend () rest h.1
  | case3 before buffer reads mid later rest' later' hend hline =>
    subst hreads
    obtain ⟨pieces', rfl, hne', hwhole⟩ := got_of_await Portion.resumes_sizeLine hne hline
    obtain ⟨pieces'', rfl, -, hwhole'⟩ := got_of_await Portion.resumes_trailers hne' hend
    rw [codedBehind_iff_of_sizeLine hwhole, if_pos rfl, hwhole', returns_body_iff, Portion.got.injEq]
    constructor
    · rintro ⟨rfl, rfl⟩
      exact ⟨⟨rfl, rfl⟩, rfl, hbefore⟩
    · rintro ⟨⟨-, rfl⟩, rfl, -⟩
      exact ⟨rfl, rfl⟩
  | case4 before buffer reads size mid later hline hzero hmuch =>
    subst hreads
    obtain ⟨pieces', rfl, hne', hwhole⟩ := got_of_await Portion.resumes_sizeLine hne hline
    rw [codedBehind_iff_of_sizeLine hwhole, if_neg hzero]
    refine iff_of_false (fun h => by cases h.1) ?_
    rintro ⟨data, mid', htake, hcoded⟩
    -- A chunk that is not let through does not fit the limit either.
    have hlength := Decoder.length_of_takeChunk (Portion.chunk_eq_got_iff.mp htake)
    have hfits := length_le_of_codedBehind hcoded
    simp only [Decoder.isTooMuch, decide_eq_true_eq, List.length_append] at hmuch hfits
    omega
  | case5 before buffer reads size mid later hline hzero hmuch hbound =>
    -- A chunk of this size would not be let through.
    have hfits := length_le_of_not_isTooMuch hlimit hmuch
    omega
  | case6 before buffer reads size mid later hline hzero hmuch hbound e left' later' htake =>
    subst hreads
    obtain ⟨pieces', rfl, hne', hwhole⟩ := got_of_await Portion.resumes_sizeLine hne hline
    rw [codedBehind_iff_of_sizeLine hwhole, if_neg hzero]
    refine iff_of_false (fun h => by cases h.1) ?_
    rintro ⟨data, mid', hgot, -⟩
    exact not_got_of_await (Portion.resumes_chunk size) hne' htake data mid' hgot
  | case7 before buffer reads size mid later hline hzero hmuch hbound data mid' later' htake ih =>
    subst hreads
    obtain ⟨pieces', rfl, hne', hwhole⟩ := got_of_await Portion.resumes_sizeLine hne hline
    obtain ⟨pieces'', rfl, hne'', hwhole'⟩ := got_of_await (Portion.resumes_chunk size) hne' htake
    have hlength := Decoder.length_of_takeChunk (Portion.chunk_eq_got_iff.mp hwhole')
    have hfits : (before ++ data).length ≤ limits.body := by
      rw [List.length_append, hlength]
      exact length_le_of_not_isTooMuch hlimit hmuch
    rw [codedBehind_iff_of_sizeLine hwhole, if_neg hzero, ih hfits hne'' rfl, hwhole']
    constructor
    · exact fun hcoded => ⟨data, _, rfl, hcoded⟩
    · rintro ⟨data', mid'', heq, hcoded⟩
      obtain ⟨rfl, rfl⟩ := Portion.got.inj heq
      exact hcoded

/-- **A body in chunks is read exactly where the octets have its form.** However the octets are cut, the body that comes
of them is the octets of the chunks put together, and what is left is what stands behind the lines after the last chunk;
so every list of chunks within the limit is read as itself, whatever its octets look like, and nothing else is read at
all. The decoder comes to the same end, and looks at the body as text. -/
theorem readChunked_returns_iff (limits : Limits) (hlimit : limits.body + 2 < countBound) (buffer : Octets)
    (pieces : List Octets) (hne : ∀ c ∈ pieces, c ≠ []) :
    (∀ body rest, (readChunked limits [] buffer (pieces.map .data)).Returns body rest ↔
      Coded limits.body (buffer ++ pieces.flatten) body rest) ∧
    ∀ (H : Type) (form : Form H) (head : H),
      readOn form limits (Decoder.body limits head .chunked buffer) (pieces.map .data) =
        (readChunked limits [] buffer (pieces.map .data)).asMessage head := by
  refine ⟨fun body rest => ?_, fun H form head => readOn_chunks form limits head [] buffer _⟩
  exact returns_iff_codedBehind hlimit (Nat.zero_le _) hne body rest

/-- A chunk with a line end in it, an extension and a field behind the last chunk, cut inside of line ends. -/
theorem readChunked_returns_iff_cut :
    let pieces := [octets "4;x=y\r", octets "\na\r\nb\r", octets "\n0\r\nT: 1\r\n\r", octets "\nGET"]
    Limits.standard.body + 2 < countBound ∧ (∀ c ∈ pieces, c ≠ []) ∧
      (readChunked .standard [] [] (pieces.map .data)).Returns (octets "a\r\nb") (octets "GET") := by
  intro pieces
  have hlimit : Limits.standard.body + 2 < countBound := by decide
  have hne : ∀ c ∈ pieces, c ≠ [] := by decide
  obtain ⟨trailers, htrailers, hbytes⟩ := Decoder.dropLines_eq_ended_iff.mp
    (show Decoder.dropLines [] true (octets "T: 1\r\n\r\n") = .ended [] from rfl)
  rw [List.append_nil] at hbytes
  subst hbytes
  have hcoded : Coded Limits.standard.body ([] ++ pieces.flatten) (octets "a\r\nb") (octets "GET") :=
    ⟨[⟨octets "4;x=y\r\n", octets "a\r\nb", rfl, by decide⟩], octets "0\r\n", octets "T: 1\r\n\r\n", rfl, htrailers,
      by decide, rfl, by decide⟩
  exact ⟨hlimit, hne, ((readChunked_returns_iff .standard hlimit [] pieces hne).1 _ _).mpr hcoded⟩

end Reader

end HttpService
