import HttpService.Wire.Reader

/-!
# What reading uses up

A scanner leaves a suffix of what it was given (`Scan.Suffix`), and the scanner of a request's head at least one
octet less (`shortens_requestHead`). So every request that is read from a connection uses up octets of the
buffer or of the stream (`Reader.available_lt`), which is why a session on a finite stream comes to an end.
-/

namespace HttpService

namespace Scan

/-- What the scanner leaves is a suffix of what it was given. -/
def Suffix {α : Type} (s : Scan α) : Prop := ∀ bs a rest, s bs = .done a rest → rest <:+ bs

/-- The scanner leaves less than it was given. -/
def Shortens {α : Type} (s : Scan α) : Prop := ∀ bs a rest, s bs = .done a rest → rest.length < bs.length

theorem suffix_result {α : Type} (a : α) : Suffix (result a) := by
  intro bs b rest h
  obtain ⟨_, rfl⟩ := Scanned.done.inj h
  exact List.suffix_rfl

/-- A scanner that never ends well leaves nothing to compare. -/
theorem suffix_fail {α : Type} (fault : MessageFault) : Suffix (fail fault : Scan α) := by
  intro bs a rest h
  cases h

/-- The one octet read was the first. -/
theorem suffix_next : Suffix next := by
  intro bs a rest h
  cases bs with
  | nil => cases h
  | cons b bs =>
    obtain ⟨_, rfl⟩ := Scanned.done.inj h
    exact List.suffix_cons b bs

/-- So was the one expected. -/
theorem suffix_expect (b : UInt8) (fault : MessageFault) : Suffix (expect b fault) := by
  intro bs a rest h
  cases bs with
  | nil => cases h
  | cons c bs =>
    simp only [expect] at h
    split at h
    · obtain ⟨_, rfl⟩ := Scanned.done.inj h
      exact List.suffix_cons c bs
    · cases h

/-- A run stops in front of the octet that ends it. -/
theorem suffix_run (p : UInt8 → Bool) : Suffix (run p) := by
  intro bs a rest h
  have := List.dropWhile_suffix p (l := bs)
  unfold run at h
  split at h
  · cases h
  next e =>
    obtain ⟨_, rfl⟩ := Scanned.done.inj h
    rwa [e] at this

/-- What the second scanner leaves ends what the first one left. -/
theorem suffix_andThen {α β : Type} {s : Scan α} {f : α → Scan β} (hs : Suffix s)
    (hf : ∀ a, Suffix (f a)) : Suffix (andThen s f) := by
  intro bs b rest h
  unfold andThen at h
  split at h
  next a mid e => exact (hf a mid b rest h).trans (hs bs a mid e)
  · cases h
  · cases h

/-- A test between two scanners reads nothing itself. -/
theorem suffix_ite {α : Type} {c : Prop} [Decidable c] {s t : Scan α} (hs : Suffix s) (ht : Suffix t) :
    Suffix (if c then s else t) := by
  split
  · exact hs
  · exact ht

/-- A line end is read off the front. -/
theorem suffix_lineEnd (bare other : MessageFault) : Suffix (lineEnd bare other) :=
  suffix_andThen suffix_next fun _ =>
    suffix_ite (suffix_expect 10 bare) (suffix_ite (suffix_result ()) (suffix_fail other))

/-- `next` cannot be done without an octet. -/
theorem shortens_next : Shortens next := by
  intro bs a rest h
  cases bs with
  | nil => cases h
  | cons b bs =>
    obtain ⟨_, rfl⟩ := Scanned.done.inj h
    exact Nat.lt_succ_self _

/-- It is enough for a sequence to shorten that its first part does. -/
theorem shortens_andThen {α β : Type} {s : Scan α} {f : α → Scan β} (hs : Shortens s)
    (hf : ∀ a, Suffix (f a)) : Shortens (andThen s f) := by
  intro bs b rest h
  unfold andThen at h
  split at h
  next a mid e => exact Nat.lt_of_le_of_lt (hf a mid b rest h).length_le (hs bs a mid e)
  · cases h
  · cases h

/-- It is also enough that its last part does, which is the case of a part that only looks ahead. -/
theorem shortens_andThen_right {α β : Type} {s : Scan α} {f : α → Scan β} (hs : Suffix s)
    (hf : ∀ a, Shortens (f a)) : Shortens (andThen s f) := by
  intro bs b rest h
  unfold andThen at h
  split at h
  next a mid e => exact Nat.lt_of_lt_of_le (hf a mid b rest h) (hs bs a mid e).length_le
  · cases h
  · cases h

end Scan

/-! ## Heads -/

namespace Head

open Scan

/-- Empty lines are skipped from the front, and the first line that is not empty is left whole. -/
theorem suffix_skipEmptyLines : Suffix skipEmptyLines := by
  intro bs a rest h
  fun_induction skipEmptyLines bs with
  | case1 => cases h
  | case2 _ ih => exact (ih h).trans (List.suffix_cons _ _)
  | case3 => cases h
  | case4 _ ih => exact (ih h).trans ((List.suffix_cons _ _).trans (List.suffix_cons _ _))
  | case5 => cases h
  | case6 =>
    obtain ⟨_, rfl⟩ := Scanned.done.inj h
    exact List.suffix_rfl

/-- A word uses the blank behind it, even where the word itself would be empty. -/
theorem shortens_word (p : UInt8 → Bool) : Shortens (word p) :=
  shortens_andThen_right (suffix_run p) fun w => shortens_andThen shortens_next fun _ =>
    suffix_ite (suffix_result w) (suffix_fail _)

/-- It is read off the front with that blank. -/
theorem suffix_word (p : UInt8 → Bool) : Suffix (word p) :=
  suffix_andThen (suffix_run p) fun w => suffix_andThen suffix_next fun _ =>
    suffix_ite (suffix_result w) (suffix_fail _)

/-- The target of a request line is read like a word. -/
theorem suffix_targetText : Suffix targetText := by
  refine suffix_andThen (suffix_word _) fun w => ?_
  cases w.text? with
  | some s => exact suffix_result s
  | none => exact suffix_fail _

/-- A fixed text is read octet by octet. -/
theorem suffix_expectAll (fault : MessageFault) (bs : Octets) : Suffix (expectAll fault bs) := by
  induction bs with
  | nil => exact suffix_result ()
  | cons b bs ih => exact suffix_andThen (suffix_expect b fault) fun _ => ih

/-- So is a version, whose last digit tells which it is. -/
theorem suffix_version : Suffix version :=
  suffix_andThen (suffix_expectAll _ _) fun _ => suffix_andThen suffix_next fun _ =>
    suffix_ite (suffix_result _) (suffix_ite (suffix_result _) (suffix_fail _))

/-- A field line is read to its line end. -/
theorem suffix_fieldLine (b : UInt8) : Suffix (fieldLine b) :=
  suffix_ite (suffix_fail _)
    (suffix_andThen (suffix_run _) fun _ => suffix_andThen (suffix_expect _ _) fun _ =>
      suffix_andThen (suffix_run _) fun _ => suffix_andThen (suffix_run _) fun _ =>
        suffix_andThen (suffix_lineEnd _ _) fun _ => suffix_result _)

/-- Field lines follow each other until the empty one; the induction is on the places left for them. -/
theorem suffix_fieldLines (slots : Nat) : Suffix (fieldLines slots) := by
  have hempty : Suffix (andThen (expect 10 .badNewLine) fun _ => result ([] : List Line)) :=
    suffix_andThen (suffix_expect _ _) fun _ => suffix_result _
  -- On the places left: the empty line ends the fields, and any other line is one of them.
  induction slots with
  | zero =>
    unfold fieldLines
    exact suffix_andThen suffix_next fun b =>
      suffix_ite hempty (suffix_ite (suffix_result _)
        (suffix_andThen (suffix_fieldLine b) fun _ => suffix_fail _))
  | succ slots ih =>
    unfold fieldLines
    exact suffix_andThen suffix_next fun b =>
      suffix_ite hempty (suffix_ite (suffix_result _)
        (suffix_andThen (suffix_fieldLine b) fun _ => suffix_andThen ih fun _ => suffix_result _))

/-- Making something of what was read reads nothing. -/
theorem suffix_settle {α : Type} (r : Except MessageFault α) : Suffix (settle r) := by
  cases r with
  | ok a => exact suffix_result a
  | error fault => exact suffix_fail fault

/-- The head of a request has at least one octet. -/
theorem shortens_requestHead : Shortens requestHead :=
  shortens_andThen_right suffix_skipEmptyLines fun _ => shortens_andThen (shortens_word _) fun _ =>
    suffix_andThen suffix_targetText fun _ => suffix_andThen suffix_version fun _ =>
      suffix_andThen (suffix_lineEnd _ _) fun _ => suffix_andThen (suffix_fieldLines _) fun _ =>
        suffix_andThen (suffix_settle _) fun _ => suffix_andThen (suffix_settle _) fun _ =>
          suffix_andThen (suffix_settle _) fun _ => suffix_result _

end Head
/-! ## Messages -/

variable {H : Type}

/-- Whether a decoder is still before or in the head. -/
def Stage.inHead : Stage H → Bool
  | .head => true
  | _ => false

/-- The most octets of the buffer that can be left after the message, and one more. Behind a head one octet has
been used already. -/
def Progress.bound : Progress H → Nat
  | .wants d => d.buffer.length + if d.stage.inHead then 0 else 1
  | .ended (.message ..) left => left.length + 1
  | .ended _ _ => 0

namespace Decoder

/-- A body that is all there ends the message: one step, and what follows it is not used. -/
theorem bound_finish (head : H) (body left : Octets) : (finish head body left).bound ≤ left.length + 1 := by
  unfold finish refuse
  split <;> simp [Progress.bound]

/-- A body of known length either ends the message or waits for more. -/
theorem bound_sized (head : H) (length : Nat) (buffer : Octets) :
    (sized head length buffer).bound ≤ buffer.length + 1 := by
  unfold sized
  split
  · simp [Progress.bound, Stage.inHead]
  · refine Nat.le_trans (bound_finish ..) ?_
    simp

/-- Trailers that end use the empty line at least; those that do not end keep no more than their last line. -/
theorem length_dropLines (line : Octets) (fresh : Bool) (bs : Octets) :
    match dropLines line fresh bs with
    | .ended rest => rest.length ≤ bs.length
    | .unended line' => line'.length ≤ max line.length bs.length := by
  -- Along the octets: a line end begins a new line, which is what is left if nothing more comes.
  fun_induction dropLines line fresh bs with
  | case1 => simp
  | case2 => exact Nat.le_max_left ..
  | case3 => exact Nat.le_trans (Nat.le_add_right ..) (Nat.le_add_right ..)
  | case4 line rest fresh h ih =>
    revert ih
    split
    · simp only [List.length_cons]
      omega
    · simp only [List.length_cons]
      omega
  | case5 line fresh b rest h h' ih =>
    revert ih
    split
    · simp only [List.length_cons]
      omega
    · simp only [List.length_cons]
      omega

/-- Passing over trailers never adds to what is yet to be read. -/
theorem bound_trailers (head : H) (body buffer : Octets) :
    (trailers head body buffer).bound ≤ buffer.length + 1 := by
  have h := length_dropLines buffer true buffer
  unfold trailers
  split
  next e =>
    rw [e] at h
    exact Nat.le_trans (bound_finish ..) (by simpa using h)
  next e =>
    rw [e] at h
    simpa [Progress.bound, Stage.inHead] using h

/-- Every chunk that is taken makes the buffer shorter, so the bound falls with it. -/
theorem bound_chunks (limits : Limits) (head : H) (body buffer : Octets) :
    (chunks limits head body buffer).bound ≤ buffer.length + 1 := by
  -- Along the chunks that are there: the size line of each pays for the step behind it.
  fun_induction chunks limits head body buffer with
  | case1 => simp [Progress.bound, Stage.inHead]
  | case2 => simp [refuse, Progress.bound]
  | case3 _ _ rest h =>
    have := ChunkSize.length_lt_of_scan h
    refine Nat.le_trans (bound_trailers ..) ?_
    omega
  | case4 => simp [refuse, Progress.bound]
  | case5 => simp [Progress.bound]
  | case6 _ _ _ _ h =>
    have := ChunkSize.length_lt_of_scan h
    simp only [Progress.bound, Stage.inHead]
    simp only [Bool.false_eq_true, if_false]
    omega
  | case7 => simp [refuse, Progress.bound]
  | case8 _ _ _ _ h _ _ _ _ _ h' ih =>
    have := ChunkSize.length_lt_of_scan h
    have := length_le_of_takeChunk h'
    omega

/-- However the body is framed, entering it costs no more than the octets that have arrived. -/
theorem bound_body (limits : Limits) (head : H) (framing : Framing) (buffer : Octets) :
    (body limits head framing buffer).bound ≤ buffer.length + 1 := by
  unfold body
  split
  · simp [Progress.bound]
  · split
    · simp [refuse, Progress.bound]
    · exact bound_sized ..
  · simp [Progress.bound, Stage.inHead]
  · exact bound_chunks ..

/-- A head that is read pays for the step into its body with its own octets. -/
theorem bound_advance {form : Form H} (hs : form.scan.Shortens) (limits : Limits) (d : Decoder H) :
    (d.advance form limits).bound ≤ (Progress.wants d).bound := by
  obtain ⟨stage, buffer⟩ := d
  unfold advance
  cases stage with
  | head =>
    simp only
    split
    next head rest e =>
      -- A head uses an octet at least, which pays for the step into the body.
      have := hs _ _ _ e
      split
      · simp [refuse, Progress.bound]
      · split
        · refine Nat.le_trans (bound_body ..) ?_
          simp only [Progress.bound, Stage.inHead, if_true]
          omega
        · simp [refuse, Progress.bound]
    · simp [refuse, Progress.bound]
    · split
      · simp [refuse, Progress.bound]
      · exact Nat.le_refl _
  | sized head length => simpa [Progress.bound, Stage.inHead] using bound_sized head length buffer
  | «open» head => exact Nat.le_refl _
  | chunkSize head body => simpa [Progress.bound, Stage.inHead] using bound_chunks limits head body buffer
  | chunk head body size =>
    simp only
    split
    · exact Nat.le_refl _
    · simp [refuse, Progress.bound]
    next e =>
      refine Nat.le_trans (bound_chunks ..) ?_
      -- What a chunk leaves is no more than there was, so the chunks behind it may be bounded by that.
      have := length_le_of_takeChunk e
      simp only [Progress.bound, Stage.inHead, Bool.false_eq_true, if_false]
      omega
  | trailers head body => simpa [Progress.bound, Stage.inHead] using bound_trailers head body buffer

/-- A read adds to the bound what it delivers, and no more. -/
theorem bound_feed {form : Form H} (hs : form.scan.Shortens) (limits : Limits) (d : Decoder H)
    (arrived : Octets) : (d.feed form limits arrived).bound ≤ (Progress.wants d).bound + arrived.length := by
  obtain ⟨stage, buffer⟩ := d
  -- Every stage but that of an open body goes on as if the arrival had been there before.
  have key (s : Stage H) (h : s = stage) :
      (advance form limits ⟨s, buffer ++ arrived⟩).bound ≤
        (Progress.wants (⟨stage, buffer⟩ : Decoder H)).bound + arrived.length := by
    subst h
    refine Nat.le_trans (bound_advance hs ..) ?_
    simp only [Progress.bound, List.length_append]
    omega
  unfold feed
  cases stage with
  | «open» head =>
    simp only
    split
    · simp [refuse, Progress.bound]
    · simp only [Progress.bound, Stage.inHead, List.length_append, Bool.false_eq_true, if_false]
      omega
  | _ => exact key _ rfl

/-- At the end of the stream nothing is added. -/
theorem bound_atEnd (d : Decoder H) : d.atEnd.bound ≤ (Progress.wants d).bound := by
  obtain ⟨stage, buffer⟩ := d
  cases stage with
  | «open» head =>
    refine Nat.le_trans (bound_finish ..) ?_
    simp [Progress.bound, Stage.inHead]
  | _ => simp [atEnd, Progress.bound]

end Decoder

namespace Reader

/-- The octets that a connection still brings, those in its buffer included. -/
def available (buffer : Octets) (reads : List Read) : Nat := buffer.length + (reads.map Read.size).foldr (· + ·) 0

/-- The same for whatever a read may deliver. -/
theorem bound_receive {form : Form H} (hs : form.scan.Shortens) (limits : Limits) (d : Decoder H) (r : Read) :
    (receive form limits d r).bound ≤ (Progress.wants d).bound + r.size := by
  unfold receive
  split
  · exact Nat.le_trans d.bound_atEnd (Nat.le_add_right ..)
  · exact d.bound_feed hs limits _
  · simp [Decoder.fault, Progress.bound]
  · simp [Decoder.expire, Progress.bound]

/-- After a message there is strictly less left to read than before it, which is what lets a session read one message
after another. -/
theorem available_readOn {form : Form H} (hs : form.scan.Shortens) (limits : Limits) (p : Progress H)
    (reads : List Read) {head : H} {body : String}
    (h : (readOn form limits p reads).how = .message head body) :
    available (readOn form limits p reads).buffer (readOn form limits p reads).reads <
      p.bound + (reads.map Read.size).foldr (· + ·) 0 := by
  -- Along the reads: each of them adds to the bound what it brings, and the step that ends the message pays for it.
  fun_induction readOn form limits p reads with
  | case1 how left reads =>
    simp only at h
    subst h
    simp only [available, Progress.bound]
    omega
  | case2 d how left e =>
    have := d.bound_atEnd
    simp only at h
    subst h
    rw [e] at this
    simp only [available, Progress.bound] at this ⊢
    simp only [List.map_nil, List.foldr_nil] at this ⊢
    omega
  | case3 => simp at h
  | case4 d r reads ih =>
    have := bound_receive hs limits d r
    have := ih h
    simp only [List.map_cons, List.foldr_cons]
    omega

/-- A message that is read uses up octets of its connection. -/
theorem available_lt {form : Form H} (hs : form.scan.Shortens) (limits : Limits) (buffer : Octets)
    (reads : List Read) {head : H} {body : String}
    (h : (read form limits buffer reads).how = .message head body) :
    available (read form limits buffer reads).buffer (read form limits buffer reads).reads <
      available buffer reads := by
  -- What the decoder holds after its first step was in the buffer.
  have hb : ((Decoder.start buffer : Decoder H).advance form limits).bound ≤ buffer.length :=
    Decoder.bound_advance hs limits (Decoder.start buffer)
  have := available_readOn hs limits _ reads h
  unfold read available at *
  omega

end Reader

end HttpService
