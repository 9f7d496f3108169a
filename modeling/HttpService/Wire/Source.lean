import HttpService.Wire.Reader

/-!
# Reading from a source

A source brings one read after the other, wherever they come from. A message is read from every source by the same
steps (`Reader.readFrom`): from a connection of the system, where a read is an effect, and from a list of reads
(`Reader.nextRead`).

* `Reader.run_readFrom` — from a list the same message is read as by `Reader.read`, and the same reads are left.
-/

namespace HttpService.Reader

variable {H : Type} {m : Type → Type} [Monad m]

/-- There is an end to every message: the reader may break off, with nothing left. -/
instance : Nonempty (Ended H × Octets) := ⟨(.overflowed, [])⟩

/-- Takes a read from a source, unless the message has come to its end. -/
def step (form : Form H) (limits : Limits) (source : m Read) : Progress H → m (Progress H ⊕ Ended H × Octets)
  | .ended how left => return .inr (how, left)
  | .wants d => return .inl (receive form limits d (← source))

/-- Reads one message from a source: how that ends, and the octets that are left. -/
def readFrom (form : Form H) (limits : Limits) (source : m Read) (buffer : Octets) : m (Ended H × Octets) :=
  repeatM (step form limits source) ((Decoder.start buffer).advance form limits)

/-- The source that is a list of reads. Behind the last of them it brings nothing more, which is the end. -/
def nextRead : StateM (List Read) Read := fun reads => (reads.headD (.data []), reads.tail)

/-! ## Reading from a list -/

section Lists

variable (form : Form H) (limits : Limits)

/-- Behind the end of a message nothing is read. -/
theorem run_repeat_ended (how : Ended H) (left : Octets) (reads : List Read) :
    (repeatM (step form limits nextRead) (.ended how left)).run reads = ((how, left), reads) := by
  rw [repeatM_eq_of_monadTail]
  rfl

/-- A decoder that wants more is fed with the next read. -/
theorem run_repeat_wants (d : Decoder H) (reads : List Read) :
    (repeatM (step form limits nextRead) (.wants d)).run reads =
      (repeatM (step form limits nextRead) (receive form limits d (reads.headD (.data [])))).run reads.tail := by
  rw [repeatM_eq_of_monadTail]
  rfl

/-- Feeding a decoder read by read is reading on along the list. -/
theorem run_repeat_step (p : Progress H) (reads : List Read) :
    (repeatM (step form limits nextRead) p).run reads =
      (((readOn form limits p reads).how, (readOn form limits p reads).buffer),
        (readOn form limits p reads).reads) := by
  -- On the reads: each of them is one turn of the loop, and behind the last one the decoder comes to its end.
  induction reads generalizing p with
  | nil =>
    cases p with
    | ended how left => exact run_repeat_ended form limits how left []
    | wants d =>
      obtain ⟨how, left, hend⟩ := exists_atEnd d
      have hreceive : receive form limits d (.data []) = .ended how left := hend
      rw [run_repeat_wants, List.headD_nil, hreceive, run_repeat_ended]
      simp only [readOn, hend, List.tail_nil]
  | cons r reads ih =>
    cases p with
    | ended how left => exact run_repeat_ended form limits how left (r :: reads)
    | wants d =>
      rw [run_repeat_wants]
      exact ih (receive form limits d r)

/-- **From a list of reads the same message is read**, and the same reads are left. -/
theorem run_readFrom (buffer : Octets) (reads : List Read) :
    (readFrom form limits nextRead buffer).run reads =
      (((read form limits buffer reads).how, (read form limits buffer reads).buffer),
        (read form limits buffer reads).reads) :=
  run_repeat_step form limits _ reads

end Lists

end HttpService.Reader
