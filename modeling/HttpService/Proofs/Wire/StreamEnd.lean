import HttpService.Proofs.Wire.Buffered
import HttpService.Proofs.Wire.Spelled

/-!
# Messages that the end of the stream ends

A reader comes to the end of the stream either way: by waiting for it, or not at all. Which of the two a message needs
is said by its head alone.

* `Stage.Framed` — the stage of a decoder is one that the head asks for. Every step keeps this.
* `Reader.meetsEnd_iff_of_message` — a message was read to the end of the stream exactly if its head says that the body
  lasts so long. Then no octet is left.
-/

namespace HttpService

variable {H : Type} {form : Form H} {limits : Limits} {head : H}

/-! ## Stages and what the head says -/

/-- The body of the message lasts to the end of the stream if it is in the one stage that waits for that, and not if it
is in another. -/
def Stage.Framed (form : Form H) : Stage H → Prop
  | .head => True
  | .open head => form.framing head = .ok .untilEnd
  | .sized head _ | .chunkSize head _ | .chunk head _ _ | .trailers head _ => form.framing head ≠ .ok .untilEnd

/-- A message that a step ends is not one that the end of the stream ends. -/
def Progress.Framed (form : Form H) : Progress H → Prop
  | .wants d => d.stage.Framed form
  | .ended (.message head _) _ => form.framing head ≠ .ok .untilEnd
  | .ended _ _ => True

namespace Decoder

section

variable (hframing : form.framing head ≠ .ok .untilEnd)

include hframing

/-- A message that has ended waits for no end of the stream. -/
theorem framed_finish (body left : Octets) : (finish head body left).Framed form := by
  unfold finish
  split
  · exact hframing
  · trivial

/-- A body of known length does not last to the end. -/
theorem framed_sized (n : Nat) (buffer : Octets) : (sized head n buffer).Framed form := by
  unfold sized
  split
  · exact hframing
  · exact framed_finish hframing _ _

theorem framed_trailers (body buffer : Octets) : (trailers head body buffer).Framed form := by
  unfold trailers
  split
  · exact framed_finish hframing _ _
  · exact hframing

/-- Chunks have a last one. -/
theorem framed_chunks (limits : Limits) (body buffer : Octets) : (chunks limits head body buffer).Framed form := by
  fun_induction chunks limits head body buffer with
  | case1 => exact hframing
  | case3 body buffer rest hscan => exact framed_trailers hframing body rest
  | case6 => exact hframing
  | case8 body buffer size rest hscan hsize hmuch hbound data rest' htake ih => exact ih
  | _ => trivial

end

/-- Only where the framing says so is a body open. -/
theorem framed_body {framing : Framing} (hframing : form.framing head = .ok framing) (limits : Limits)
    (buffer : Octets) : (body limits head framing buffer).Framed form := by
  have hne : framing ≠ .untilEnd → form.framing head ≠ .ok .untilEnd := by
    rintro hne hsame
    rw [hframing] at hsame
    exact hne (Except.ok.inj hsame)
  cases framing with
  | none => exact hne Framing.noConfusion
  | length n =>
    show (if limits.body < n then refuse _ buffer else sized head n buffer).Framed form
    split
    · trivial
    · exact framed_sized (hne Framing.noConfusion) n buffer
  | untilEnd => exact hframing
  | chunked => exact framed_chunks (hne Framing.noConfusion) limits [] buffer

/-- A step opens a body only for a head whose framing says so. -/
theorem framed_advance (limits : Limits) {d : Decoder H} (h : d.stage.Framed form) :
    (advance form limits d).Framed form := by
  obtain ⟨stage, buffer⟩ := d
  -- A body is opened where the head says so, and no other stage leads there.
  cases stage with
  | head =>
    rcases begins_or_wants_or_failed form limits buffer with
      ⟨head, rest, framing, hbegins⟩ | ⟨-, hwants⟩ | ⟨e, left, hfailed⟩
    · rw [advance_of_begins hbegins]
      exact framed_body hbegins.framing limits rest
    · rw [hwants]
      trivial
    · rw [hfailed]
      trivial
  | sized head length => exact framed_sized h length buffer
  | «open» head => exact h
  | chunkSize head body => exact framed_chunks h limits body buffer
  | chunk head body size =>
    unfold advance
    dsimp only
    split
    · exact h
    · trivial
    · exact framed_chunks h limits _ _
  | trailers head body => exact framed_trailers h body buffer

end Decoder

namespace Reader

/-- A read that brings octets does not change the head. -/
theorem framed_receive (limits : Limits) {d : Decoder H} (h : d.stage.Framed form) {r : Read} (hr : r ≠ .data []) :
    (receive form limits d r).Framed form := by
  rcases r with (_ | ⟨b, bs⟩) | cause | _
  · exact absurd rfl hr
  · obtain ⟨stage, buffer⟩ := d
    -- A body up to the end of the stream keeps its stage, and any other stage is that of an advance.
    by_cases hopen : ∃ head, stage = .open head
    · obtain ⟨head, rfl⟩ := hopen
      show (if limits.body < (buffer ++ b :: bs).length then Decoder.refuse _ _ else
        Progress.wants ⟨.open head, buffer ++ b :: bs⟩).Framed form
      split
      · trivial
      · exact h
    · rw [receive_data form limits (fun head hstage => hopen ⟨head, hstage⟩) buffer (List.cons_ne_nil b bs)]
      exact Decoder.framed_advance limits h
  · trivial
  · trivial

/-! ## Reading to the end of the stream -/

/-- The reader waits for more, and the stream has ended. -/
def MeetsEnd (form : Form H) (limits : Limits) (buffer : Octets) (reads : List Read) : Prop :=
  ∃ before after d, reads = before ++ after ∧ Asks form limits buffer before d ∧ Ends after

/-- Nothing is open before the head is read. -/
theorem framed_start (form : Form H) (limits : Limits) (buffer : Octets) :
    ((Decoder.start buffer).advance form limits).Framed form := by
  have hhead : (Decoder.start buffer : Decoder H).stage.Framed form := trivial
  exact Decoder.framed_advance limits hhead

/-- So wherever the reader waits: it waits for the end of the stream only after such a head. -/
theorem framed_of_asks {buffer : Octets} {reads : List Read} {d : Decoder H} (h : Asks form limits buffer reads d) :
    d.stage.Framed form := by
  have hstart := framed_start form limits buffer
  refine readSome_keeps (P := fun d => d.stage.Framed form) h (fun d hd => ?_) fun d d' r _ hd hreceive => ?_
  · rw [hd] at hstart
    exact hstart
  · by_cases hr : r = .data []
    · -- The end of the stream leaves nothing waiting.
      subst hr
      obtain ⟨how, left, hend⟩ := exists_atEnd d
      have hended : receive form limits d (.data []) = .ended how left := hend
      rw [hended] at hreceive
      cases hreceive
    · have hframed := framed_receive limits hd hr
      rw [hreceive] at hframed
      exact hframed

variable {buffer left : Octets} {reads after : List Read} {text : String}

/-- A message for which the end of the stream is waited for is one that needs it, and takes all that there is. -/
theorem untilEnd_of_meetsEnd (hmeets : MeetsEnd form limits buffer reads)
    (hread : read form limits buffer reads = ⟨.message head text, left, after⟩) :
    form.framing head = .ok .untilEnd ∧ left = [] := by
  obtain ⟨before, rest, d, rfl, hasks, hends⟩ := hmeets
  rw [read_of_asks hasks] at hread
  obtain ⟨how, left', hend⟩ := exists_atEnd d
  -- The stream ends where the decoder waits, with or without a last read that tells so.
  have hresult : readOn form limits (.wants d) rest = ⟨how, left', rest.tail⟩ := by
    cases rest with
    | nil =>
      rw [readOn]
      simp only [hend]
      rfl
    | cons r rest =>
      obtain rfl : r = .data [] := hends r rfl
      have hreceive : receive form limits d (.data []) = .ended how left' := hend
      rw [readOn, hreceive, readOn_ended]
      rfl
  rw [hresult] at hread
  obtain ⟨rfl, rfl, -⟩ := ReadResult.mk.inj hread
  obtain ⟨hstage, hleft⟩ := atEnd_eq_message hend
  -- Only an open body is complete there.
  have hframed := framed_of_asks hasks
  rw [hstage] at hframed
  exact ⟨hframed, hleft⟩

/-- Such a message is read in no other way. -/
theorem exists_readSome_of_untilEnd {p : Progress H} (hp : p.Framed form) (huntil : form.framing head = .ok .untilEnd)
    (hread : (readOn form limits p reads).how = .message head text) :
    ∃ before rest d, reads = before ++ rest ∧ readSome form limits p before = (.wants d, []) ∧ Ends rest := by
  -- On the reads, of which those that bring octets come first: such a message cannot end at one of them.
  induction reads generalizing p with
  | nil =>
    cases p with
    | ended how left =>
      rw [readOn_ended] at hread
      obtain rfl : how = .message head text := hread
      exact absurd huntil hp
    | wants d => exact ⟨[], [], d, rfl, rfl, fun r hr => by cases hr⟩
  | cons r reads ih =>
    cases p with
    | ended how left =>
      rw [readOn_ended] at hread
      obtain rfl : how = .message head text := hread
      exact absurd huntil hp
    | wants d =>
      by_cases hr : r = .data []
      · exact ⟨[], r :: reads, d, rfl, rfl, fun r' hr' => (Option.some.inj hr').symm.trans hr⟩
      · rw [readOn] at hread
        obtain ⟨before, rest, d', hreads, hsome, hends⟩ := ih (framed_receive limits hp hr) hread
        refine ⟨r :: before, rest, d', congrArg (r :: ·) hreads, ?_, hends⟩
        rw [readSome]
        exact hsome

/-- **What is read to the end of the stream.** A message was read by waiting for the end of the stream exactly if its
head says that the body lasts so long; and then nothing of what came is left. -/
theorem meetsEnd_iff_of_message (hread : read form limits buffer reads = ⟨.message head text, left, after⟩) :
    (MeetsEnd form limits buffer reads ↔ form.framing head = .ok .untilEnd) ∧
      (form.framing head = .ok .untilEnd → left = []) := by
  have hmeets : form.framing head = .ok .untilEnd → MeetsEnd form limits buffer reads := by
    intro huntil
    exact exists_readSome_of_untilEnd (framed_start form limits buffer) huntil (congrArg ReadResult.how hread)
  exact ⟨⟨fun h => (untilEnd_of_meetsEnd h hread).1, hmeets⟩, fun h => (untilEnd_of_meetsEnd (hmeets h) hread).2⟩

end Reader

end HttpService
