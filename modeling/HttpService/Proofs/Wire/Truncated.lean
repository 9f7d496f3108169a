import HttpService.Proofs.Wire.Buffered

/-!
# Messages that are cut off

A stream may end at any octet of a message: in a line of the head, between the CR and the LF of a line end, in a chunk.
Whatever came before the cut then leads to waiting and to nothing else, since one more octet could still complete the
message. And the end of the stream is told to be one inside of a message, since a head that has begun stays in the
buffer until it is complete.

* `Form.Cut` — the octets are a message but for some at its end.
* `Progress.KeepsHead` — a decoder that waits holds all of the head, or is past it.
* `Reader.exists_asks_of_cut` — octets of a message that is cut lead to waiting, in any pieces.
* `Reader.how_read_of_cut` — a stream that ends there fails as truncated.
-/

namespace HttpService

variable {H : Type}

/-- With some more octets, and not before the last of them, these are a message. -/
def Form.Cut (form : Form H) (limits : Limits) (bytes : Octets) : Prop :=
  ∃ rest head text, rest ≠ [] ∧
    Decoder.advance form limits ⟨.head, bytes ++ rest⟩ = .ended (.message head text) []

/-- What is cut short stays so when it is cut shorter. -/
theorem Form.Cut.of_append {form : Form H} {limits : Limits} {bytes more : Octets}
    (h : form.Cut limits (bytes ++ more)) : form.Cut limits bytes := by
  obtain ⟨rest, head, text, hne, hended⟩ := h
  refine ⟨more ++ rest, head, text, List.append_ne_nil_of_right_ne_nil more hne, ?_⟩
  rwa [← List.append_assoc]

/-- Of a message with an end of its own, every part before that end is cut short. -/
theorem Form.Spells.cut {form : Form H} {limits : Limits} {bytes rest : Octets} {head : H} {text : String}
    (h : form.Spells limits (bytes ++ rest) head text) (hends : ¬ form.LastsToEnd limits (bytes ++ rest))
    (hrest : rest ≠ []) : form.Cut limits bytes :=
  ⟨rest, head, text, hrest, Reader.advance_of_spells h hends⟩

/-! ## Waiting -/

/-- Where the octets of a message are cut, a decoder waits, and not for the end of the stream. -/
theorem Progress.Follows.wants_of_cut {form : Form H} {limits : Limits} {seen : Octets} {p : Progress H}
    (hp : p.Follows form limits seen) (hcut : form.Cut limits seen) :
    ∃ d, p = .wants d ∧ ∀ head, d.stage ≠ .open head := by
  obtain ⟨rest, head, text, hne, hended⟩ := hcut
  have hresume := hp.resume_of_ended hended
  cases p with
  | ended how left =>
    -- What is still to come of the message would be left.
    obtain ⟨-, hleft⟩ := Progress.ended.inj hresume
    exact absurd (List.append_eq_nil_iff.mp hleft).2 hne
  | wants d =>
    obtain ⟨stage, buffer⟩ := d
    refine ⟨_, rfl, ?_⟩
    rintro head' rfl
    cases hresume

/-- A decoder that waits has all of these octets in its buffer as those of the head, or is past the head. -/
def Progress.KeepsHead (limits : Limits) (seen : Octets) (p : Progress H) : Prop :=
  ∀ d, p = .wants d → d = ⟨.head, seen⟩ ∨ ∃ head, d.stage.Within limits head d.buffer

/-- A step keeps the head, and waits for more where the octets are not enough. -/
theorem Decoder.keepsHead_advance {form : Form H} {limits : Limits} {seen : Octets}
    (hends : ¬ form.LastsToEnd limits seen) : (advance form limits ⟨.head, seen⟩).KeepsHead limits seen := by
  intro d hd
  rcases begins_or_wants_or_failed form limits seen with
    ⟨head, rest, framing, hbegins⟩ | ⟨-, hwants⟩ | ⟨e, left, hfailed⟩
  -- A body up to the end of the stream cannot be cut off, so there is none here.
  · have huntil : framing ≠ .untilEnd := by
      rintro rfl
      exact hends ⟨head, rest, hbegins⟩
    have hwithin : (body limits head framing rest).Within limits head := within_body huntil rest
    rw [← advance_of_begins hbegins, hd] at hwithin
    exact .inr ⟨head, hwithin⟩
  · rw [hwants] at hd
    exact .inl (Progress.wants.inj hd).symm
  · rw [hfailed] at hd
    cases hd

namespace Reader

variable {form : Form H} {limits : Limits}

/-- So does a read that brings octets. -/
theorem keepsHead_receive {d : Decoder H} {seen arrived : Octets} (hd : (Progress.wants d).KeepsHead limits seen)
    (hends : ¬ form.LastsToEnd limits (seen ++ arrived)) (hne : arrived ≠ []) :
    (receive form limits d (.data arrived)).KeepsHead limits (seen ++ arrived) := by
  rcases hd d rfl with rfl | ⟨head, hwithin⟩
  -- More of the head joins what there is, and behind the head nothing comes back to it.
  · rw [receive_data form limits (fun _ h => by cases h) seen hne]
    exact Decoder.keepsHead_advance hends
  · intro d' hd'
    have hwithin' := within_receive form hwithin (.data arrived)
    rw [hd'] at hwithin'
    exact .inr ⟨head, hwithin'⟩

/-- **Octets of a message that is cut lead to waiting**, whatever pieces they come in. -/
theorem exists_asks_of_cut (hf : form.scan.Complete) (hends : ∀ bytes, ¬ form.LastsToEnd limits bytes)
    {p : Progress H} {seen : Octets} {pieces : List Octets} (hp : p.Follows form limits seen)
    (hkeeps : p.KeepsHead limits seen) (hne : ∀ c ∈ pieces, c ≠ [])
    (hcut : form.Cut limits (seen ++ pieces.flatten)) :
    ∃ d, readSome form limits p (pieces.map .data) = (.wants d, []) ∧ (∀ head, d.stage ≠ .open head) ∧
      (d = ⟨.head, seen ++ pieces.flatten⟩ ∨ ∃ head, d.stage.Within limits head d.buffer) := by
  obtain ⟨d, rfl, hstage⟩ := hp.wants_of_cut hcut.of_append
  -- Two facts go along with the pieces: what came leads to this decoder, and it keeps the head until that is complete.
  induction pieces generalizing d seen with
  | nil =>
    refine ⟨d, by rw [List.map_nil, readSome], hstage, ?_⟩
    rw [List.flatten_nil, List.append_nil]
    exact hkeeps d rfl
  | cons c cs ih =>
    have hc : c ≠ [] := hne c List.mem_cons_self
    have hkeeps' := keepsHead_receive hkeeps (hends (seen ++ c)) hc
    rw [List.flatten_cons, ← List.append_assoc] at hcut ⊢
    obtain ⟨stage, buffer⟩ := d
    have hreceive := receive_data form limits hstage buffer hc
    rw [hreceive] at hkeeps'
    have hp' := hp.advance hf c
    obtain ⟨d', hd', hstage'⟩ := hp'.wants_of_cut hcut.of_append
    rw [hd'] at hp' hkeeps'
    rw [List.map_cons, readSome, hreceive, hd']
    exact ih (fun c' hc' => hne c' (List.mem_cons_of_mem c hc')) hcut d' hstage' hp' hkeeps'

/-! ## The end of the stream -/

/-- A decoder that waits in a message with an end of its own finds it truncated at the end of the stream. -/
theorem atEnd_of_within {d : Decoder H} {head : H} (hwithin : d.stage.Within limits head d.buffer)
    (hstage : ∀ head, d.stage ≠ .open head) : d.atEnd = .ended (.failed (.io .truncated)) d.buffer := by
  obtain ⟨stage, buffer⟩ := d
  cases stage with
  | head => exact hwithin.elim
  | «open» head' => exact absurd rfl (hstage head')
  | sized head' n => rfl
  | chunkSize head' body => rfl
  | chunk head' body size => rfl
  | trailers head' body => rfl

/-- **A stream that ends inside of a message fails as truncated**, wherever that is and in whatever pieces the octets
came. -/
theorem how_read_of_cut (hf : form.scan.Complete) (hends : ∀ bytes, ¬ form.LastsToEnd limits bytes)
    {buffer : Octets} {pieces : List Octets} {after : List Read} (hne : ∀ c ∈ pieces, c ≠ [])
    (hcut : form.Cut limits (buffer ++ pieces.flatten)) (hbegun : buffer ++ pieces.flatten ≠ []) (hafter : Ends after) :
    (read form limits buffer (pieces.map .data ++ after)).how = .failed (.io .truncated) := by
  obtain ⟨d, hasks, hstage, hheld⟩ := exists_asks_of_cut hf hends
    (fun more => Decoder.advance_append hf limits .head buffer more) (Decoder.keepsHead_advance (hends buffer)) hne hcut
  have hread : read form limits buffer (pieces.map .data ++ after) = readOn form limits (.wants d) after :=
    read_of_asks hasks after
  rw [hread]
  -- The stream ends in the head, of which something has come, or in the body of a head that was read.
  rcases hheld with rfl | ⟨head, hwithin⟩
  · have hend : (⟨.head, buffer ++ pieces.flatten⟩ : Decoder H).atEnd =
        .ended (.failed (.io .truncated)) (buffer ++ pieces.flatten) := by
      obtain ⟨b, bs, hbs⟩ := List.exists_cons_of_ne_nil hbegun
      rw [hbs]
      rfl
    exact how_readOn_of_ends hend hafter
  · exact how_readOn_of_ends (atEnd_of_within hwithin hstage) hafter

end Reader

end HttpService
