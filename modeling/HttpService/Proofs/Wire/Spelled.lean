import HttpService.Proofs.Wire.Taken

/-!
# Octets that spell a message

What was taken of a connection for a message is enough to read the message from, and no octet of it can be spared.

* `Form.Spells` — the octets are those of one message and no more.
* `Progress.Follows` — a decoder that has been fed piece by piece is where the octets seen so far lead.
* `Reader.exists_spells_of_message` — whatever the reads bring, a message that is read is the one that the octets taken
  for it spell.
* `Reader.read_of_spells` — octets that spell a message are read as it from any pieces, and what follows them is left.
-/

namespace HttpService

variable {H : Type}

/-- The octets are those of the message, to the last: read by themselves they give it, and none is left. -/
def Form.Spells (form : Form H) (limits : Limits) (bytes : Octets) (head : H) (text : String) : Prop :=
  Reader.read form limits bytes [] = ⟨.message head text, [], []⟩

namespace Reader

variable {form : Form H} {limits : Limits} {head : H} {text : String}

/-- At the end of the stream only a body without a length makes a message, and it is everything that there is. -/
theorem atEnd_eq_message {d : Decoder H} {left : Octets} (h : d.atEnd = .ended (.message head text) left) :
    d.stage = .open head ∧ left = [] := by
  unfold Decoder.atEnd at h
  split at h
  next => cases h
  next head' hstage =>
    obtain ⟨rfl, -⟩ := Decoder.eq_of_finish h
    exact ⟨hstage, Decoder.left_of_finish h⟩
  next => cases h

/-- Octets that are read by themselves come to a message at once, or at the end of the stream. -/
theorem advance_of_read_nil {bytes left : Octets} {reads : List Read}
    (h : read form limits bytes [] = ⟨.message head text, left, reads⟩) :
    Decoder.advance form limits ⟨.head, bytes⟩ = .ended (.message head text) left ∨
      ∃ buffer, Decoder.advance form limits ⟨.head, bytes⟩ = .wants ⟨.open head, buffer⟩ ∧
        (⟨.open head, buffer⟩ : Decoder H).atEnd = .ended (.message head text) left := by
  rw [read, Decoder.start] at h
  -- Either the octets end the message, or the end of the stream does, and then its body was open.
  cases hp : Decoder.advance form limits ⟨.head, bytes⟩ with
  | ended how left' =>
    rw [hp, readOn_ended] at h
    obtain ⟨rfl, rfl, -⟩ := ReadResult.mk.inj h
    exact .inl rfl
  | wants d =>
    obtain ⟨how, left', hend⟩ := exists_atEnd d
    rw [hp, readOn] at h
    simp only [hend] at h
    obtain ⟨rfl, rfl, -⟩ := ReadResult.mk.inj h
    obtain ⟨stage, buffer⟩ := d
    obtain rfl : stage = .open head := (atEnd_eq_message hend).1
    exact .inr ⟨buffer, rfl, hend⟩

/-- With nothing more to come, what the first step ends with is what reading ends with. -/
theorem read_nil_of_ended {bytes left : Octets} {how : Ended H}
    (h : Decoder.advance form limits ⟨.head, bytes⟩ = .ended how left) :
    read form limits bytes [] = ⟨how, left, []⟩ := by
  rw [read, Decoder.start, h, readOn_ended]

/-- Where the first step waits, the end of the stream has the last word. -/
theorem read_nil_of_wants {bytes left : Octets} {how : Ended H} {d : Decoder H}
    (h : Decoder.advance form limits ⟨.head, bytes⟩ = .wants d) (hend : d.atEnd = .ended how left) :
    read form limits bytes [] = ⟨how, left, []⟩ := by
  rw [read, Decoder.start, h, readOn]
  simp only [hend]

/-! ### Octets taken -/

/-- **Octets behind a message play no part in it.** -/
theorem advance_of_message (hf : form.scan.Complete) {used left : Octets}
    (h : Decoder.advance form limits ⟨.head, used ++ left⟩ = .ended (.message head text) left) :
    Decoder.advance form limits ⟨.head, used⟩ = .ended (.message head text) [] := by
  have halike := Decoder.advance_append hf limits .head used left
  have hwaits : Decoder.WaitsAfter form (Decoder.advance form limits ⟨.head, used⟩) :=
    Decoder.waitsAfter_advance limits ⟨.head, used⟩
  rw [h] at halike
  rcases halike with hsame | ⟨e, e', left₁, left₂, hfailed, -⟩
  · cases hp : Decoder.advance form limits ⟨.head, used⟩ with
    | ended how left' =>
      rw [hp, Progress.resume] at hsame
      obtain ⟨rfl, hleft⟩ := Progress.ended.inj hsame
      rw [List.self_eq_append_left.mp hleft]
    | wants d =>
      -- It would have to use some of what is left.
      rw [hp] at hsame hwaits
      exact absurd (Decoder.length_lt_of_waits hf hwaits hsame.symm) (Nat.lt_irrefl _)
  · cases hfailed

/-- What was taken for a message that was read at once spells it. -/
theorem exists_spells_of_read_nil (hf : form.scan.Complete) {bytes left : Octets} {reads : List Read}
    (h : read form limits bytes [] = ⟨.message head text, left, reads⟩) :
    ∃ used, bytes = used ++ left ∧ form.Spells limits used head text := by
  rcases advance_of_read_nil h with hended | ⟨buffer, hopen, hend⟩
  · have hheld := Decoder.held_advance hf.suffix limits ⟨.head, bytes⟩
    rw [hended] at hheld
    obtain ⟨used, hused⟩ := hheld
    obtain rfl : used ++ left = bytes := hused
    exact ⟨used, rfl, read_nil_of_ended (advance_of_message hf hended)⟩
  · obtain rfl : left = [] := (atEnd_eq_message hend).2
    exact ⟨bytes, (List.append_nil bytes).symm, read_nil_of_wants hopen hend⟩

/-- A message has at least one octet. -/
theorem ne_nil_of_spells (hf : form.scan.Complete) {bytes : Octets} (h : form.Spells limits bytes head text) :
    bytes ≠ [] := by
  rintro rfl
  rcases Decoder.begins_or_wants_or_failed form limits [] with
    ⟨head', rest, framing, hbegins⟩ | ⟨-, hwants⟩ | ⟨e, left, hfailed⟩
  · exact absurd (hf.shortens _ _ _ hbegins.scan) (Nat.not_lt_zero _)
  · rcases advance_of_read_nil h with hended | ⟨buffer, hopen, -⟩
    · rw [hwants] at hended
      cases hended
    · rw [hwants] at hopen
      cases hopen
  · rw [Form.Spells, read_nil_of_ended hfailed] at h
    cases h

/-! ### Octets that arrive -/

end Reader

/-- All failures of one kind are alike. -/
theorem Progress.Alike.trans {p p' p'' : Progress H} (h : p.Alike p') (h' : p'.Alike p'') : p.Alike p'' := by
  rcases h with rfl | ⟨e, e₁, left, left₁, hp, hp₁, hkind⟩
  · exact h'
  · rcases h' with rfl | ⟨e₂, e₃, left₂, left₃, hp₂, hp₃, hkind'⟩
    · exact .inr ⟨e, e₁, left, left₁, hp, hp₁, hkind⟩
    · rw [hp₁] at hp₂
      obtain ⟨hfailed, -⟩ := Progress.ended.inj hp₂
      obtain rfl := Ended.failed.inj hfailed
      exact .inr ⟨e, e₃, left, left₃, hp, hp₃, hkind.trans hkind'⟩

/-- The progress is where these octets have led, and it goes on as if all octets had been there from the start. -/
def Progress.Follows (form : Form H) (limits : Limits) (seen : Octets) (p : Progress H) : Prop :=
  ∀ more, (Decoder.advance form limits ⟨.head, seen ++ more⟩).Alike (p.resume form limits more)

namespace Progress.Follows

variable {form : Form H} {limits : Limits} {head : H} {text : String} {seen : Octets}

/-- Where the octets come to a message, the progress comes to it when the rest of them arrives. -/
theorem resume_of_ended {p : Progress H} (h : p.Follows form limits seen) {more left : Octets}
    (hended : Decoder.advance form limits ⟨.head, seen ++ more⟩ = .ended (.message head text) left) :
    p.resume form limits more = .ended (.message head text) left := by
  rcases h more with hsame | ⟨e, e', left₁, left₂, hfailed, -⟩
  · exact hsame.symm.trans hended
  · rw [hended] at hfailed
    cases hfailed

/-- A message that has come of some octets comes of them at once. -/
theorem advance_of_ended {left : Octets} (h : (ended (.message head text) left).Follows form limits seen) :
    Decoder.advance form limits ⟨.head, seen⟩ = .ended (.message head text) left := by
  have hnone := h []
  rw [List.append_nil, resume, List.append_nil] at hnone
  rcases hnone with hsame | ⟨e, e', left₁, left₂, -, hfailed, -⟩
  · exact hsame
  · cases hfailed

/-- A decoder in a body that stays open is there at once, too. -/
theorem advance_of_open {buffer : Octets} (h : (wants ⟨.open head, buffer⟩).Follows form limits seen) :
    Decoder.advance form limits ⟨.head, seen⟩ = .wants ⟨.open head, buffer⟩ := by
  have hnone := h []
  rw [List.append_nil] at hnone
  rcases hnone with hsame | ⟨e, e', left₁, left₂, -, hfailed, -⟩
  · rw [hsame]
    show wants ⟨.open head, buffer ++ []⟩ = _
    rw [List.append_nil]
  · cases hfailed

/-- A step on more octets is one on all of them. -/
theorem advance (hf : form.scan.Complete) {stage : Stage H} {buffer : Octets}
    (h : (wants ⟨stage, buffer⟩).Follows form limits seen) (arrived : Octets) :
    (Decoder.advance form limits ⟨stage, buffer ++ arrived⟩).Follows form limits (seen ++ arrived) := by
  intro more
  rw [List.append_assoc]
  refine (h (arrived ++ more)).trans ?_
  show (Decoder.advance form limits ⟨stage, buffer ++ (arrived ++ more)⟩).Alike _
  rw [← List.append_assoc]
  exact Decoder.advance_append hf limits stage (buffer ++ arrived) more

/-- What arrives leads on, unless it is too much for a body that lasts to the end of the stream. -/
theorem receive (hf : form.scan.Complete) {d : Decoder H} (h : (wants d).Follows form limits seen)
    {arrived : Octets} (hne : arrived ≠ []) :
    (Reader.receive form limits d (.data arrived)).Follows form limits (seen ++ arrived) ∨
      ∃ e left, Reader.receive form limits d (.data arrived) = .ended (.failed e) left := by
  obtain ⟨stage, buffer⟩ := d
  by_cases hstage : ∃ head, stage = .open head
  · -- Only here is what arrives measured and not looked at.
    obtain ⟨head, rfl⟩ := hstage
    obtain ⟨b, bs, rfl⟩ := List.exists_cons_of_ne_nil hne
    show (if limits.body < (buffer ++ (b :: bs)).length then _ else _ : Progress H).Follows form limits _ ∨
      ∃ e left, (if limits.body < (buffer ++ (b :: bs)).length then _ else _ : Progress H) = _
    split
    · exact .inr ⟨_, _, rfl⟩
    · exact .inl (h.advance hf (b :: bs))
  · rw [Reader.receive_data form limits (not_exists.mp hstage) buffer hne]
    exact .inl (h.advance hf arrived)

end Progress.Follows

namespace Reader

variable {form : Form H} {limits : Limits} {head : H} {text : String}

/-- A message that the end of the stream completes is complete when all its octets come before that end. -/
theorem read_nil_of_atEnd {d : Decoder H} {seen left : Octets} (hd : (Progress.wants d).Follows form limits seen)
    (hend : d.atEnd = .ended (.message head text) left) :
    read form limits seen [] = ⟨.message head text, left, []⟩ := by
  obtain ⟨stage, buffer⟩ := d
  obtain rfl : stage = .open head := (atEnd_eq_message hend).1
  exact read_nil_of_wants hd.advance_of_open hend

/-- Reading that has ended read as much of the stream as the message takes. -/
theorem exists_read_nil_of_ended {how : Ended H} {seen left : Octets} {reads : List Read}
    (hp : (Progress.ended how left).Follows form limits seen)
    (h : (readOn form limits (.ended how left) reads).how = .message head text) :
    ∃ before, reads = before ++ (readOn form limits (.ended how left) reads).reads ∧
      read form limits (seen ++ before.flatMap Read.octets) [] =
        ⟨.message head text, (readOn form limits (.ended how left) reads).buffer, []⟩ := by
  rw [readOn_ended] at h ⊢
  obtain rfl : how = .message head text := h
  refine ⟨[], rfl, ?_⟩
  rw [List.flatMap_nil, List.append_nil]
  exact read_nil_of_ended hp.advance_of_ended

/-- A message that is read is the one that is read when everything that arrived is there from the start. -/
theorem exists_read_nil_of_message (hf : form.scan.Complete) {p : Progress H} {seen : Octets} {reads : List Read}
    (hp : p.Follows form limits seen) (h : (readOn form limits p reads).how = .message head text) :
    ∃ before, reads = before ++ (readOn form limits p reads).reads ∧
      read form limits (seen ++ before.flatMap Read.octets) [] =
        ⟨.message head text, (readOn form limits p reads).buffer, []⟩ := by
  -- On the reads, with the octets seen so far: each read that brings some adds to them, and any other ends the message.
  induction reads generalizing p seen with
  | nil =>
    cases p with
    | ended how left => exact exists_read_nil_of_ended hp h
    | wants d =>
      -- Without a further read the end of the stream decides.
      obtain ⟨how, left, hend⟩ := exists_atEnd d
      rw [readOn] at h ⊢
      simp only [hend] at h ⊢
      obtain rfl : how = .message head text := h
      refine ⟨[], rfl, ?_⟩
      rw [List.flatMap_nil, List.append_nil]
      exact read_nil_of_atEnd hp hend
  | cons r reads ih =>
    cases p with
    | ended how left => exact exists_read_nil_of_ended hp h
    | wants d =>
      rw [readOn] at h ⊢
      cases r with
      | data arrived =>
        by_cases hne : arrived = []
        · -- A read that brings nothing is the end of the stream.
          subst hne
          obtain ⟨how, left, hend⟩ := exists_atEnd d
          have hreceive : receive form limits d (.data []) = .ended how left := hend
          rw [hreceive, readOn_ended] at h ⊢
          obtain rfl : how = .message head text := h
          refine ⟨[.data []], rfl, ?_⟩
          rw [List.flatMap_singleton, Read.octets, List.append_nil]
          exact read_nil_of_atEnd hp hend
        · rcases hp.receive hf hne with hfollows | ⟨e, left, hfailed⟩
          · obtain ⟨before, hreads, hread⟩ := ih hfollows h
            refine ⟨.data arrived :: before, congrArg _ hreads, ?_⟩
            rw [List.flatMap_cons, ← List.append_assoc]
            exact hread
          -- A failure is no message.
          · rw [hfailed, readOn_ended] at h
            cases h
      | failed cause =>
        rw [receive, Decoder.fault, readOn_ended] at h
        cases h
      | late =>
        rw [receive, Decoder.expire, readOn_ended] at h
        cases h

/-- **The octets taken for a message spell it**, whatever they arrived in: they come first of those in the buffer and
those that arrived, and all the others are left. -/
theorem exists_spells_of_message (hf : form.scan.Complete) {buffer : Octets} {reads : List Read}
    (h : (read form limits buffer reads).how = .message head text) :
    ∃ before used, reads = before ++ (read form limits buffer reads).reads ∧
      buffer ++ before.flatMap Read.octets = used ++ (read form limits buffer reads).buffer ∧
      form.Spells limits used head text := by
  obtain ⟨before, hreads, hread⟩ :=
    exists_read_nil_of_message hf (fun more => Decoder.advance_append hf limits .head buffer more) h
  obtain ⟨used, hused, hspells⟩ := exists_spells_of_read_nil hf hread
  exact ⟨before, used, hreads, hused, hspells⟩

/-- What has ended leaves the reads behind as they are. -/
theorem readOn_append {p : Progress H} {reads reads' : List Read} {how : Ended H} {left : Octets}
    (h : readSome form limits p reads = (.ended how left, reads')) (after : List Read) :
    readOn form limits p (reads ++ after) = ⟨how, left, reads' ++ after⟩ := by
  fun_induction readSome form limits p reads with
  | case1 how' left' reads =>
    obtain ⟨hended, rfl⟩ := Prod.mk.inj h
    obtain ⟨rfl, rfl⟩ := Progress.ended.inj hended
    exact readOn_ended form limits how' left' _
  | case2 d =>
    cases (Prod.mk.inj h).1
  | case3 d r reads ih =>
    rw [List.cons_append, readOn]
    exact ih h

/-- Pieces that bring a message to its end are read up to there. -/
theorem exists_readSome_of_ended (hf : form.scan.Complete) {p : Progress H} {seen left : Octets}
    {pieces : List Octets} (hp : p.Follows form limits seen) (hwaits : Decoder.WaitsAfter form p)
    (hne : ∀ c ∈ pieces, c ≠ [])
    (hended : Decoder.advance form limits ⟨.head, seen ++ pieces.flatten⟩ = .ended (.message head text) left) :
    ∃ (left' : Octets) (pieces' : List Octets),
      readSome form limits p (pieces.map .data) = (.ended (.message head text) left', pieces'.map .data) ∧
      (∀ c ∈ pieces', c ≠ []) ∧ left' ++ pieces'.flatten = left := by
  induction pieces generalizing p seen with
  | nil =>
    have hsame := hp.resume_of_ended hended
    cases p with
    | ended how left' =>
      obtain ⟨rfl, rfl⟩ := Progress.ended.inj hsame
      exact ⟨left', [], by rw [List.map_nil, readSome], hne, rfl⟩
    | wants d =>
      -- A decoder that waits does not come to an end when nothing more arrives.
      exact absurd (Decoder.length_lt_of_waits hf hwaits hsame) (Nat.not_lt_zero _)
  | cons c cs ih =>
    have hsame := hp.resume_of_ended hended
    cases p with
    | ended how left' =>
      obtain ⟨rfl, rfl⟩ := Progress.ended.inj hsame
      exact ⟨left', c :: cs, by rw [readSome], hne, rfl⟩
    | wants d =>
      obtain ⟨stage, buffer⟩ := d
      -- A body that lasts to the end of the stream never ends before it.
      have hstage : ∀ head, stage ≠ .open head := by
        rintro head rfl
        cases hsame
      have hreceive := receive_data form limits hstage buffer (hne c List.mem_cons_self)
      rw [List.map_cons, readSome, hreceive]
      refine ih (hp.advance hf c) (Decoder.waitsAfter_advance limits _)
        (fun c' hc' => hne c' (List.mem_cons_of_mem c hc')) ?_
      rw [List.append_assoc]
      exact hended

/-- Octets that spell a message come to it at once, unless it lasts to the end of the stream. -/
theorem advance_of_spells {bytes : Octets} (h : form.Spells limits bytes head text)
    (hends : ¬ form.LastsToEnd limits bytes) :
    Decoder.advance form limits ⟨.head, bytes⟩ = .ended (.message head text) [] := by
  rcases advance_of_read_nil h with hended | ⟨held, hopen, -⟩
  · exact hended
  · refine absurd (Decoder.atOpen_advance_iff.mp ?_) hends
    rw [hopen]
    trivial

/-- **Octets that spell a message are read as it** from any pieces, whatever the reads behind them bring, and what
follows it in the pieces is left: unless its body lasts to the end of the stream. -/
theorem read_of_spells (hf : form.scan.Complete) {used s buffer : Octets} {pieces : List Octets}
    (hspells : form.Spells limits used head text) (hends : ¬ form.LastsToEnd limits used)
    (hne : ∀ c ∈ pieces, c ≠ []) (hsame : buffer ++ pieces.flatten = used ++ s) (after : List Read) :
    ∃ (left : Octets) (pieces' : List Octets), read form limits buffer (pieces.map .data ++ after) =
        ⟨.message head text, left, pieces'.map .data ++ after⟩ ∧
      (∀ c ∈ pieces', c ≠ []) ∧ left ++ pieces'.flatten = s := by
  have hused := advance_of_spells hspells hends
  have hended : Decoder.advance form limits ⟨.head, buffer ++ pieces.flatten⟩ = .ended (.message head text) s := by
    rw [hsame]
    rcases Decoder.advance_append hf limits .head used s with hmore | ⟨e, e', left, left', -, hfailed, -⟩
    · rw [hmore, hused]
      rfl
    · rw [hused] at hfailed
      cases hfailed
  obtain ⟨left, pieces', hread, hne', hleft⟩ := exists_readSome_of_ended hf
    (fun more => Decoder.advance_append hf limits .head buffer more) (Decoder.waitsAfter_advance limits _) hne hended
  exact ⟨left, pieces', readOn_append hread after, hne', hleft⟩

end Reader

end HttpService
