import HttpService.Proofs.Text.Counts
import HttpService.Proofs.Wire.Spelled

/-!
# Lengths of the bodies of requests

The length of a body is announced in decimal digits. This module compares what a value says by itself, digit by digit
(`FieldValue.Denotes`), with what a request is read by: the first value of the name, with or without a plus sign in
front of the digits (`FieldValue.Announces`). Further values of the name are not read at all.

* `Framing.announces_of_length?` — a value that is read as a length announces it.
* `Framing.exists_isLength_of_ofRequest` — of a request without chunks the first length counts, and none is zero.
* `Reader.length_of_request` — the body of a request that is read is as long as its first value announces. All values
  denote that length exactly if the first has no sign and the others do.
-/

namespace HttpService

/-! ## Decimals in octets -/

/-- The number that digits denote, led by one already read. -/
def Octets.decimalFrom (led : Nat) (bs : Octets) : Nat := bs.foldl (fun n b => n * 10 + (b.toNat - 48)) led

/-- One or more decimal digits that denote the number. -/
def Octets.IsDecimal (bs : Octets) (n : Nat) : Prop :=
  bs ≠ [] ∧ (∀ b ∈ bs, Octet.isDigit b = true) ∧ bs.decimalFrom 0 = n

instance (bs : Octets) (n : Nat) : Decidable (bs.IsDecimal n) := inferInstanceAs (Decidable (_ ∧ _ ∧ _))

namespace FieldValue

/-- But for blanks at its ends, the value is made of digits, and they denote the number. -/
def Denotes (v : FieldValue) (n : Nat) : Prop := v.content.trimBlanks.IsDecimal n

instance (v : FieldValue) (n : Nat) : Decidable (v.Denotes n) := inferInstanceAs (Decidable (Octets.IsDecimal _ _))

/-- But for blanks, the value begins with a plus sign. -/
def IsSigned (v : FieldValue) : Prop := v.content.trimBlanks.head? = some (octet '+')

/-- The value denotes the number, or does so behind a plus sign. -/
def Announces (v : FieldValue) (n : Nat) : Prop :=
  v.Denotes n ∨ v.IsSigned ∧ Octets.IsDecimal v.content.trimBlanks.tail n

/-- Text that denotes a length has no sign, so the two ways to be read as a length exclude each other. -/
theorem Denotes.not_isSigned {v : FieldValue} {n : Nat} (h : v.Denotes n) : ¬ v.IsSigned := by
  intro hsigned
  obtain ⟨bs, hbs⟩ := List.head?_eq_some_iff.mp hsigned
  have hdigit := h.2.1 (octet '+') (by rw [hbs]; exact List.mem_cons_self)
  cases hdigit

/-- Without a sign a value denotes what it announces. -/
theorem denotes_iff_of_announces {v : FieldValue} {n : Nat} (h : v.Announces n) : v.Denotes n ↔ ¬ v.IsSigned := by
  refine ⟨Denotes.not_isSigned, fun hsigned => ?_⟩
  rcases h with hdenotes | ⟨hsign, -⟩
  · exact hdenotes
  · exact absurd hsign hsigned

end FieldValue

namespace Decimal

/-- A digit among the characters is one among the octets. -/
theorem isDigit_ofNat {b : UInt8} (h : (Char.ofNat b.toNat).isDigit = true) : Octet.isDigit b = true := by
  have hbounds := bounds_of_isDigit h
  rw [toNat_ofNat_octet] at hbounds
  simp only [Octet.isDigit, Bool.and_eq_true, decide_eq_true_eq, UInt8.le_iff_toNat_le]
  exact hbounds

/-- A number is worth the same read from its characters and from its octets. -/
theorem ofDigitChars_octets (bs : Octets) (led : Nat) :
    Nat.ofDigitChars 10 (bs.map fun b => Char.ofNat b.toNat) led = bs.decimalFrom led := by
  induction bs generalizing led with
  | nil => rfl
  | cons b bs ih =>
    have hdigit : (Char.ofNat b.toNat).toNat - '0'.toNat = b.toNat - 48 := congrArg (· - 48) (toNat_ofNat_octet b)
    rw [List.map_cons, Nat.ofDigitChars_cons, ih, hdigit, Nat.mul_comm 10 led]
    rfl

/-- Digits denote a number. -/
theorem isDecimal_of_digits {bs : Octets} (hne : (bs.map fun b => Char.ofNat b.toNat) ≠ [])
    (h : ∀ c ∈ bs.map fun b => Char.ofNat b.toNat, c.isDigit = true) :
    bs.IsDecimal (Nat.ofDigitChars 10 (bs.map fun b => Char.ofNat b.toNat) 0) :=
  ⟨fun hnil => hne (by rw [hnil]; rfl), fun _ hb => isDigit_ofNat (h _ (List.mem_map_of_mem hb)),
    (ofDigitChars_octets bs 0).symm⟩

/-- What is read as a number is its digits, perhaps behind a plus sign. -/
theorem isDecimal_or_signed_of_read? {bs : Octets} {n : Nat}
    (h : read? (bs.map fun b => Char.ofNat b.toNat) = some n) :
    bs.IsDecimal n ∨ bs.head? = some (octet '+') ∧ Octets.IsDecimal bs.tail n := by
  obtain ⟨ds, rfl | hds, hne, hdigits, rfl⟩ := read?_eq_some_iff.mp h
  · exact .inl (isDecimal_of_digits hne hdigits)
  · obtain ⟨b, bs, rfl, hplus, rfl⟩ := List.map_eq_cons_iff.mp hds
    have hb : b = octet '+' := by
      rw [← hplus]
      exact octet_ofNat.symm
    exact .inr ⟨by rw [hb]; rfl, isDecimal_of_digits hne hdigits⟩

end Decimal

/-! ## Blanks around a value -/

/-- Two tests that agree on a list skip the same of it. -/
theorem dropWhile_congr {α : Type} {p q : α → Bool} {l : List α} (h : ∀ a ∈ l, p a = q a) :
    l.dropWhile p = l.dropWhile q := by
  induction l with
  | nil => rfl
  | cons a l ih =>
    rw [List.dropWhile_cons, List.dropWhile_cons, h a List.mem_cons_self,
      ih fun b hb => h b (List.mem_cons_of_mem a hb)]

/-- Of what is shown of a value, text and octets have the same blanks. -/
theorem isBlank_ofNat_of_isShown {b : UInt8} (h : Octet.isShown b = true) :
    Text.isBlank (Char.ofNat b.toNat) = Octet.isBlank b := by
  have hrange : b.toNat = 9 ∨ 32 ≤ b.toNat ∧ b.toNat < 127 := by
    simpa [Octet.isShown, UInt8.le_iff_toNat_le, UInt8.lt_iff_toNat_lt, ← UInt8.toNat_inj] using h
  rw [Bool.eq_iff_iff]
  simp only [Text.isBlank, Octet.isBlank, toNat_ofNat_octet, Bool.or_eq_true, Bool.and_eq_true, decide_eq_true_eq,
    beq_iff_eq, ← UInt8.toNat_inj, UInt8.reduceToNat]
  omega

/-- A value is trimmed as text as it is trimmed in octets. -/
theorem trimChars_shown {bs : Octets} (h : ∀ b ∈ bs, Octet.isShown b = true) :
    Text.trimChars (bs.map fun b => Char.ofNat b.toNat) = bs.trimBlanks.map fun b => Char.ofNat b.toNat := by
  -- Trimming goes over the value twice, the second time from its end, so the dropping is compared for any part of it.
  have hdrop : ∀ cs : Octets, (∀ b ∈ cs, b ∈ bs) →
      (cs.map fun b => Char.ofNat b.toNat).dropWhile Text.isBlank =
        (cs.dropWhile Octet.isBlank).map fun b => Char.ofNat b.toNat := by
    intro cs hcs
    rw [List.dropWhile_map]
    exact congrArg _ (dropWhile_congr fun b hb => isBlank_ofNat_of_isShown (h b (hcs b hb)))
  have hrest : ∀ b ∈ (bs.dropWhile Octet.isBlank).reverse, b ∈ bs := fun b hb =>
    (List.dropWhile_suffix _).subset (List.mem_reverse.mp hb)
  rw [Text.trimChars, hdrop bs fun b hb => hb, ← List.map_reverse, hdrop _ hrest, ← List.map_reverse]
  rfl

namespace Framing

/-- **What is read as a length is announced** by the value: it is made of digits, and at most a plus sign and blanks
stand around them. -/
theorem announces_of_length? {v : FieldValue} {n : Nat} (h : length? v = some n) : v.Announces n := by
  obtain ⟨s, hs, hread⟩ := Option.bind_eq_some_iff.mp h
  obtain ⟨bs, hshown, rfl⟩ := Option.map_eq_some_iff.mp hs
  unfold FieldValue.shown? at hshown
  split at hshown
  -- A value that cannot be shown as text is no length, so the octets at hand are all shown.
  next hall =>
    obtain rfl := Option.some.inj hshown
    have htrim : (Text.trim v.content.latin).toList = v.content.trimBlanks.map fun b => Char.ofNat b.toNat := by
      rw [Text.trim, Octets.latin, String.toList_ofList, String.toList_ofList]
      exact trimChars_shown (List.all_eq_true.mp hall)
    rw [Decimal.readBelow?, htrim] at hread
    have hnumber := (Option.filter_eq_some_iff.mp hread).1
    exact Decimal.isDecimal_or_signed_of_read? hnumber
  next => cases hshown

/-- The body is of this length: as many octets are taken, or none is. -/
def IsLength (framing : Framing) (n : Nat) : Prop := framing = .length n ∨ framing = .none ∧ n = 0

/-- The first length of a request is that of its body; without one there is no body. -/
theorem exists_isLength_of_ofRequest {hs : Fields} {framing : Framing} (h : ofRequest hs = .ok framing)
    (hchunks : announcesChunks hs = false) :
    ∃ n, framing.IsLength n ∧ (∀ v, hs.get? .contentLength = some v → v.Announces n) ∧
      (hs.get? .contentLength = Option.none → n = 0) := by
  rw [ofRequest, ofFields, hchunks, if_neg Bool.false_ne_true] at h
  -- Without a length there is no body, and with one of zero there is none either.
  cases hfirst : hs.get? .contentLength with
  | none =>
    rw [hfirst] at h
    obtain rfl := Except.ok.inj h
    exact ⟨0, .inr ⟨rfl, rfl⟩, (fun v hv => by cases hv), fun _ => rfl⟩
  | some v =>
    rw [hfirst] at h
    cases hlength : length? v with
    | none =>
      simp only [hlength] at h
      cases h
    | some n =>
      have hannounces : ∀ w, some v = some w → w.Announces n := by
        rintro w ⟨⟩
        exact announces_of_length? hlength
      simp only [hlength] at h
      refine ⟨n, ?_, hannounces, (fun hv => by cases hv)⟩
      cases n with
      | zero => exact .inr ⟨(Except.ok.inj h).symm, rfl⟩
      | succ n => exact .inl (Except.ok.inj h).symm

end Framing

/-! ## Bodies of a length -/

variable {H : Type}

/-- A body of announced length has that length, whatever else may have gone wrong with the message. -/
theorem Decoder.length_of_body {limits : Limits} {head head' : H} {framing : Framing} {n : Nat} {buffer left : Octets}
    {text : String} (hn : framing.IsLength n)
    (h : body limits head' framing buffer = .ended (.message head text) left) : (octets text).length = n := by
  -- A length of zero may also come from there being no body at all.
  rcases hn with rfl | ⟨rfl, rfl⟩
  · simp only [body] at h
    split at h
    next => cases h
    next =>
      unfold sized at h
      split at h
      next => cases h
      next hlen =>
        rw [(eq_of_finish h).2, List.length_take]
        omega
  · obtain ⟨hmessage, -⟩ := Progress.ended.inj h
    obtain ⟨-, rfl⟩ := Ended.message.inj hmessage
    rfl

/-- A message is told with the head that its body was entered with. -/
theorem Decoder.head_of_body {limits : Limits} {head head' : H} {framing : Framing} {buffer left : Octets}
    {text : String} (h : body limits head' framing buffer = .ended (.message head text) left) : head = head' := by
  have huntil : framing ≠ .untilEnd := by
    rintro rfl
    cases h
  have hwithin : (body limits head' framing buffer).Within limits head' := within_body huntil buffer
  rw [h] at hwithin
  exact hwithin.1

namespace Reader

/-- The body of a request is as long as its head says, which is what came of the octets taken for it. -/
theorem exists_isLength_of_request {limits : Limits} {buffer : Octets} {reads : List Read} {head : RequestHead}
    {text : String} (h : (read .request limits buffer reads).how = .message head text)
    (hchunks : Framing.announcesChunks head.fields = false) :
    (∀ v, head.fields.get? .contentLength = some v → v.Announces (octets text).length) ∧
      (head.fields.get? .contentLength = none → (octets text).length = 0) := by
  obtain ⟨before, used, -, -, hspells⟩ := exists_spells_of_message Head.complete_requestHead h
  -- What the message took ends it by itself, since no request lasts up to the end of the stream.
  have hended := advance_of_spells hspells (not_lastsToEnd_request limits used)
  rcases Decoder.begins_or_wants_or_failed .request limits used with
    ⟨head', rest, framing, hbegins⟩ | ⟨-, hwants⟩ | ⟨e, left, hfailed⟩
  · rw [Decoder.advance_of_begins hbegins] at hended
    obtain rfl := Decoder.head_of_body hended
    obtain ⟨n, hlength, hsome, hnone⟩ := Framing.exists_isLength_of_ofRequest hbegins.framing hchunks
    rw [Decoder.length_of_body hlength hended]
    exact ⟨hsome, hnone⟩
  · rw [hwants] at hended
    cases hended
  · rw [hfailed] at hended
    cases hended

end Reader

/-! ## All lengths of a request -/

/-- The fields determine the length of a body: each length that they give is made of digits and denotes it, and where
they give none it is zero. -/
structure Fields.Determine (hs : Fields) (n : Nat) : Prop where
  denotes : ∀ v ∈ hs.valuesOf .contentLength, v.Denotes n
  zero : hs.valuesOf .contentLength = [] → n = 0

/-- The first value is read, the others are not. -/
theorem Fields.determine_iff {hs : Fields} {n : Nat}
    (hfirst : ∀ v, hs.get? .contentLength = some v → v.Announces n) (hnone : hs.get? .contentLength = none → n = 0) :
    hs.Determine n ↔ (∀ v, hs.get? .contentLength = some v → ¬ v.IsSigned) ∧
      ∀ v ∈ (hs.valuesOf .contentLength).tail, v.Denotes n := by
  -- The first value is what the reader saw; the others it did not look at.
  rw [get?] at hfirst hnone ⊢
  constructor
  · intro h
    refine ⟨fun v hv => ?_, fun v hv => h.denotes v (List.mem_of_mem_tail hv)⟩
    exact (h.denotes v (List.mem_of_mem_head? hv)).not_isSigned
  · rintro ⟨hsigned, hothers⟩
    cases hvalues : hs.valuesOf .contentLength with
    | nil =>
      rw [hvalues] at hnone
      refine ⟨fun v hv => ?_, fun _ => hnone rfl⟩
      rw [hvalues] at hv
      exact absurd hv List.not_mem_nil
    | cons v vs =>
      rw [hvalues] at hfirst hsigned hothers
      refine ⟨fun w hw => ?_, fun hnil => ?_⟩
      · rw [hvalues] at hw
        rcases List.mem_cons.mp hw with rfl | hw
        · exact (FieldValue.denotes_iff_of_announces (hfirst w rfl)).mpr (hsigned w rfl)
        · exact hothers w hw
      · rw [hvalues] at hnil
        cases hnil

namespace Reader

/-- **The length of a request's body.** A request that is read and announces no chunks has as many octets of body as
its first length announces, in digits and at most a plus sign in front of them, and no body if it has no length. Its
fields determine the length of its body exactly if the first length has no sign and every further one denotes the same
number: further ones are not read. -/
theorem length_of_request {limits : Limits} {buffer : Octets} {reads : List Read} {head : RequestHead} {text : String}
    (h : (read .request limits buffer reads).how = .message head text)
    (hchunks : Framing.announcesChunks head.fields = false) :
    (∀ v, head.fields.get? .contentLength = some v → v.Announces (octets text).length) ∧
      (head.fields.valuesOf .contentLength = [] → text = "") ∧
      (head.fields.Determine (octets text).length ↔
        (∀ v, head.fields.get? .contentLength = some v → ¬ v.IsSigned) ∧
          ∀ v ∈ (head.fields.valuesOf .contentLength).tail, v.Denotes (octets text).length) := by
  obtain ⟨hfirst, hnone⟩ := exists_isLength_of_request h hchunks
  refine ⟨hfirst, fun hnil => ?_, Fields.determine_iff hfirst hnone⟩
  have hlength : (octets text).length = 0 := hnone (by rw [Fields.get?, hnil]; rfl)
  exact eq_empty_of_octets (List.length_eq_zero_iff.mp hlength)

/-- A request with its length given twice, with blanks and with a zero in front, and a body in two pieces. -/
theorem length_of_request_given_twice :
    let buffer := octets "POST / HTTP/1.1\r\nContent-Length: 5 \r\nContent-Length: 05\r\n\r\nhel"
    let reads := [Read.data (octets "lo")]
    ∃ head, (read .request .standard buffer reads).how = .message head "hello" ∧
      Framing.announcesChunks head.fields = false ∧ head.fields.Determine (octets "hello").length := by
  intro buffer reads
  obtain ⟨head, hread, hchunks, hfirst, hothers⟩ : ∃ head,
      (read .request .standard buffer reads).how = .message head "hello" ∧
        Framing.announcesChunks head.fields = false ∧
        (∀ v ∈ head.fields.get? .contentLength, v.content = octets "5") ∧
        ∀ v ∈ (head.fields.valuesOf .contentLength).tail, v.Denotes 5 :=
    ⟨_, rfl, by decide +kernel, by decide +kernel, by decide +kernel⟩
  refine ⟨head, hread, hchunks, (length_of_request hread hchunks).2.2.mpr ⟨fun v hv hsigned => ?_, hothers⟩⟩
  rw [FieldValue.IsSigned, hfirst v hv] at hsigned
  cases hsigned

/-- Two requests are read with five octets of body, although one also gives the length six and the other puts a sign in
front of its length. -/
theorem read_of_undetermined_length :
    let twice := octets "POST / HTTP/1.1\r\nContent-Length: 5\r\nContent-Length: 6\r\n\r\nhello"
    let signed := octets "POST / HTTP/1.1\r\nContent-Length: +5\r\n\r\nhello"
    ∀ buffer ∈ [twice, signed], ∃ head, (read .request .standard buffer []).how = .message head "hello" ∧
      Framing.announcesChunks head.fields = false ∧ ¬ head.fields.Determine (octets "hello").length := by
  intro twice signed buffer hbuffer
  rcases List.mem_cons.mp hbuffer with rfl | hbuffer
  · obtain ⟨head, hread, hchunks, hsix⟩ : ∃ head, (read .request .standard twice []).how = .message head "hello" ∧
        Framing.announcesChunks head.fields = false ∧ ∃ v ∈ head.fields.valuesOf .contentLength, ¬ v.Denotes 5 :=
      ⟨_, rfl, by decide +kernel, by decide +kernel⟩
    obtain ⟨v, hv, hnot⟩ := hsix
    exact ⟨head, hread, hchunks, fun h => hnot (h.denotes v hv)⟩
  · obtain rfl := List.mem_singleton.mp hbuffer
    obtain ⟨head, hread, hchunks, hplus⟩ : ∃ head, (read .request .standard signed []).how = .message head "hello" ∧
        Framing.announcesChunks head.fields = false ∧ ∃ v ∈ head.fields.valuesOf .contentLength, ¬ v.Denotes 5 :=
      ⟨_, rfl, by decide +kernel, by decide +kernel⟩
    obtain ⟨v, hv, hnot⟩ := hplus
    exact ⟨head, hread, hchunks, fun h => hnot (h.denotes v hv)⟩

end Reader

end HttpService
