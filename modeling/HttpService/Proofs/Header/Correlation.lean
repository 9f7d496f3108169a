import HttpService.Proofs.Header.Values
import HttpService.Proofs.Json.Strings
import HttpService.Proofs.Text.Counts
import HttpService.Route.Entry

/-!
# Correlation identifiers in headers

An identifier is echoed by its text. The 26 characters that are read hold 130 bits, two more than an identifier has, so
of the first character only the value below eight is kept (`RequestId.text_of_ofText?`).

* `RequestId.value?_eq_some` — the characters of a number are those it was read from, in capitals.
* `RequestId.ofText?_text` — an identifier is read back from its text.
* `RequestId.idValue` — the text as the value of a field.
* `RequestId.echoed_iff` — a text comes back in capitals exactly if its first character is one of the first eight.
-/

namespace HttpService

namespace RequestId

/-! ## Characters -/

/-- An identifier can stand in a field's value, and has no blanks to lose at its ends. -/
theorem of_mem_alphabet {c : Char} (h : c ∈ alphabet) :
    c.toNat < 128 ∧ Octet.isFieldText (octet c) = true ∧ Octet.isBlank (octet c) = false := by
  have key : (alphabet.all fun c =>
      c.toNat < 128 ∧ Octet.isFieldText (octet c) = true ∧ Octet.isBlank (octet c) = false) = true := by decide
  exact of_decide_eq_true (List.all_eq_true.mp key c h)

theorem digit_mem_alphabet {n : Nat} (h : n < 32) : digit n ∈ alphabet := by
  have key : ∀ d ∈ List.range 32, digit d ∈ alphabet := by decide
  exact key n (List.mem_range.mpr h)

/-- A character is worth what the digit in its place among the capitals is. -/
theorem digitValue?_eq_some_iff {c : Char} {d : Nat} : digitValue? c = some d ↔ d < 32 ∧ c.toUpper = digit d := by
  have hlen : alphabet.length = 32 := alphabet_nodup.1
  constructor
  · intro h
    obtain ⟨hd, hc, -⟩ := List.findIdx?_eq_some_iff_getElem.mp h
    refine ⟨hlen ▸ hd, ?_⟩
    rw [digit, List.getD, List.getElem?_eq_getElem hd]
    exact (beq_iff_eq.mp hc).symm
  · rintro ⟨hd, hc⟩
    have hupper : (digit d).toUpper = digit d := by
      have key : ∀ d ∈ List.range 32, (digit d).toUpper = digit d := by decide
      exact key d (List.mem_range.mpr hd)
    rw [← digitValue?_digit hd, digitValue?, digitValue?, hc, hupper]

/-- A character that has a value takes one octet. -/
theorem ascii_of_digitValue? {c : Char} {d : Nat} (h : digitValue? c = some d) : c.toNat < 128 := by
  obtain ⟨hd, hc⟩ := digitValue?_eq_some_iff.mp h
  have hupper : c.toUpper.toNat < 128 := hc ▸ (of_mem_alphabet (digit_mem_alphabet hd)).1
  unfold Char.toUpper at hupper
  split at hupper
  next hsmall => exact Nat.lt_of_le_of_lt (UInt32.le_iff_toNat_le.mp hsmall.2) (by decide)
  next => exact hupper

/-- Different digits are written differently. -/
theorem digit_inj {m n : Nat} (hm : m < 32) (hn : n < 32) (h : digit m = digit n) : m = n := by
  have hvalue := digitValue?_digit hm
  rw [h, digitValue?_digit hn] at hvalue
  exact (Option.some.inj hvalue).symm

/-! ## Numbers -/

/-- One digit more makes room for thirty-two times as many numbers. -/
theorem pow_width_succ (width : Nat) : Nat.pow 32 (width + 1) = 32 * Nat.pow 32 width := Nat.pow_succ'

/-- The highest character comes first. -/
theorem spell_succ (width n : Nat) : spell (width + 1) n = digit (n / Nat.pow 32 width % 32) :: spell width n := by
  induction width generalizing n with
  | zero => simp [spell]
  | succ width ih =>
    show spell (width + 1) (n / 32) ++ [digit (n % 32)] = _
    rw [ih, Nat.div_div_eq_div_mul, ← pow_width_succ]
    rfl

/-- Higher bits do not change the characters. -/
theorem spell_mod (width n k : Nat) : spell width (n % (Nat.pow 32 width * k)) = spell width n := by
  induction width generalizing n k with
  | zero => rfl
  | succ width ih =>
    rw [spell, spell, pow_width_succ, Nat.mul_assoc, Nat.mod_mul_right_div_self, Nat.mod_mul_right_mod, ih]

/-- The characters of a number are those it was read from, in capitals. -/
theorem value?_eq_some {cs : List Char} {led n : Nat} (h : value? led cs = some n) :
    n / Nat.pow 32 cs.length = led ∧ spell cs.length n = cs.map Char.toUpper := by
  -- Over the digits, the value led on being what stands above those to come.
  induction cs generalizing led with
  | nil =>
    cases h
    simp [spell]
  | cons c cs ih =>
    obtain ⟨d, hd, h⟩ := Option.bind_eq_some_iff.mp h
    obtain ⟨hled, hspell⟩ := ih h
    obtain ⟨hd, hc⟩ := digitValue?_eq_some_iff.mp hd
    constructor
    · rw [List.length_cons, pow_width_succ, Nat.mul_comm, ← Nat.div_div_eq_div_mul, hled]
      omega
    · rw [List.length_cons, spell_succ, hled, hspell, List.map_cons, hc]
      congr 2
      omega

/-- Text that has a value consists of digits. -/
theorem forall_digitValue?_of_value? {cs : List Char} {led n : Nat} (h : value? led cs = some n) :
    ∀ c ∈ cs, ∃ d, digitValue? c = some d := by
  induction cs generalizing led with
  | nil => exact nofun
  | cons c cs ih =>
    obtain ⟨d, hd, h⟩ := Option.bind_eq_some_iff.mp h
    exact List.forall_mem_cons.mpr ⟨⟨d, hd⟩, ih h⟩

/-! ## The text of an identifier -/

theorem mem_alphabet_of_mem_spell {width n : Nat} {c : Char} (h : c ∈ spell width n) : c ∈ alphabet := by
  induction width generalizing n with
  | zero => cases h
  | succ width ih =>
    rw [spell, List.mem_append] at h
    rcases h with h | h
    · exact ih h
    · obtain rfl := List.mem_singleton.mp h
      exact digit_mem_alphabet (Nat.mod_lt n (by decide))

/-- The octets of an identifier are its digits. -/
theorem octets_text (id : RequestId) : octets id.text = (spell width id.value).map octet := by
  rw [text]
  exact octets_ofList_of_ascii fun c hc => (of_mem_alphabet (mem_alphabet_of_mem_spell hc)).1

theorem of_mem_octets_text {id : RequestId} {b : UInt8} (h : b ∈ octets id.text) :
    Octet.isFieldText b = true ∧ Octet.isBlank b = false := by
  rw [octets_text] at h
  obtain ⟨c, hc, rfl⟩ := List.mem_map.mp h
  exact (of_mem_alphabet (mem_alphabet_of_mem_spell hc)).2

/-- Every identifier is of one length. -/
theorem length_octets_text (id : RequestId) : (octets id.text).length = width := by
  rw [octets_text, List.length_map, length_spell]

/-- The text of an identifier as the value of its field. -/
def idValue (id : RequestId) : FieldValue :=
  ⟨octets id.text, List.all_eq_true.mpr fun _ hb => (of_mem_octets_text hb).1⟩

theorem content_idValue (id : RequestId) : (idValue id).content = octets id.text := by
  rw [idValue]

theorem fieldValue_ofText?_text (id : RequestId) : FieldValue.ofText? id.text = some (idValue id) := by
  rw [FieldValue.ofText?, ← content_idValue, FieldValue.ofOctets?_content]

theorem length_idValue (id : RequestId) : (idValue id).content.length = width := by
  rw [content_idValue, length_octets_text]

/-- An identifier has no blanks to lose. -/
theorem trimBlanks_idValue (id : RequestId) : (idValue id).content.trimBlanks = (idValue id).content := by
  rw [content_idValue]
  exact Decimal.trim_of_forall_not fun b hb => (of_mem_octets_text hb).2

/-! ## Reading -/

/-- A text with nothing but characters of the alphabet has no white space to lose. -/
theorem trim_ofList {cs : List Char} (h : ∀ c ∈ cs, c ∈ alphabet) :
    Text.trim (String.ofList cs) = String.ofList cs := by
  have hblank : (alphabet.all fun c => !Text.isBlank c) = true := by decide
  rw [Text.trim, Text.trimChars, String.toList_ofList]
  refine congrArg _ (Decimal.trim_of_forall_not fun c hc => ?_)
  simpa using List.all_eq_true.mp hblank c (h c hc)

/-- An identifier is its number. -/
theorem ofNat_value (id : RequestId) : ofNat id.value = id := by
  have hmod : id.value % Nat.pow 2 128 = id.value := Nat.mod_eq_of_lt id.inRange
  cases id
  simp only [ofNat, hmod]

/-- **An identifier is read back from its text.** -/
theorem ofText?_text (id : RequestId) : ofText? id.text = .ok id := by
  have htrim : Text.trim id.text = id.text := trim_ofList fun c hc => mem_alphabet_of_mem_spell hc
  have hsize : id.text.utf8ByteSize = width := by rw [← length_octets, length_octets_text]
  have hread : value? 0 id.text.toList = some id.value := by
    rw [text, String.toList_ofList, value?_spell 0 (Nat.lt_of_lt_of_le id.inRange (by decide))]
    simp
  simp only [ofText?, htrim, hsize, hread, ofNat_value, ne_eq, not_true_eq_false, if_false]

/-- Identifiers with the same text are the same. -/
theorem text_inj {id id' : RequestId} (h : id.text = id'.text) : id = id' := by
  have hread := ofText?_text id
  rw [h, ofText?_text id'] at hread
  exact (Except.ok.inj hread).symm

/-- Text that is taken for an identifier is trimmed, of the right length and of digits; its number is taken as far as
there are bits for it. -/
theorem exists_value_of_ofText? {s : String} {id : RequestId} (h : ofText? s = .ok id) :
    ∃ n, (Text.trim s).utf8ByteSize = width ∧ value? 0 (Text.trim s).toList = some n ∧ id = ofNat n := by
  unfold ofText? at h
  dsimp only at h
  split at h
  next => cases h
  next hsize =>
    split at h
    next n hn => exact ⟨n, Decidable.not_not.mp hsize, hn, (Except.ok.inj h).symm⟩
    next => cases h

/-- Each character of a number takes one octet. -/
theorem length_of_value? {t : String} {led n : Nat} (h : value? led t.toList = some n) :
    t.toList.length = t.utf8ByteSize := by
  have hascii : ∀ c ∈ t.toList, c.toNat < 128 := by
    intro c hc
    obtain ⟨d, hd⟩ := forall_digitValue?_of_value? h c hc
    exact ascii_of_digitValue? hd
  have hoctets := octets_ofList_of_ascii hascii
  rw [String.ofList_toList] at hoctets
  rw [← List.length_map octet, ← hoctets, length_octets]

/-- Of the first character three bits are left. -/
theorem text_ofNat (n : Nat) :
    (ofNat n).text = String.ofList (digit (n / Nat.pow 32 25 % 32 % 8) :: spell 25 n) := by
  -- Twenty-five characters of five bits leave room for three of the 128.
  have hbound : Nat.pow 2 128 = Nat.pow 32 25 * 8 := by decide
  have hlow : n / Nat.pow 32 25 % 8 % 32 = n / Nat.pow 32 25 % 32 % 8 := by omega
  show String.ofList (spell (25 + 1) (n % Nat.pow 2 128)) = _
  rw [hbound, spell_succ, spell_mod, Nat.mod_mul_right_div_self, hlow]

/-- **What is read of a text**, white space aside: the last 25 characters as they are, and of the first one its value
below eight. -/
theorem text_of_ofText? {s : String} {id : RequestId} (h : ofText? s = .ok id) :
    ∃ c cs d, (Text.trim s).toList = c :: cs ∧ digitValue? c = some d ∧
      id.text = String.ofList (digit (d % 8) :: cs.map Char.toUpper) := by
  obtain ⟨n, hsize, hn, rfl⟩ := exists_value_of_ofText? h
  have hlen : (Text.trim s).toList.length = 25 + 1 := (length_of_value? hn).trans hsize
  obtain ⟨c, cs, hcs⟩ := List.exists_cons_of_length_eq_add_one hlen
  rw [hcs, List.length_cons, Nat.add_right_cancel_iff] at hlen
  rw [hcs] at hn
  have hspell := (value?_eq_some hn).2
  rw [List.length_cons, hlen, spell_succ, List.map_cons, List.cons.injEq] at hspell
  have hdigit : digitValue? c = some (n / Nat.pow 32 25 % 32) :=
    digitValue?_eq_some_iff.mpr ⟨Nat.mod_lt _ (by decide), hspell.1.symm⟩
  exact ⟨c, cs, _, hcs, hdigit, by rw [text_ofNat, hspell.2]⟩

/-! ## Echoing -/

/-- White space aside, the first character is one of the first eight of the alphabet. -/
def startsLow (s : String) : Bool := (Text.trim s).toList.head?.any fun c => (alphabet.take 8).contains c

/-- White space and case aside, the texts agree behind their first characters, and the values of those leave the same
remainder by eight. -/
def Alike (s t : String) : Prop :=
  ∃ c cs d ds, (Text.trim s).toList = c :: cs ∧ (Text.trim t).toList = d :: ds ∧
    cs.map Char.toUpper = ds.map Char.toUpper ∧ (digitValue? c).map (· % 8) = (digitValue? d).map (· % 8)

/-- The first eight digits are those worth less than eight, with which a number of this length fits the bits. -/
theorem contains_take_iff {c : Char} {d : Nat} (h : digitValue? c = some d) :
    (alphabet.take 8).contains c = true ↔ d < 8 := by
  -- A character with a value is one of 128, few enough to go through.
  have key : ∀ n ∈ List.range 128, ∀ d ∈ digitValue? (Char.ofNat n),
      (alphabet.take 8).contains (Char.ofNat n) = decide (d < 8) := by decide +kernel
  have hc := key c.toNat (List.mem_range.mpr (ascii_of_digitValue? h))
  rw [Char.ofNat_toNat] at hc
  rw [hc d h, decide_eq_true_eq]

/-- **A text comes back in capitals** exactly if it starts low. -/
theorem text_eq_capitals_iff {s : String} {id : RequestId} (h : ofText? s = .ok id) :
    id.text = capitals (Text.trim s) ↔ startsLow s = true := by
  obtain ⟨c, cs, d, hs, hd, htext⟩ := text_of_ofText? h
  obtain ⟨hlt, hc⟩ := digitValue?_eq_some_iff.mp hd
  rw [startsLow, hs, List.head?_cons, Option.any_some, contains_take_iff hd, capitals, hs, htext, String.ofList_inj,
    List.map_cons, hc, List.cons.injEq]
  -- The characters behind the first one agree anyway.
  constructor
  · rintro ⟨hdigit, -⟩
    have hsame := digit_inj (Nat.lt_of_lt_of_le (Nat.mod_lt d (by decide)) (by decide)) hlt hdigit
    exact hsame ▸ Nat.mod_lt d (by decide)
  · exact fun hlow => ⟨by rw [Nat.mod_eq_of_lt hlow], rfl⟩

/-- Texts are read as one identifier exactly if they are alike. -/
theorem eq_iff_alike {s s' : String} {id id' : RequestId} (h : ofText? s = .ok id) (h' : ofText? s' = .ok id') :
    id' = id ↔ Alike s' s := by
  obtain ⟨c, cs, d, hs, hd, htext⟩ := text_of_ofText? h
  obtain ⟨c', cs', d', hs', hd', htext'⟩ := text_of_ofText? h'
  -- Of the first digit the text keeps the value below eight, and of the others all.
  have hmod (n : Nat) : n % 8 < 32 := Nat.lt_of_lt_of_le (Nat.mod_lt n (by decide)) (by decide)
  constructor
  · intro hid
    rw [← hid, htext', String.ofList_inj, List.cons.injEq] at htext
    refine ⟨c', cs', c, cs, hs', hs, htext.2, ?_⟩
    rw [hd, hd', Option.map_some, Option.map_some, digit_inj (hmod d') (hmod d) htext.1]
  · rintro ⟨_, _, _, _, ht', ht, hmap, hvalue⟩
    obtain ⟨rfl, rfl⟩ := List.cons.inj (hs'.symm.trans ht')
    obtain ⟨rfl, rfl⟩ := List.cons.inj (hs.symm.trans ht)
    rw [hd, hd', Option.map_some, Option.map_some, Option.some.injEq] at hvalue
    exact text_inj (by rw [htext, htext', hmap, hvalue])

/-- The response that every handler starts from has the identifier for its only value of the name. -/
theorem valuesOf_start (request : Request) (fresh : RequestId) :
    (Exchange.start request fresh).response.fields.valuesOf .requestId = [idValue (Exchange.idOf request fresh)] := by
  have hset (id : RequestId) : (Fields.empty.insertText .requestId id.text).valuesOf .requestId = [idValue id] := by
    rw [Fields.insertText, fieldValue_ofText?_text]
    exact Fields.valuesOf_insert _ _ _
  show (if wantsClose request.version request.fields = true then _ else _ : Fields).valuesOf _ = _
  split
  · rw [Fields.valuesOf_insert_of_ne _ (by decide), hset]
  · exact hset _

/-- **Echoing.** Let a request name an identifier by a text that is read. The response starts with the text of what was
read, which is the text in capitals and without the white space around it exactly if it starts low: of a higher first
character two bits are left out. Texts are read as one identifier exactly if they are alike, and where both start low
exactly if they differ in case and white space alone. Every identifier is read back from its text, from a header with
its text, from its value of JSON and from the text of that value. -/
theorem echoed_iff {request : Request} {v : FieldValue} {s : String} {id : RequestId}
    (hv : request.fields.get? .requestId = some v) (hs : v.text? = some s) (h : ofText? s = .ok id) :
    (∀ fresh, (Exchange.start request fresh).requestId = id ∧
      ((Exchange.start request fresh).response.fields.valuesOf .requestId).map (·.content) = [octets id.text]) ∧
    (id.text = capitals (Text.trim s) ↔ startsLow s = true) ∧
    (∀ s' id', ofText? s' = .ok id' → (id' = id ↔ Alike s' s) ∧
      (startsLow s = true → startsLow s' = true → (id' = id ↔ capitals (Text.trim s') = capitals (Text.trim s)))) ∧
    ∀ id' fresh : RequestId, ofText? id'.text = .ok id' ∧ ofHeader (some id'.text) fresh = id' ∧
      ofJson? id'.json = some id' ∧ (Json.read? id'.json.text).bind ofJson? = some id' := by
  refine ⟨fun fresh => ?_, text_eq_capitals_iff h, fun s' id' h' => ⟨eq_iff_alike h h', fun hlow hlow' => ?_⟩,
    fun id' fresh => ?_⟩
  · have hid : Exchange.idOf request fresh = id := by
      simp only [Exchange.idOf, hv, Option.bind_some, hs, ofHeader, Option.map_some, h]
    refine ⟨hid, ?_⟩
    rw [valuesOf_start, hid, List.map_singleton, content_idValue]
  · rw [← (text_eq_capitals_iff h).mpr hlow, ← (text_eq_capitals_iff h').mpr hlow']
    exact ⟨fun hid => by rw [hid], text_inj⟩
  · have hjson : ofJson? id'.json = some id' := by
      simp only [ofJson?, json, JsonValue.text?, Option.bind_some, ofText?_text, Except.toOption]
    refine ⟨ofText?_text id', ?_, hjson, ?_⟩
    · simp only [ofHeader, Option.map_some, ofText?_text]
    · have hread : Json.read? id'.json.text = some id'.json := Json.read?_quoted id'.text
      rw [hread, Option.bind_some, hjson]

/-- A request that names an identifier in small letters, with a tab behind it. -/
def namingRequest : Request :=
  ⟨.get, .ofPath ⟨"/", none⟩, .http11, .ofLines [(.requestId, ⟨octets "01arz3ndektsv4rrffq69g5fav\t", by decide⟩)], ""⟩

/-- It comes back in capitals. -/
theorem echoed_iff_small :
    ∃ v s id, namingRequest.fields.get? .requestId = some v ∧ v.text? = some s ∧ ofText? s = .ok id ∧
      startsLow s = true ∧ id.text = "01ARZ3NDEKTSV4RRFFQ69G5FAV" ∧
      ∀ fresh, ((Exchange.start namingRequest fresh).response.fields.valuesOf .requestId).map (·.content) =
        [octets "01ARZ3NDEKTSV4RRFFQ69G5FAV"] := by
  obtain ⟨v, s, hv, hs, hsame⟩ : ∃ v s, namingRequest.fields.get? .requestId = some v ∧ v.text? = some s ∧
      s = "01arz3ndektsv4rrffq69g5fav\t" := ⟨_, _, rfl, rfl, by decide⟩
  have hlow : startsLow s = true := by
    rw [hsame]
    decide
  have hupper : capitals (Text.trim s) = "01ARZ3NDEKTSV4RRFFQ69G5FAV" := by
    rw [hsame]
    decide
  obtain ⟨id, h⟩ : ∃ id, ofText? s = .ok id := by
    rw [hsame]
    exact ⟨_, rfl⟩
  obtain ⟨hstart, hback, -, -⟩ := echoed_iff hv hs h
  have htext : id.text = "01ARZ3NDEKTSV4RRFFQ69G5FAV" := (hback.mpr hlow).trans hupper
  exact ⟨v, s, id, hv, hs, h, hlow, htext, fun fresh => htext ▸ (hstart fresh).2⟩

/-- Two texts that differ in their first characters are read as one identifier, so one of them does not come back. -/
theorem read_without_high_bits :
    ∃ s t id, ofText? s = .ok id ∧ ofText? t = .ok id ∧ capitals (Text.trim s) ≠ capitals (Text.trim t) ∧
      id.text ≠ capitals (Text.trim t) := by
  obtain ⟨id, hs⟩ : ∃ id, ofText? "01ARZ3NDEKTSV4RRFFQ69G5FAV" = .ok id := ⟨_, rfl⟩
  obtain ⟨id', ht⟩ : ∃ id, ofText? "81ARZ3NDEKTSV4RRFFQ69G5FAV" = .ok id := ⟨_, rfl⟩
  have halike : Alike "81ARZ3NDEKTSV4RRFFQ69G5FAV" "01ARZ3NDEKTSV4RRFFQ69G5FAV" :=
    ⟨_, _, _, _, rfl, rfl, by decide, by decide⟩
  obtain rfl : id' = id := (eq_iff_alike hs ht).mpr halike
  have hhigh : ¬ startsLow "81ARZ3NDEKTSV4RRFFQ69G5FAV" = true := by decide
  exact ⟨_, _, _, hs, ht, by decide, fun h => hhigh ((text_eq_capitals_iff ht).mp h)⟩

end RequestId

end HttpService
