import HttpService.Form
import HttpService.Octets.Ascii

/-!
# Forms are read as they were written

A name or value is read back from its written form (`decode_encode`), and its written form holds neither of the
marks that part pairs and parts of pairs (`encode_noMark`). So a pair that was written is found under its name
(`find?_pairText`).
-/

namespace HttpService.Form

/-! ## Single octets -/

theorem ascii_hexDigit {n : Nat} (h : n < 16) : (Escape.hexDigit n).toNat < 128 := by
  have key : ∀ n ∈ List.range 16, (Escape.hexDigit n).toNat < 128 := by decide +kernel
  exact key n (List.mem_range.mpr h)

/-- Every octet is read from its two digits. -/
theorem octet?_digits (b : UInt8) :
    Escape.octet? (octet (Escape.hexDigit (b.toNat / 16))) (octet (Escape.hexDigit (b.toNat % 16))) = some b := by
  have key : ∀ n ∈ List.range 256,
      Escape.octet? (octet (Escape.hexDigit (n / 16))) (octet (Escape.hexDigit (n % 16))) =
        some (UInt8.ofNat n) := by decide +kernel
  simpa using key b.toNat (List.mem_range.mpr b.toNat_lt)

/-- The marks that part pairs and parts of pairs, and those that stand for something else. -/
def marks : List UInt8 := [octet '&', octet '=', octet '+', octet '%']

/-- An escaped octet brings no mark into the text. -/
theorem digit_not_mark {n : Nat} (h : n < 16) : octet (Escape.hexDigit n) ∉ marks := by
  have key : ∀ n ∈ List.range 16, octet (Escape.hexDigit n) ∉ marks := by decide +kernel
  exact key n (List.mem_range.mpr h)

/-- An octet that is written as it is, is no mark. -/
theorem plain_not_mark {b : UInt8} (h : isPlain b = true) : b ∉ marks := by
  intro hb
  have key : ∀ b ∈ marks, isPlain b = false := by decide +kernel
  rw [key b hb] at h
  cases h

theorem plain_ascii {b : UInt8} (h : isPlain b = true) : b.toNat < 128 := by
  have key : ∀ n ∈ List.range 256, isPlain (UInt8.ofNat n) = true → n < 128 := by decide +kernel
  exact key b.toNat (List.mem_range.mpr b.toNat_lt) (by simpa using h)

/-- What holds of a plus sign, of an octet written as it is, of a percent sign and of the digits holds of every
character that an octet is written with. -/
theorem forall_mem_encodeOctet {P : Char → Prop} (hblank : P '+')
    (hplain : ∀ b : UInt8, isPlain b = true → P (Char.ofNat b.toNat)) (hpercent : P '%')
    (hdigit : ∀ n < 16, P (Escape.hexDigit n)) (b : UInt8) : ∀ c ∈ encodeOctet b, P c := by
  have hb := b.toNat_lt
  unfold encodeOctet
  split
  next => exact List.forall_mem_singleton.mpr hblank
  next =>
    split
    next h => exact List.forall_mem_singleton.mpr (hplain b h)
    next =>
      -- What is escaped is a percent sign and two hexadecimal digits.
      have hhigh : P (Escape.hexDigit (b.toNat / 16)) := hdigit _ (by omega)
      have hlow : P (Escape.hexDigit (b.toNat % 16)) := hdigit _ (by omega)
      rw [Escape.escapeOctet]
      exact List.forall_mem_cons.mpr ⟨hpercent, List.forall_mem_cons.mpr ⟨hhigh, List.forall_mem_singleton.mpr hlow⟩⟩

/-- An octet is written in ASCII. -/
theorem ascii_encodeOctet (b : UInt8) : ∀ c ∈ encodeOctet b, c.toNat < 128 := by
  refine forall_mem_encodeOctet (by decide) (fun b h => ?_) (by decide) (fun n hn => ascii_hexDigit hn) b
  rw [toNat_ofNat_octet]
  exact plain_ascii h

/-- A blank for a plus sign, and every other octet as it is. -/
def blankForPlus (b : UInt8) : UInt8 := if b == octet '+' then 32 else b

theorem unescape_cons_of_ne {b : UInt8} (h : b ≠ 37) (rest : Octets) :
    Escape.unescape (b :: rest) = b :: Escape.unescape rest := by
  simp [Escape.unescape, Escape.unescapeFrom, h]

/-- An octet is read from its written form. -/
theorem unescape_encodeOctet (b : UInt8) (rest : Octets) :
    Escape.unescape (((encodeOctet b).map octet).map blankForPlus ++ rest) = b :: Escape.unescape rest := by
  have hb := b.toNat_lt
  unfold encodeOctet
  split
  next h =>
    obtain rfl := eq_of_beq h
    exact unescape_cons_of_ne (by decide) rest
  next =>
    split
    next h =>
      have hm := plain_not_mark h
      simp only [marks, List.mem_cons, not_or] at hm
      -- A plain octet is neither of the two that reading changes.
      have hplus : blankForPlus b = b := if_neg (by simpa using hm.2.2.1)
      have hpercent : b ≠ 37 := hm.2.2.2.1
      simp only [List.map_cons, List.map_nil, octet_ofNat, hplus, List.cons_append, List.nil_append]
      exact unescape_cons_of_ne hpercent rest
    next =>
      -- Both digits pass through unchanged, so the escape arrives whole.
      have high := digit_not_mark (n := b.toNat / 16) (by omega)
      have low := digit_not_mark (n := b.toNat % 16) (by omega)
      simp only [marks, List.mem_cons, not_or] at high low
      have hh : blankForPlus (octet (Escape.hexDigit (b.toNat / 16))) =
          octet (Escape.hexDigit (b.toNat / 16)) := if_neg (by simpa using high.2.2.1)
      have hl : blankForPlus (octet (Escape.hexDigit (b.toNat % 16))) =
          octet (Escape.hexDigit (b.toNat % 16)) := if_neg (by simpa using low.2.2.1)
      have hp : blankForPlus (octet '%') = 37 := by decide
      simp only [Escape.escapeOctet, List.map_cons, List.map_nil, hh, hl, hp, List.cons_append, List.nil_append]
      simp [Escape.unescape, Escape.unescapeFrom, octet?_digits]

/-! ## Names and values -/

/-- What is encoded is of one octet for each character. -/
theorem octets_encode (s : String) : octets (encode s) = ((octets s).flatMap encodeOctet).map octet := by
  apply octets_ofList_of_ascii
  intro c hc
  obtain ⟨b, _, hb⟩ := List.mem_flatMap.mp hc
  exact ascii_encodeOctet b c hb

/-- Encoding is undone octet by octet, blanks included. -/
theorem unescape_encoded (bs : Octets) :
    Escape.unescape (((bs.flatMap encodeOctet).map octet).map blankForPlus) = bs := by
  induction bs with
  | nil => rfl
  | cons b bs ih => rw [List.flatMap_cons, List.map_append, List.map_append, unescape_encodeOctet, ih]

/-- A name or value is read back from its written form. -/
theorem decode_encode (s : String) : decode (octets (encode s)) = s := by
  unfold decode
  rw [octets_encode]
  show (Escape.unescape (((octets s).flatMap encodeOctet).map octet |>.map blankForPlus)).mended = s
  rw [unescape_encoded, Octets.mended_octets]

/-- A written name or value holds neither `&` nor `=`. -/
theorem encode_noMark (s : String) : octet '&' ∉ octets (encode s) ∧ octet '=' ∉ octets (encode s) := by
  have hmarks : ∀ b ∉ marks, b ≠ octet '&' ∧ b ≠ octet '=' := by
    intro b hb
    simp only [marks, List.mem_cons, not_or] at hb
    exact ⟨hb.1, hb.2.1⟩
  -- Octet by octet: a blank becomes a plus, a plain octet is no mark, and any other is written with digits.
  have key : ∀ b : UInt8, ∀ c ∈ encodeOctet b, octet c ≠ octet '&' ∧ octet c ≠ octet '=' := by
    refine forall_mem_encodeOctet (by decide) (fun b h => ?_) (by decide) fun n hn => hmarks _ (digit_not_mark hn)
    rw [octet_ofNat]
    exact hmarks b (plain_not_mark h)
  rw [octets_encode]
  constructor <;>
  · intro h
    obtain ⟨c, hc, e⟩ := List.mem_map.mp h
    obtain ⟨b, _, hb⟩ := List.mem_flatMap.mp hc
    have := key b c hb
    simp_all

/-! ## Pairs -/

/-- Text without a mark ends at the first one behind it. -/
theorem takeWhile_of_not_mem {mark : UInt8} {front : Octets} (h : mark ∉ front) (rest : Octets) :
    (front ++ mark :: rest).takeWhile (· != mark) = front := by
  induction front with
  | nil => simp
  | cons b front ih =>
    simp only [List.mem_cons, not_or] at h
    have : (b != mark) = true := by simpa using fun e => h.1 e.symm
    simp [this, ih h.2]

/-- A pair is read from its written form. -/
theorem pairs_pairText (name value : String) : pairs (pairText name value) = [(name, value)] := by
  have hn := encode_noMark name
  have hv := encode_noMark value
  have e : octets (pairText name value) = octets (encode name) ++ octet '=' :: octets (encode value) := by
    unfold pairText
    rw [octets_append, octets_append, List.append_assoc]
    rfl
  -- Neither part holds the mark between pairs, so the text is one stretch.
  have hamp : octet '&' ∉ octets (pairText name value) := by
    rw [e, List.mem_append, List.mem_cons, not_or, not_or]
    exact ⟨hn.1, by decide, hv.1⟩
  unfold pairs
  rw [pieces_of_not_mem hamp, e]
  have hne : (octets (encode name) ++ octet '=' :: octets (encode value)).isEmpty = false := by simp
  simp only [List.filter_cons, hne, Bool.not_false, if_true, List.filter_nil, List.map_cons, List.map_nil, pair,
    takeWhile_of_not_mem hn.2]
  -- What follows the first `=` is the value, since the name holds none.
  have hdrop : (octets (encode name) ++ octet '=' :: octets (encode value)).drop ((octets (encode name)).length + 1) =
      octets (encode value) := by simp
  rw [hdrop, decode_encode, decode_encode]

/-- A value that was written under a name is found under it. -/
theorem find?_pairText (name value : String) : find? (pairText name value) name = some value := by
  simp [find?, pairs_pairText]

end HttpService.Form
