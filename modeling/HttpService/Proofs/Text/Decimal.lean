import HttpService.Octets.Ascii
import HttpService.Text.Blank
import HttpService.Text.Decimal

/-!
# Decimals are read as they were written

A number is written in digits alone, so its text is ASCII and has no white space to lose.

* `Decimal.readBelow?_trim_text` — a number below the bound is read back from its text, trimmed or not.
* `Decimal.isDigit_of_mem_octets_text` — the octets of the text are digits.
* `Decimal.head?_toDigits` — in any base only the digits of zero start with a zero.
* `Decimal.digits_of_hundreds` — a number of three digits, digit by digit.
-/

namespace HttpService.Decimal

theorem isDigit_of_mem_digits {n : Nat} {c : Char} (h : c ∈ digits n) : c.isDigit = true :=
  Nat.isDigit_of_mem_toDigits (by decide) (by decide) h

/-- Digits are those of the base, in which each is less than it. -/
theorem exists_of_mem_toDigits {base n : Nat} (hbase : 1 < base) {c : Char} (h : c ∈ Nat.toDigits base n) :
    ∃ d < base, c = d.digitChar := by
  induction n using Nat.strongRecOn with
  | ind n ih =>
    by_cases hn : n < base
    · rw [Nat.toDigits_of_lt_base hn, List.mem_singleton] at h
      exact ⟨n, hn, h⟩
    · have hle : base ≤ n := Nat.not_lt.mp hn
      rw [Nat.toDigits_of_base_le hbase hle, List.mem_append, List.mem_singleton] at h
      rcases h with h | h
      · exact ih (n / base) (Nat.div_lt_self (by omega) hbase) h
      · exact ⟨n % base, Nat.mod_lt n (by omega), h⟩

/-- Only the digits of zero start with a zero. -/
theorem head?_toDigits {base n : Nat} (hbase : 1 < base) (hbase' : base ≤ 16) (h : n ≠ 0) :
    (Nat.toDigits base n).head? ≠ some '0' := by
  induction n using Nat.strongRecOn with
  | ind n ih =>
    by_cases hn : n < base
    · have key : ∀ n ∈ List.range 16, n ≠ 0 → n.digitChar ≠ '0' := by decide
      rw [Nat.toDigits_of_lt_base hn, List.head?_cons, ne_eq, Option.some.injEq]
      exact key n (List.mem_range.mpr (by omega)) h
    · have hle : base ≤ n := Nat.not_lt.mp hn
      -- The highest digit is that of the number without its last digit.
      have hhead : (Nat.toDigits base n).head? = (Nat.toDigits base (n / base)).head? := by
        rw [Nat.toDigits_of_base_le hbase hle]
        cases hd : Nat.toDigits base (n / base) with
        | nil => exact absurd hd Nat.toDigits_ne_nil
        | cons c cs => rfl
      rw [hhead]
      exact ih (n / base) (Nat.div_lt_self (by omega) hbase) (Nat.div_ne_zero_iff.mpr ⟨by omega, hle⟩)

/-- A digit lies between the ends of its class. -/
theorem bounds_of_isDigit {c : Char} (h : c.isDigit = true) : 48 ≤ c.toNat ∧ c.toNat ≤ 57 := by
  simp only [Char.isDigit, Bool.and_eq_true, decide_eq_true_eq] at h
  exact ⟨UInt32.le_iff_toNat_le.mp h.1, UInt32.le_iff_toNat_le.mp h.2⟩

/-! ## Reading -/

theorem value?_of_isDigit {c : Char} (h : c.isDigit = true) : value? c = some (c.toNat - 48) := by
  simp only [Char.isDigit, Bool.and_eq_true, decide_eq_true_eq] at h
  have hrange : ('0' ≤ c && c ≤ '9') = true := by
    simp only [Bool.and_eq_true, decide_eq_true_eq]
    exact h
  rw [value?, if_pos hrange]

/-- Any digits are read, with what was read before them in front. -/
theorem readDigits?_of_isDigit {cs : List Char} (h : ∀ c ∈ cs, c.isDigit = true) (led : Nat) :
    readDigits? led cs = some (Nat.ofDigitChars 10 cs led) := by
  induction cs generalizing led with
  | nil => rw [readDigits?, Nat.ofDigitChars_nil]
  | cons c cs ih =>
    rw [readDigits?, value?_of_isDigit (h c List.mem_cons_self), Option.bind_some,
      ih fun d hd => h d (List.mem_cons_of_mem c hd), Nat.ofDigitChars_cons, Nat.mul_comm led 10]
    rfl

/-- A number is read back from its digits. -/
theorem read?_digits (n : Nat) : read? (digits n) = some n := by
  have hread : readDigits? 0 (digits n) = some n := by
    rw [readDigits?_of_isDigit fun c hc => isDigit_of_mem_digits hc, digits, Nat.ofDigitChars_ten_toDigits]
  cases hdigits : digits n with
  | nil => exact absurd hdigits Nat.toDigits_ne_nil
  | cons c cs =>
    have hdigit : c.isDigit = true := isDigit_of_mem_digits (hdigits ▸ List.mem_cons_self)
    -- A digit in front is no sign.
    have hplus : c ≠ '+' := by
      rintro rfl
      cases hdigit
    rw [hdigits] at hread
    rw [read?]
    · exact hread
    · simp
    · intro cs' hcs
      exact hplus (List.cons.inj hcs).1

/-! ## Trimming -/

/-- A digit is no blank, so nothing of a number is trimmed. -/
theorem not_isBlank_of_isDigit {c : Char} (h : c.isDigit = true) : Text.isBlank c = false := by
  obtain ⟨hlow, hhigh⟩ := bounds_of_isDigit h
  simp only [Text.isBlank, Bool.or_eq_false_iff, Bool.and_eq_false_iff, decide_eq_false_iff_not, beq_eq_false_iff_ne]
  omega

/-- What holds no blank is not shortened at either end. -/
theorem trim_of_forall_not {α : Type} {p : α → Bool} {l : List α} (h : ∀ a ∈ l, p a = false) :
    ((l.dropWhile p).reverse.dropWhile p).reverse = l := by
  have hdrop : ∀ l' : List α, (∀ a ∈ l', p a = false) → l'.dropWhile p = l' := by
    intro l' hl'
    cases l' with
    | nil => rfl
    | cons a l' => exact List.dropWhile_cons_of_neg (by simp [hl' a List.mem_cons_self])
  rw [hdrop l h, hdrop l.reverse fun a ha => h a (List.mem_reverse.mp ha), List.reverse_reverse]

/-- **A number is read back from its text**, if it fits. -/
theorem readBelow?_trim_text {bound n : Nat} (h : n < bound) : readBelow? bound (Text.trim (text n)) = some n := by
  have htrim : (Text.trim (text n)).toList = digits n := by
    rw [Text.trim, text, String.toList_ofList, String.toList_ofList]
    exact trim_of_forall_not fun c hc => not_isBlank_of_isDigit (isDigit_of_mem_digits hc)
  rw [readBelow?, htrim, read?_digits, Option.filter_some, if_pos (by simpa using h)]

/-! ## Octets -/

theorem ascii_of_mem_digits {n : Nat} {c : Char} (h : c ∈ digits n) : c.toNat < 128 := by
  have := (bounds_of_isDigit (isDigit_of_mem_digits h)).2
  omega

/-- A number is written with one octet for each digit. -/
theorem octets_text (n : Nat) : octets (text n) = (digits n).map octet :=
  octets_ofList_of_ascii fun _ hc => ascii_of_mem_digits hc

theorem toNat_octet_of_ascii {c : Char} (h : c.toNat < 128) : (octet c).toNat = c.toNat := by
  rw [octet, UInt32.toNat_toUInt8]
  exact Nat.mod_eq_of_lt (Nat.lt_trans h (by decide))

/-- Every octet of the text is a digit. -/
theorem isDigit_of_mem_octets_text {n : Nat} {b : UInt8} (h : b ∈ octets (text n)) : Octet.isDigit b = true := by
  rw [octets_text] at h
  obtain ⟨c, hc, rfl⟩ := List.mem_map.mp h
  obtain ⟨hlow, hhigh⟩ := bounds_of_isDigit (isDigit_of_mem_digits hc)
  simp only [Octet.isDigit, Bool.and_eq_true, decide_eq_true_eq, UInt8.le_iff_toNat_le,
    toNat_octet_of_ascii (ascii_of_mem_digits hc)]
  exact ⟨hlow, hhigh⟩

/-- Read octet by octet, the text is itself. -/
theorem latin_octets_text (n : Nat) : Octets.latin (octets (text n)) = text n := by
  rw [octets_text, Octets.latin, List.map_map, text]
  refine congrArg String.ofList ((List.map_congr_left fun c hc => ?_).trans (List.map_id _))
  rw [Function.comp_apply, toNat_octet_of_ascii (ascii_of_mem_digits hc), Char.ofNat_toNat]
  rfl

theorem toNat_octet_digitChar {d : Nat} (h : d < 10) : (octet d.digitChar).toNat = 48 + d := by
  have hchar := Nat.toNat_digitChar_of_lt_ten h
  rw [toNat_octet_of_ascii (by omega)]
  exact hchar

/-- A number of three digits, digit by digit. -/
theorem digits_of_hundreds {n : Nat} (hlow : 100 ≤ n) (hhigh : n < 1000) :
    digits n = [(n / 100).digitChar, (n / 10 % 10).digitChar, (n % 10).digitChar] := by
  rw [digits, Nat.toDigits_of_base_le (by decide) (by omega), Nat.toDigits_of_base_le (by decide) (by omega),
    Nat.toDigits_of_lt_base (by omega), Nat.div_div_eq_div_mul]
  rfl

end HttpService.Decimal
