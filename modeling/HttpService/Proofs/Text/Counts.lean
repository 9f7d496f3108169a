import HttpService.Proofs.Text.Decimal

/-!
# Counts in white space

A count may stand between white space, and a plus sign may stand in front of its digits. What a text spells in this
sense (`Decimal.Spells`) is said here without the reader of counts, and compared with it.

* `Text.trimChars_append`, `Text.exists_blanks_trimChars` — trimming cuts off white space and nothing else.
* `Decimal.readBelow?_trim_eq_some_iff` — a text is read as a count exactly if it spells one that is in range.
-/

namespace HttpService

namespace Text

/-- A text is what is left of it after trimming, between white space. -/
theorem exists_blanks_trimChars (cs : List Char) :
    ∃ front back, cs = front ++ trimChars cs ++ back ∧ (∀ c ∈ front, isBlank c = true) ∧
      ∀ c ∈ back, isBlank c = true := by
  refine ⟨cs.takeWhile isBlank, ((cs.dropWhile isBlank).reverse.takeWhile isBlank).reverse, ?_,
    List.all_eq_true.mp List.all_takeWhile,
    fun c hc => List.all_eq_true.mp List.all_takeWhile c (List.mem_reverse.mp hc)⟩
  have hback : trimChars cs ++ ((cs.dropWhile isBlank).reverse.takeWhile isBlank).reverse = cs.dropWhile isBlank := by
    rw [trimChars, ← List.reverse_append, List.takeWhile_append_dropWhile, List.reverse_reverse]
  rw [List.append_assoc, hback, List.takeWhile_append_dropWhile]

/-- Something is left of a text with a character that is no white space. -/
theorem trim_ne_empty {s : String} {c : Char} (hc : c ∈ s.toList) (hblank : isBlank c = false) : trim s ≠ "" := by
  intro htrim
  have hnil : trimChars s.toList = [] := String.ofList_eq_empty_iff.mp htrim
  obtain ⟨front, back, hs, hfront, hback⟩ := exists_blanks_trimChars s.toList
  rw [hnil, List.append_nil] at hs
  rw [hs] at hc
  have htrue : isBlank c = true := (List.mem_append.mp hc).elim (hfront c) (hback c)
  exact Bool.false_ne_true (hblank.symm.trans htrue)

/-- White space around a text that has none is cut off. -/
theorem trimChars_append {front cs back : List Char} (hfront : ∀ c ∈ front, isBlank c = true)
    (hback : ∀ c ∈ back, isBlank c = true) (hne : cs ≠ []) (hcs : ∀ c ∈ cs, isBlank c = false) :
    trimChars (front ++ cs ++ back) = cs := by
  -- At either end dropping stops at a character that is no blank.
  have hstop : ∀ l rest : List Char, l ≠ [] → (∀ c ∈ l, isBlank c = false) →
      (l ++ rest).dropWhile isBlank = l ++ rest := by
    intro l rest hl hblank
    cases l with
    | nil => exact absurd rfl hl
    | cons c l => exact List.dropWhile_cons_of_neg (by simp [hblank c List.mem_cons_self])
  rw [trimChars, List.append_assoc, List.dropWhile_append_of_pos hfront, hstop cs back hne hcs, List.reverse_append,
    List.dropWhile_append_of_pos fun c hc => hback c (List.mem_reverse.mp hc)]
  have hrev := hstop cs.reverse [] (List.reverse_ne_nil_iff.mpr hne) fun c hc => hcs c (List.mem_reverse.mp hc)
  rw [List.append_nil] at hrev
  rw [hrev, List.reverse_reverse]

end Text

namespace Decimal

/-- Digits, with or without a plus sign in front of them, that denote a number. -/
def Denote (cs : List Char) (n : Nat) : Prop :=
  ∃ ds, (cs = ds ∨ cs = '+' :: ds) ∧ ds ≠ [] ∧ (∀ c ∈ ds, c.isDigit = true) ∧ Nat.ofDigitChars 10 ds 0 = n

/-- A text that spells a number: digits that denote it, between white space. -/
def Spells (raw : String) (n : Nat) : Prop :=
  ∃ front cs back, raw.toList = front ++ cs ++ back ∧ (∀ c ∈ front, Text.isBlank c = true) ∧
    (∀ c ∈ back, Text.isBlank c = true) ∧ Denote cs n

/-- A digit is worth its distance from zero. -/
theorem value?_eq_some_iff {c : Char} {d : Nat} : value? c = some d ↔ c.isDigit = true ∧ d = c.toNat - 48 := by
  constructor
  · intro h
    unfold value? at h
    split at h
    next hrange =>
      refine ⟨?_, (Option.some.inj h).symm⟩
      simp only [Bool.and_eq_true, decide_eq_true_eq] at hrange
      simp only [Char.isDigit, Bool.and_eq_true, decide_eq_true_eq]
      exact hrange
    next => cases h
  · rintro ⟨hdigit, rfl⟩
    exact value?_of_isDigit hdigit

/-- Reading takes digits only, and all of them. -/
theorem readDigits?_eq_some_iff {cs : List Char} {led n : Nat} :
    readDigits? led cs = some n ↔ (∀ c ∈ cs, c.isDigit = true) ∧ Nat.ofDigitChars 10 cs led = n := by
  constructor
  · intro h
    have hdigits : ∀ c ∈ cs, c.isDigit = true := by
      induction cs generalizing led with
      | nil => exact fun c hc => absurd hc List.not_mem_nil
      | cons c cs ih =>
        obtain ⟨d, hd, hrest⟩ := Option.bind_eq_some_iff.mp h
        exact List.forall_mem_cons.mpr ⟨(value?_eq_some_iff.mp hd).1, ih hrest⟩
    rw [readDigits?_of_isDigit hdigits] at h
    exact ⟨hdigits, Option.some.inj h⟩
  · rintro ⟨hdigits, rfl⟩
    exact readDigits?_of_isDigit hdigits led

/-- What is read is what the text denotes, for the reader tests nothing else. -/
theorem read?_eq_some_iff {cs : List Char} {n : Nat} : read? cs = some n ↔ Denote cs n := by
  unfold read?
  split
  next =>
    constructor
    · rintro ⟨⟩
    · rintro ⟨ds, rfl | hcs, hne, -⟩
      · exact absurd rfl hne
      · cases hcs
  next cs =>
    -- A plus sign is no digit, so what is denoted stands behind it.
    have hsign : Denote ('+' :: cs) n ↔ cs ≠ [] ∧ (∀ c ∈ cs, c.isDigit = true) ∧ Nat.ofDigitChars 10 cs 0 = n := by
      constructor
      · rintro ⟨ds, rfl | hds, hne, hdigits, hn⟩
        · cases hdigits '+' List.mem_cons_self
        · obtain rfl := List.tail_eq_of_cons_eq hds
          exact ⟨hne, hdigits, hn⟩
      · exact fun h => ⟨cs, .inr rfl, h⟩
    rw [hsign, ← readDigits?_eq_some_iff]
    cases cs with
    | nil => simp
    | cons c cs => simp
  next hnil hplus =>
    rw [readDigits?_eq_some_iff]
    constructor
    · exact fun h => ⟨cs, .inl rfl, hnil, h⟩
    · rintro ⟨ds, rfl | rfl, -, h⟩
      · exact h
      · exact absurd rfl (hplus ds)

theorem Denote.ne_nil {cs : List Char} {n : Nat} (h : Denote cs n) : cs ≠ [] := by
  obtain ⟨ds, rfl | rfl, hne, -⟩ := h
  · exact hne
  · exact List.cons_ne_nil _ _

/-- A number has no blanks in it, so trimming a text leaves its number whole. -/
theorem Denote.not_isBlank {cs : List Char} {n : Nat} (h : Denote cs n) : ∀ c ∈ cs, Text.isBlank c = false := by
  obtain ⟨ds, rfl | rfl, -, hdigits, -⟩ := h
  · exact fun c hc => not_isBlank_of_isDigit (hdigits c hc)
  · exact List.forall_mem_cons.mpr ⟨by decide, fun c hc => not_isBlank_of_isDigit (hdigits c hc)⟩

/-- **A text is read as a count, white space around it aside, exactly if it spells one** that is in range. -/
theorem readBelow?_trim_eq_some_iff {bound n : Nat} {raw : String} :
    readBelow? bound (Text.trim raw) = some n ↔ Spells raw n ∧ n < bound := by
  rw [readBelow?, Option.filter_eq_some_iff, decide_eq_true_eq, Text.trim, String.toList_ofList, read?_eq_some_iff]
  refine and_congr_left fun _ => ⟨fun h => ?_, ?_⟩
  · obtain ⟨front, back, hraw, hfront, hback⟩ := Text.exists_blanks_trimChars raw.toList
    exact ⟨front, _, back, hraw, hfront, hback, h⟩
  · rintro ⟨front, cs, back, hraw, hfront, hback, h⟩
    rw [hraw, Text.trimChars_append hfront hback h.ne_nil h.not_isBlank]
    exact h

end Decimal

end HttpService
