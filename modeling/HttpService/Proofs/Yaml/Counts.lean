import HttpService.Proofs.Text.Decimal
import HttpService.Yaml.Plain

/-!
# Counts as plain scalars

A plain scalar may announce a base in front of a number, and a number with a superfluous zero in front is a text. The
fewest digits of a number do neither, so a scalar of them is the number.

* `Yaml.Plain.natural?_of_isDigit` — what digits spell in base 10.
* `Yaml.Plain.unsigned?_digits` — a count is read back from its digits.
-/

namespace HttpService

namespace Yaml.Plain

theorem digitValue?_of_isDigit {c : Char} (h : c.isDigit = true) : digitValue? 10 c = some (c.toNat - 48) := by
  have hbounds := Decimal.bounds_of_isDigit h
  have hlt : c.toNat - 48 < 10 := by omega
  rw [digitValue?, if_pos h, Option.filter_some, if_pos (decide_eq_true hlt)]

/-- Digits alone are a number in base ten. -/
theorem natural?_of_isDigit {cs : List Char} (hne : cs ≠ []) (h : ∀ c ∈ cs, c.isDigit = true) :
    natural? 10 cs = some (Nat.ofDigitChars 10 cs 0) := by
  have hfold : ∀ (cs : List Char) (led : Nat), (∀ c ∈ cs, c.isDigit = true) →
      cs.foldlM (fun n c => (digitValue? 10 c).map fun d => n * 10 + d) led = some (Nat.ofDigitChars 10 cs led) := by
    intro cs
    induction cs with
    | nil => exact fun _ _ => rfl
    | cons c cs ih =>
      intro led h
      obtain ⟨hc, hcs⟩ := List.forall_mem_cons.mp h
      rw [List.foldlM_cons, digitValue?_of_isDigit hc, Option.map_some, Option.bind_eq_bind, Option.bind_some, ih _ hcs,
        Nat.ofDigitChars_cons, Nat.mul_comm led 10]
      rfl
  rw [natural?, List.isEmpty_eq_false_iff.mpr hne, if_neg Bool.false_ne_true, hfold cs 0 h]

/-- Digits announce no base. -/
theorem base?_of_isDigit {cs : List Char} (h : ∀ c ∈ cs, c.isDigit = true) : base? cs = none := by
  unfold base?
  split
  · exact absurd (h 'x' (by simp)) (by decide)
  · exact absurd (h 'o' (by simp)) (by decide)
  · exact absurd (h 'b' (by simp)) (by decide)
  · rfl

/-- A number is written without a zero in front, which would make it a text. -/
theorem not_hasSpareZero_digits (n : Nat) : hasSpareZero (Decimal.digits n) = false := by
  by_cases hn : n = 0
  · rw [hn]
    decide
  · have hhead : (Decimal.digits n).head? ≠ some '0' := Decimal.head?_toDigits (by decide) (by decide) hn
    rw [hasSpareZero, beq_eq_false_iff_ne.mpr hhead, Bool.false_and, Bool.false_and]

/-- **A count is read back from its digits.** -/
theorem unsigned?_digits {bound n : Nat} (h : n < bound) : unsigned? bound (Decimal.digits n) = some n := by
  have hdigits : ∀ c ∈ Decimal.digits n, c.isDigit = true := fun c hc => Decimal.isDigit_of_mem_digits hc
  have hne : Decimal.digits n ≠ [] := Nat.toDigits_ne_nil
  have hvalue : Nat.ofDigitChars 10 (Decimal.digits n) 0 = n := Nat.ofDigitChars_ten_toDigits
  have hmagnitude : magnitude? bound (Decimal.digits n) = some n := by
    rw [magnitude?, base?_of_isDigit hdigits, not_hasSpareZero_digits, natural?_of_isDigit hne hdigits, hvalue]
    simp [Option.filter_some, h]
  unfold unsigned?
  split
  next hsign => exact absurd (hdigits '+' (hsign ▸ List.mem_cons_self)) (by decide)
  next => exact hmagnitude

end Yaml.Plain

end HttpService
