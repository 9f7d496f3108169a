import HttpService.Wire.Scan

/-!
# Chunk sizes

The line before a chunk: hexadecimal digits, blanks, and an extension after a semicolon, up to CR LF. A line
without digits stands for zero. At most sixteen digits are taken, so a size fits 64 bits (`size_lt`).
-/

namespace HttpService

/-- What of a size line is being read. -/
inductive SizePart where
  | digits (count : Nat)
  | blanks
  | extension
deriving DecidableEq

namespace ChunkSize

/-- The most digits that a size may have. -/
def maxDigits : Nat := 16

/-- Where one octet of a size line, other than its end, leads: the part it is in and the size so far. -/
def step (part : SizePart) (size : Nat) (b : UInt8) : Option (SizePart × Nat) :=
  match part with
  | .digits count =>
    match Octet.hexValue? b with
    | some d => if count < maxDigits then some (.digits (count + 1), size * 16 + d) else none
    | none =>
      if Octet.isBlank b then some (.blanks, size)
      else if b == octet ';' then some (.extension, size)
      else none
  | .blanks =>
    if Octet.isBlank b then some (.blanks, size)
    else if b == octet ';' then some (.extension, size)
    else none
  | .extension => some (.extension, size)

/-- The rest of a size line of which a part has been read. -/
def scanFrom (part : SizePart) (size : Nat) : Scan Nat
  | [] => .short
  -- The CR may still turn out to be the end of the line.
  | [13] => .short
  | 13 :: 10 :: bs => .done size bs
  | b :: bs =>
    -- A CR without its LF is a fault in every part of the line, also inside an extension.
    if b == 13 then .failed .badChunkSize
    else match step part size b with
      | some (part', size') => scanFrom part' size' bs
      | none => .failed .badChunkSize

/-- A size line. -/
def scan : Scan Nat := scanFrom (.digits 0) 0

/-- A line is longer than what follows it. -/
theorem length_lt_of_scanFrom {part : SizePart} {size n : Nat} {bs rest : Octets}
    (h : scanFrom part size bs = .done n rest) : rest.length < bs.length := by
  fun_induction scanFrom part size bs with
  | case1 => cases h
  | case2 => cases h
  | case3 =>
    obtain ⟨_, rfl⟩ := Scanned.done.inj h
    simp only [List.length_cons]
    omega
  | case4 => cases h
  | case5 _ _ _ _ _ _ _ _ _ _ ih =>
    have := ih h
    simp only [List.length_cons]
    omega
  | case6 => cases h

/-- A size line uses at least its line end. -/
theorem length_lt_of_scan {n : Nat} {bs rest : Octets} (h : scan bs = .done n rest) :
    rest.length < bs.length := length_lt_of_scanFrom h

/-- How far a size of so many digits can reach. -/
def bound : SizePart → Nat
  | .digits count => Nat.pow 16 count
  | _ => Nat.pow 16 maxDigits

/-- A hexadecimal digit is worth less than sixteen, so a size of few digits cannot pass the bound of a count. -/
theorem hexValue?_lt {b : UInt8} {d : Nat} (h : Octet.hexValue? b = some d) : d < 16 := by
  simp only [Octet.hexValue?, Octet.isDigit, Bool.and_eq_true, decide_eq_true_eq] at h
  have hbelow {top : UInt8} {first : Nat} (hb : b ≤ top) (htop : top.toNat < first + 16) (hd : b.toNat - first = d) :
      d < 16 := by
    have hle := UInt8.le_iff_toNat_le.mp hb
    omega
  -- Three stretches of octets: digits, and letters of either case, whose first one stands for ten.
  split at h
  next hdigit => exact hbelow hdigit.2 (by decide) (Option.some.inj h)
  next =>
    split at h
    next hsmall => exact hbelow hsmall.2 (by decide) (Option.some.inj h)
    next =>
      split at h
      next hcapital => exact hbelow hcapital.2 (by decide) (Option.some.inj h)
      next => cases h

/-- Each octet keeps the size below the bound of its part. -/
theorem step_bound {part part' : SizePart} {size size' : Nat} {b : UInt8}
    (hp : ∀ count, part = .digits count → count ≤ maxDigits) (hs : size < bound part)
    (h : step part size b = some (part', size')) :
    size' < bound part' ∧ ∀ count, part' = .digits count → count ≤ maxDigits := by
  cases part with
  | digits count =>
    have hc := hp count rfl
    -- A line that has digits left is below the bound of all sixteen.
    have hle : Nat.pow 16 count ≤ Nat.pow 16 maxDigits := Nat.pow_le_pow_right (by decide) hc
    simp only [bound] at hs
    simp only [step] at h
    split at h
    next d hd =>
      split at h
      next hlt =>
        obtain ⟨rfl, rfl⟩ := Prod.mk.inj (Option.some.inj h)
        have := hexValue?_lt hd
        refine ⟨?_, fun c e => by cases e; exact hlt⟩
        have hpow : Nat.pow 16 (count + 1) = Nat.pow 16 count * 16 := rfl
        simp only [bound, hpow]
        omega
      next => cases h
    next =>
      split at h
      next =>
        obtain ⟨rfl, rfl⟩ := Prod.mk.inj (Option.some.inj h)
        exact ⟨by simp only [bound]; omega, nofun⟩
      next =>
        split at h
        next =>
          obtain ⟨rfl, rfl⟩ := Prod.mk.inj (Option.some.inj h)
          exact ⟨by simp only [bound]; omega, nofun⟩
        next => cases h
  | blanks =>
    simp only [step] at h
    split at h
    next =>
      obtain ⟨rfl, rfl⟩ := Prod.mk.inj (Option.some.inj h)
      exact ⟨hs, nofun⟩
    next =>
      split at h
      next =>
        obtain ⟨rfl, rfl⟩ := Prod.mk.inj (Option.some.inj h)
        exact ⟨hs, nofun⟩
      next => cases h
  | extension =>
    simp only [step] at h
    obtain ⟨rfl, rfl⟩ := Prod.mk.inj (Option.some.inj h)
    exact ⟨hs, nofun⟩

/-- A size read fits 64 bits. -/
theorem size_lt {n : Nat} {bs rest : Octets} (h : scan bs = .done n rest) : n < Nat.pow 2 64 := by
  -- The bound of the part is carried through the line.
  have key : ∀ part size bs, (∀ count, part = .digits count → count ≤ maxDigits) → size < bound part →
      scanFrom part size bs = .done n rest → n < Nat.pow 2 64 := by
    intro part size bs
    fun_induction scanFrom part size bs with
    | case1 => intro _ _ h; cases h
    | case2 => intro _ _ h; cases h
    | case3 part size bs =>
      intro hp hs h
      obtain ⟨rfl, _⟩ := Scanned.done.inj h
      have hle : bound part ≤ Nat.pow 2 64 := by
        cases part with
        | digits count => exact Nat.pow_le_pow_right (n := 16) (by decide) (hp count rfl)
        | blanks => decide
        | extension => decide
      omega
    | case4 => intro _ _ h; cases h
    | case5 part size b bs _ _ _ part' size' hstep ih =>
      intro hp hs h
      have := step_bound hp hs hstep
      exact ih this.2 this.1 h
    | case6 => intro _ _ h; cases h
  exact key _ _ _ (by intro c e; cases e; decide) (by decide) h

end ChunkSize

end HttpService
