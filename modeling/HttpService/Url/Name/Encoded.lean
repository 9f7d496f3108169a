/-!
# Encoded labels

A label with characters beyond ASCII can be written in ASCII. What it has of ASCII comes first, as it is, and a
dash ends it; then, for each further character in the order of their numbers, comes how far it is from the one
before: a number that counts the characters skipped and the places in the label passed over.

These numbers are written in digits of base 36, the lowest first, and a digit below its threshold is the last one
of its number. Where the thresholds lie depends on a bias that follows the size of the numbers read
(`adaptedBias`). Numbers beyond 32 bits are refused.
-/

namespace HttpService.Url.Name.Encoded

/-- The number of digits. -/
def base : Nat := 36

/-- The first number that is too large. -/
def bound : Nat := Nat.pow 2 32

/-- The value of a digit. -/
def digit? (c : Char) : Option Nat :=
  if 'a' ≤ c && c ≤ 'z' then some (c.toNat - 97)
  else if 'A' ≤ c && c ≤ 'Z' then some (c.toNat - 65)
  else if '0' ≤ c && c ≤ '9' then some (c.toNat - 22)
  else none

/-- The threshold of a digit; `place` is the base times its place, counted from one. -/
def threshold (place bias : Nat) : Nat := max 1 (min 26 (place - bias))

/-- Divides a number until it is small, adding up the base for each time. -/
def scaledDown (sum n : Nat) : Nat × Nat :=
  if 455 < n then scaledDown (sum + base) (n / 35) else (sum, n)
termination_by n

/-- The bias behind a number that was read; `count` is how long the label is then. -/
def adaptedBias (n count : Nat) (first : Bool) : Nat :=
  let n := if first then n / 700 else n / 2
  let (sum, n) := scaledDown 0 (n + n / count)
  sum + base * n / (n + 38)

/-- Adds the number in front to `n`: the sum and what follows. -/
def number? (bias place weight n : Nat) : List Char → Option (Nat × List Char)
  | [] => none
  | c :: cs => do
    let d ← digit? c
    let n := n + d * weight
    let t := threshold place bias
    if bound ≤ n then none
    else if d < t then some (n, cs)
    else if bound ≤ weight * (base - t) then none
    else number? bias (place + base) (weight * (base - t)) n cs

/-- A number takes at least one digit. -/
theorem length_lt_of_number? {bias place weight n m : Nat} {cs rest : List Char}
    (h : number? bias place weight n cs = some (m, rest)) : rest.length < cs.length := by
  -- A digit is taken in each step, so also in the last.
  induction cs generalizing place weight n with
  | nil => simp [number?] at h
  | cons c cs ih =>
    simp only [number?, Option.bind_eq_bind, Option.bind_eq_some_iff] at h
    obtain ⟨d, -, h⟩ := h
    split at h
    next => simp at h
    next =>
      split at h
      next => simp_all
      next =>
        split at h
        next => simp at h
        next => exact Nat.lt_succ_of_lt (ih h)

/-- Puts the characters that the digits stand for into a label; `n` is the number of the last one, `i` the place
behind it. -/
def insertAll (bias n i : Nat) (label : List Char) (cs : List Char) : Option (List Char) :=
  if cs.isEmpty then some label
  else
    match h : number? bias base 1 i cs with
    | none => none
    | some (j, rest) =>
      let count := label.length + 1
      -- Having passed all places once, one is a character further.
      let n := n + j / count
      let spot := j % count
      have := length_lt_of_number? h
      if n.isValidChar then
        insertAll (adaptedBias (j - i) count (i == 0)) n (spot + 1) (label.insertIdx spot (Char.ofNat n)) rest
      else none
termination_by cs.length

/-- The ASCII characters in front and the digits behind the last dash. Where no character stands before it, the
dash counts as a digit, which it is not. -/
def split (cs : List Char) : List Char × List Char :=
  let digits := (cs.reverse.takeWhile (· != '-')).reverse
  let front := cs.take (cs.length - digits.length - 1)
  if front.isEmpty then ([], cs) else (front, digits)

/-- The label that an encoded one stands for. -/
def decode? (cs : List Char) : Option (List Char) :=
  let (front, digits) := split cs
  insertAll 72 0x80 0 (front.map Char.toLower) digits

end HttpService.Url.Name.Encoded
