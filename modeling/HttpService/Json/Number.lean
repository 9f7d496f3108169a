import HttpService.Json.Value
import HttpService.Text.Real

/-!
# Reading numbers of JSON

A number is read in the arithmetic of 64 bits. Its digits are gathered in a word for as long as they fit
(`gather`); those that do not fit only tell how far the word has to be scaled. The word is then scaled as a
floating-point number (`scaled?`), so a number with many digits is near to what its digits spell, but not
always nearest.

No digit is lost between the word and the rest (`gather_snd_length_le`, `gather_lt`): the word stays below
`wordBound`, and what is left of the digits is a part of them.
-/

namespace HttpService.Json

open Decimal (exponent?)

/-- The first number that is no word. -/
def wordBound : Nat := Nat.pow 2 64

/-- The digits behind a word, for as long as they fit, and the digits that do not. -/
def gather (word : Nat) : List Char → Nat × List Char
  | [] => (word, [])
  | c :: cs =>
    let next := word * 10 + (c.toNat - 48)
    if next < wordBound then gather next cs else (word, c :: cs)

/-- A word stays a word, whatever is gathered behind it. -/
theorem gather_lt {word : Nat} (h : word < wordBound) (cs : List Char) : (gather word cs).1 < wordBound := by
  induction cs generalizing word with
  | nil => exact h
  | cons c cs ih =>
    simp only [gather]
    split
    next hn => exact ih hn
    next => exact h

/-- What does not fit is a part of the digits. -/
theorem gather_snd_length_le (word : Nat) (cs : List Char) : (gather word cs).2.length ≤ cs.length := by
  induction cs generalizing word with
  | nil => exact Nat.le_refl _
  | cons c cs ih =>
    simp only [gather]
    split
    next => exact Nat.le_succ_of_le (ih _)
    next => exact Nat.le_refl _

/-- The largest power of ten that is a floating-point number. -/
def largestPower : Nat := 308

/-- A power of ten as a floating-point number. -/
def powerOfTen (n : Nat) : Float := Float.ofScientific 1 false n

/-- A number scaled by a power of ten, if that is in range. What is too small to be told from zero is zero. -/
def scaled? (x : Float) (power : Int) : Option Float :=
  if power.natAbs ≤ largestPower then
    if 0 ≤ power then
      let x := x * powerOfTen power.natAbs
      if x.isInf then none else some x
    else some (x / powerOfTen power.natAbs)
  -- Zero stays zero, however it is scaled.
  else if x == 0.0 then some x
  else if 0 ≤ power then none
  else scaled? (x / powerOfTen largestPower) (power + largestPower)
termination_by power.natAbs
decreasing_by simp only [largestPower] at *; omega

/-- A number. -/
def number? (cs : List Char) : Option (JsonNumber × List Char) := do
  let (negative, cs) := match cs with
    | '-' :: cs => (true, cs)
    | cs => (false, cs)
  let whole := cs.takeWhile Char.isDigit
  let cs := cs.dropWhile Char.isDigit
  if whole.isEmpty || (1 < whole.length && whole.head? == some '0') then none
  let (places, cs) ← match cs with
    | '.' :: cs =>
      let ds := cs.takeWhile Char.isDigit
      if ds.isEmpty then none else some (some ds, cs.dropWhile Char.isDigit)
    | cs => some (none, cs)
  let (power, cs) ← match cs with
    | 'e' :: cs | 'E' :: cs => (exponent? cs).map fun p => (some p.1, p.2)
    | cs => some (none, cs)
  let (word, left) := gather 0 whole
  -- Minus zero is no integer, and what is too large for one is read as a floating-point number.
  if places.isNone && power.isNone && left.isEmpty && (!negative || (word ≤ Nat.pow 2 63 && 0 < word)) then
    return (.int (if negative then -(word : Int) else word), cs)
  let places := places.getD []
  -- A place behind the point counts only if the word has room for it.
  let (word, unused) := gather word places
  let shift : Int := (left.length : Int) - ((places.length - unused.length : Nat) : Int)
  let x ← scaled? word.toFloat (shift + power.getD 0)
  return (.real (if negative then -x else x), cs)

end HttpService.Json
