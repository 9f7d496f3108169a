import HttpService.Text.Decimal

/-!
# The shortest decimal of a floating-point number

A floating-point number stands for every real number that rounds to it. Of the decimals among those the ones
with the fewest digits are taken, of these the nearest to the number itself, and of two equally near ones the
one with the even last digit.

The search runs over decimal grids, coarse to fine, in exact arithmetic. `Binary` is the number as a multiple
of a power of two; `Binary.isMeant` says whether a decimal rounds to it.
-/

namespace HttpService.Decimal

/-- A positive floating-point number: `significand` times two to the `exponent`. -/
structure Binary where
  significand : Nat
  exponent : Int
  /-- Whether the next smaller number is only half as far as the next larger one. -/
  closeBelow : Bool
deriving DecidableEq, Repr

namespace Binary

/-- The number without its sign, if it is neither zero nor infinite. -/
def ofFloat? (x : Float) : Option Binary :=
  let bits : Nat := x.toBits.toNat
  let fraction := bits % Nat.pow 2 52
  let field : Nat := bits / Nat.pow 2 52 % Nat.pow 2 11
  if field = 2047 then none
  else if field = 0 then
    if fraction = 0 then none else some ⟨fraction, -1074, false⟩
  else some ⟨Nat.pow 2 52 + fraction, Int.ofNat field - 1075, fraction = 0 && 1 < field⟩

/-- A quarter of the number's last place, as a fraction. -/
def quarter (b : Binary) : Nat × Nat :=
  if b.exponent < 2 then (1, Nat.pow 2 (2 - b.exponent).toNat) else (Nat.pow 2 (b.exponent - 2).toNat, 1)

/-- Whether the decimal `n · 10 ^ e` rounds to the number. -/
def isMeant (b : Binary) (n : Nat) (e : Int) : Bool :=
  let (num, den) := b.quarter
  let (left, scale) := if e < 0 then (n * den, num * Nat.pow 10 (-e).toNat)
    else (n * Nat.pow 10 e.toNat * den, num)
  let low := (4 * b.significand - if b.closeBelow then 1 else 2) * scale
  let high := (4 * b.significand + 2) * scale
  -- The ends of the interval round to an even significand.
  if b.significand % 2 = 0 then low ≤ left && left ≤ high else low < left && left < high

/-- The multiple of `10 ^ e` below the number and twice the remainder, over a divisor. -/
def below (b : Binary) (e : Int) : Nat × Nat × Nat :=
  let (num, den) := b.quarter
  let value := 4 * b.significand * num
  let (value, unit) := if e < 0 then (value * Nat.pow 10 (-e).toNat, den) else (value, den * Nat.pow 10 e.toNat)
  (value / unit, 2 * (value % unit), unit)

/-- The nearest decimal on a grid that rounds to the number, if one does. -/
def onGrid? (b : Binary) (e : Int) : Option Nat :=
  let (n, twice, unit) := b.below e
  -- The nearer neighbour comes first, and of two equally near ones the even one.
  let preferUp := unit < twice || (unit = twice && n % 2 = 1)
  let (first, second) := if preferUp then (n + 1, n) else (n, n + 1)
  if 0 < first && b.isMeant first e then some first
  else if 0 < second && b.isMeant second e then some second
  else none

/-- The first decimal found on `count` grids from `10 ^ e` on, each ten times finer. -/
def search (b : Binary) : Nat → Int → Option (Nat × Int)
  | 0, _ => none
  | count + 1, e =>
    match b.onGrid? e with
    | some n => some (n, e)
    | none => search b count (e - 1)

/-- The coarsest grid that can hold a decimal of the number. -/
def coarsest : Int := 309

/-- How many grids there are from the coarsest to the finest one needed. -/
def grids : Nat := 700

/-- The shortest decimal: an integer and the power of ten that it is multiplied by. -/
def shortest (b : Binary) : Nat × Int := (b.search grids coarsest).getD (0, 0)

end Binary

/-- How a decimal `n · 10 ^ e` is written: with a point where that needs at most sixteen digits before it or
four zeros after it, and otherwise with an exponent. -/
def written (n : Nat) (e : Int) : String :=
  let ds := digits n
  let point : Int := ds.length + e
  String.ofList <|
    -- `point` is the place of the decimal point, counted from the first digit.
    if 0 ≤ e && point ≤ 16 then ds ++ List.replicate e.toNat '0' ++ ['.', '0']
    else if 0 < point && point ≤ 16 then ds.take point.toNat ++ '.' :: ds.drop point.toNat
    else if -5 < point && point ≤ 0 then '0' :: '.' :: List.replicate (-point).toNat '0' ++ ds
    else
      let power := (toString (point - 1)).toList
      match ds with
      | [d] => d :: 'e' :: power
      | d :: ds => d :: '.' :: ds ++ 'e' :: power
      | [] => []

/-- A floating-point number as text, if it is finite. -/
def realText? (x : Float) : Option String :=
  let sign := if x.toBits.toNat < Nat.pow 2 63 then "" else "-"
  if x.isNaN || x.isInf then none
  else match Binary.ofFloat? x with
    | some b => some (sign ++ written b.shortest.1 b.shortest.2)
    | none => some (sign ++ "0.0")

end HttpService.Decimal
