/-!
# Decimals as floating-point numbers

The floating-point number nearest to a decimal. Decimals beyond the range of these numbers have none.
-/

namespace HttpService.Decimal

/-- The value of a run of digits. -/
def digitsValue (ds : List Char) : Nat := ds.foldl (fun n c => n * 10 + (c.toNat - 48)) 0

/-- The digits of an exponent, after an optional sign, and what follows them. -/
def exponent? (cs : List Char) : Option (Int × List Char) :=
  let (negative, cs) := match cs with
    | '-' :: cs => (true, cs)
    | '+' :: cs => (false, cs)
    | cs => (false, cs)
  let ds := cs.takeWhile Char.isDigit
  if ds.isEmpty then none
  else
    let n := digitsValue ds
    some (if negative then -(n : Int) else n, cs.dropWhile Char.isDigit)

/-- The floating-point number nearest to `digits` times a power of ten, if it is in range. Exponents far beyond
the range are cut to its edge first. -/
def real? (negative : Bool) (digits : Nat) (exponent : Int) : Option Float :=
  let e := max (-100000) (min 100000 exponent)
  let x :=
    if digits = 0 then 0.0
    else if 400 < e then 1.0 / 0.0
    else Float.ofScientific digits (decide (e < 0)) e.natAbs
  if x.isInf then none else some (if negative then -x else x)

end HttpService.Decimal
