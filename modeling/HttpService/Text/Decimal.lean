/-!
# Unsigned decimals

How a count is written and read. It is written with the fewest digits. It is read with an optional plus
sign, any number of leading zeros and nothing else, and only if it fits the width of the field it is for.
-/

namespace HttpService.Decimal

/-- The fewest decimal digits of a number. -/
def digits (n : Nat) : List Char := Nat.toDigits 10 n

/-- A number as text. -/
def text (n : Nat) : String := String.ofList (digits n)

/-- The value of a decimal digit. -/
def value? (c : Char) : Option Nat :=
  if '0' ≤ c && c ≤ '9' then some (c.toNat - 48) else none

/-- The number that a string of digits, led by those already read, denotes. -/
def readDigits? (led : Nat) : List Char → Option Nat
  | [] => some led
  | c :: cs => (value? c).bind fun d => readDigits? (led * 10 + d) cs

/-- The number that a non-empty string of digits denotes; one plus sign may stand before it. -/
def read? : List Char → Option Nat
  | [] => none
  | '+' :: cs => if cs.isEmpty then none else readDigits? 0 cs
  | cs => readDigits? 0 cs

/-- The number read, if it is below `bound`. -/
def readBelow? (bound : Nat) (s : String) : Option Nat :=
  (read? s.toList).filter (· < bound)

/-- One more than the largest number of 32 bits. -/
def bound32 : Nat := Nat.pow 2 32

/-- One more than the largest number of 64 bits. -/
def bound64 : Nat := Nat.pow 2 64

end HttpService.Decimal
