import HttpService.Json.Value
import HttpService.Text.Decimal
import HttpService.Text.Real

/-!
# What plain scalars mean

A plain scalar is a null, a truth value, a number or, if it is none of these, a text. Whole numbers may be
written in base 2, 8 and 16 behind `0b`, `0o` and `0x`; one written with a superfluous zero in front is a text.
-/

namespace HttpService.Yaml.Plain

/-- The value of a digit in a base up to 16. -/
def digitValue? (base : Nat) (c : Char) : Option Nat :=
  let v :=
    if c.isDigit then some (c.toNat - 48)
    else if 'a' ≤ c && c ≤ 'f' then some (c.toNat - 87)
    else if 'A' ≤ c && c ≤ 'F' then some (c.toNat - 55)
    else none
  v.filter (· < base)

/-- The number that one or more digits spell. -/
def natural? (base : Nat) (cs : List Char) : Option Nat :=
  if cs.isEmpty then none
  else cs.foldlM (fun n c => (digitValue? base c).map fun d => n * base + d) 0

/-- The base that a number announces in front. -/
def base? : List Char → Option (Nat × List Char)
  | '0' :: 'x' :: cs => some (16, cs)
  | '0' :: 'o' :: cs => some (8, cs)
  | '0' :: 'b' :: cs => some (2, cs)
  | _ => none

/-- Whether these are digits with a superfluous zero in front. -/
def hasSpareZero (cs : List Char) : Bool :=
  cs.head? == some '0' && 1 < cs.length && cs.all Char.isDigit

/-- The number that digits spell, in the base that they announce or else in base 10, if it is below a bound. -/
def magnitude? (bound : Nat) (cs : List Char) : Option Nat :=
  let announced := (base? cs).bind fun b => (natural? b.1 b.2).filter (· < bound)
  -- The announcement of a base holds a letter, so what fails here is no number in base 10 either.
  announced <|> if hasSpareZero cs then none else (natural? 10 cs).filter (· < bound)

/-- The number without a minus sign that a scalar spells, if it is below a bound. -/
def unsigned? (bound : Nat) : List Char → Option Nat
  | '+' :: cs => magnitude? bound cs
  | cs => magnitude? bound cs

/-- The whole number that a scalar spells, if it is below a bound, or not below it with a minus sign. -/
def integer? (unsignedBound signedBound : Nat) (cs : List Char) : Option Int :=
  match cs with
  | '-' :: ds => (magnitude? (signedBound + 1) ds).map fun n => -(n : Int)
  | _ => (unsigned? unsignedBound cs).map Int.ofNat

/-- What a number that is no whole number means. -/
inductive Real where
  | finite (x : Float)
  | infinite
  | undefined

/-- The number that a decimal with a point or an exponent spells, if it is in range. -/
def decimal? (cs : List Char) : Option Float := do
  let (negative, cs) := match cs with
    | '-' :: cs => (true, cs)
    | '+' :: cs => (false, cs)
    | cs => (false, cs)
  let whole := cs.takeWhile Char.isDigit
  let (places, cs) := match cs.dropWhile Char.isDigit with
    | '.' :: cs => (cs.takeWhile Char.isDigit, cs.dropWhile Char.isDigit)
    | cs => ([], cs)
  if whole.isEmpty && places.isEmpty then none
  let power ← match cs with
    | [] => some 0
    | 'e' :: cs | 'E' :: cs => do
      let (power, rest) ← Decimal.exponent? cs
      if rest.isEmpty then some power else none
    | _ => none
  Decimal.real? negative (Decimal.digitsValue (whole ++ places)) (power - places.length)

/-- The number that a scalar spells with a point, an exponent or a name. -/
def real? (cs : List Char) : Option Real :=
  let plain := match cs with
    | '+' :: cs => cs
    | cs => cs
  let text := String.ofList cs
  if [".inf", ".Inf", ".INF"].contains (String.ofList plain) then some .infinite
  else if ["-.inf", "-.Inf", "-.INF"].contains text then some .infinite
  else if [".nan", ".NaN", ".NAN"].contains text then some .undefined
  else if plain.length < cs.length && (plain.head? == some '+' || plain.head? == some '-') then none
  else (decimal? plain).map .finite

/-- The truth value that a scalar spells. -/
def bool? (s : String) : Option Bool :=
  if ["true", "True", "TRUE"].contains s then some true
  else if ["false", "False", "FALSE"].contains s then some false
  else none

/-- Whether a scalar spells a null. -/
def isNull (s : String) : Bool := ["null", "Null", "NULL", "~"].contains s

/-- The whole number that a scalar spells, as a value. A number of 65 to 128 bits has no value. -/
def integerValue? (s : String) : Option (Option JsonValue) :=
  match integer? (Nat.pow 2 64) (Nat.pow 2 63) s.toList with
  | some n => some (some (.number (.int n)))
  | none => (integer? (Nat.pow 2 128) (Nat.pow 2 127) s.toList).map fun _ => none

/-- A number as a value. What is not finite becomes null. -/
def Real.value : Real → JsonValue
  | .finite x => .number (.real x)
  | _ => .null

/-- The value of a plain scalar. -/
def value? (s : String) : Option JsonValue :=
  if s = "" || isNull s then some .null
  else
    match bool? s with
    | some b => some (.bool b)
    | none =>
      match integerValue? s with
      | some v => v
      | none =>
        let unsigned := match s.toList with
          | '+' :: cs | '-' :: cs => cs
          | cs => cs
        let real := if hasSpareZero unsigned then none else real? s.toList
        some (real.elim (.string s) Real.value)

end HttpService.Yaml.Plain
