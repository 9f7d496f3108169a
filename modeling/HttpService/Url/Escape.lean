import HttpService.Octets

/-!
# Percent escapes

An octet may be written as a percent sign and two hexadecimal digits. `unescape` reads the escapes of a list
of octets and leaves a percent sign alone that starts none; `escapeChar` writes a character as its octets.
-/

namespace HttpService.Escape

/-- A digit of an escape as it is written. -/
def hexDigit (n : Nat) : Char :=
  if n < 10 then Char.ofNat (48 + n) else Char.ofNat (55 + n)

/-- The escape of an octet. -/
def escapeOctet (b : UInt8) : List Char := ['%', hexDigit (b.toNat / 16), hexDigit (b.toNat % 16)]

/-- The escapes of a character's octets. -/
def escapeChar (c : Char) : List Char := (octets (String.singleton c)).flatMap escapeOctet

/-- The octet that a pair of hexadecimal digits stands for. -/
def octet? (a b : UInt8) : Option UInt8 := do
  let high ← Octet.hexValue? a
  let low ← Octet.hexValue? b
  return UInt8.ofNat (high * 16 + low)

/-- The octets with every escape read; `skip` octets in front belong to an escape already read. -/
def unescapeFrom (skip : Nat) : Octets → Octets
  | [] => []
  | b :: bs =>
    match skip with
    | skip + 1 => unescapeFrom skip bs
    | 0 =>
      if b == 37 then
        match bs with
        | h :: l :: _ =>
          match octet? h l with
          | some o => o :: unescapeFrom 2 bs
          | none => b :: unescapeFrom 0 bs
        | _ => b :: unescapeFrom 0 bs
      else b :: unescapeFrom 0 bs

/-- The octets with every escape read. -/
def unescape (bs : Octets) : Octets := unescapeFrom 0 bs

end HttpService.Escape
