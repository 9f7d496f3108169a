import HttpService.Address
import HttpService.Octets

/-!
# Reading addresses

An address is read from the front, piece by piece. Bytes have at most three digits and no leading zeros, groups
at most four hexadecimal digits. Two colons stand for one or more zero groups, and the last two groups may be
written as four bytes.
-/

namespace HttpService.Address.Reading

/-- A reader of the front of a text. -/
abbrev Reads := StateT (List Char) Option

/-- A run of at most `most` digits of a base whose value is below a bound. -/
def number (base bound : Nat) (most : Option Nat) (zeroLed : Bool) : Reads Nat := fun cs =>
  let value? (c : Char) : Option Nat :=
    if c.toNat < 128 then (Octet.hexValue? (octet c)).filter (· < base) else none
  let ds := cs.takeWhile fun c => (value? c).isSome
  let n := ds.foldl (fun n c => n * base + (value? c).getD 0) 0
  if ds.isEmpty || most.any (· < ds.length) || bound ≤ n ||
      (!zeroLed && 1 < ds.length && ds.head? == some '0') then none
  else some (n, cs.drop ds.length)

/-- A given character. -/
def mark (c : Char) : Reads Unit
  | [] => none
  | d :: cs => if c = d then some ((), cs) else none

/-- A byte of a dotted number. -/
def byte : Reads UInt8 := UInt8.ofNat <$> number 10 256 (some 3) false

/-- Four bytes with dots between them. -/
def dotted : Reads (UInt8 × UInt8 × UInt8 × UInt8) := do
  let a ← byte
  mark '.'
  let b ← byte
  mark '.'
  let c ← byte
  mark '.'
  let d ← byte
  return (a, b, c, d)

/-- The group that two bytes make. -/
def joined (high low : UInt8) : UInt16 := UInt16.ofNat (high.toNat * 256 + low.toNat)

/-- The colon before a group, unless it is the first. -/
def colon (first : Bool) : Reads Unit := if first then return () else mark ':'

/-- At most `room` groups, as far as they go, and whether they end in four bytes. -/
def groups (first : Bool) : Nat → Reads (List UInt16 × Bool)
  | 0 => return ([], false)
  | room + 1 => do
    -- Four bytes take the room of two groups, so they are tried where there is that much.
    match ← optional (if 0 < room then colon first *> dotted else failure) with
    | some (a, b, c, d) => return ([joined a b, joined c d], true)
    | none =>
      match ← optional (colon first *> number 16 65536 (some 4) true) with
      | some g =>
        let (more, bytes) ← groups false room
        return (UInt16.ofNat g :: more, bytes)
      | none => return ([], false)

/-- The groups with zeros in the place of those left out. -/
def filled (front back : List UInt16) : List UInt16 :=
  front ++ List.replicate (8 - front.length - back.length) 0 ++ back

/-- Eight groups, some of which may be left out. -/
def eight : Reads (Vector UInt16 8) := do
  let (front, bytes) ← groups true 8
  let all ←
    if front.length = 8 then pure front
    else if bytes then failure
    else do
      mark ':'
      mark ':'
      -- The two colons stand for at least one group.
      let (back, _) ← groups true (7 - front.length)
      pure (filled front back)
  if h : all.length = 8 then return ⟨all.toArray, h⟩ else failure

/-- The port after a colon. -/
def ending : Reads UInt16 := do
  mark ':'
  return UInt16.ofNat (← number 10 65536 none true)

/-- The zone after a percent sign; zero if there is none. -/
def zoned : Reads UInt32 := do
  let zone ← optional (mark '%' *> number 10 (Nat.pow 2 32) none true)
  return UInt32.ofNat (zone.getD 0)

/-- An address with a number of four bytes. -/
def fourAddress : Reads Address := do
  let (a, b, c, d) ← dotted
  return ⟨.four a b c d, ← ending, 0⟩

/-- An address with a number of eight groups. -/
def eightAddress : Reads Address := do
  mark '['
  let groups ← eight
  let zone ← zoned
  mark ']'
  return ⟨.eight groups, ← ending, zone⟩

/-- What a reader makes of a whole text. -/
def whole? {α : Type} (r : Reads α) (s : String) : Option α :=
  match r s.toList with
  | some (a, []) => some a
  | _ => none

/-- The number of a machine. -/
def machine : Reads IpAddress := (do return .eight (← eight)) <|> do
  let (a, b, c, d) ← dotted
  return .four a b c d

end Reading

/-- The address that a text spells. -/
def read? (s : String) : Option Address := Reading.whole? (Reading.fourAddress <|> Reading.eightAddress) s

end HttpService.Address

/-- The number of a machine that a text spells. -/
def HttpService.IpAddress.read? (s : String) : Option HttpService.IpAddress :=
  HttpService.Address.Reading.whole? HttpService.Address.Reading.machine s
