import HttpService.Text.Decimal
import HttpService.Text.Quoted

/-!
# Addresses of machines

Where a server listens and where a client connects: the number of a machine and a port. A number of four bytes
is written with dots. A number of eight groups is written with colons in hexadecimal digits, the first of its
longest runs of two or more zero groups left out; it stands in brackets where a port follows it.
-/

namespace HttpService

/-- The number of a machine. -/
inductive IpAddress where
  | four (a b c d : UInt8)
  | eight (groups : Vector UInt16 8)
deriving DecidableEq

/-- A machine and a port. Where the machine has a number of eight groups the zone that it is in counts as
well; zone zero is any. -/
structure Address where
  ip : IpAddress
  port : UInt16
  zone : UInt32 := 0
deriving DecidableEq

/-! ## Machines as text -/

namespace IpAddress

/-- Four bytes with dots between them. -/
def dotted (a b c d : Nat) : String := ".".intercalate ([a, b, c, d].map Decimal.text)

/-- A run of zero groups: where it starts and how long it is. -/
structure ZeroRun where
  start : Nat
  length : Nat
deriving DecidableEq, Repr

/-- The longest run of zero groups, the first of several. `current` is the run that reaches up to `place`. -/
def longestZeros (best current : ZeroRun) (place : Nat) : List UInt16 → ZeroRun
  | [] => best
  | g :: gs =>
    if g = 0 then
      let current : ZeroRun := ⟨if current.length = 0 then place else current.start, current.length + 1⟩
      longestZeros (if best.length < current.length then current else best) current (place + 1) gs
    else longestZeros best ⟨0, 0⟩ (place + 1) gs

/-- Groups with colons between them. -/
def groupsText (gs : List UInt16) : String :=
  ":".intercalate (gs.map fun g => String.ofList (Text.hex g.toNat))

/-- Eight groups. A number that stands for one of four bytes shows those. -/
def groupedText (gs : List UInt16) : String :=
  match gs with
  | [0, 0, 0, 0, 0, 0xFFFF, high, low] =>
    "::ffff:" ++ dotted (high.toNat / 256) (high.toNat % 256) (low.toNat / 256) (low.toNat % 256)
  | _ =>
    let zeros := longestZeros ⟨0, 0⟩ ⟨0, 0⟩ 0 gs
    -- A single zero group is written like any other.
    if 1 < zeros.length then
      groupsText (gs.take zeros.start) ++ "::" ++ groupsText (gs.drop (zeros.start + zeros.length))
    else groupsText gs

/-- The number of a machine as text. -/
def text : IpAddress → String
  | four a b c d => dotted a.toNat b.toNat c.toNat d.toNat
  | eight groups => groupedText groups.toList

end IpAddress

/-! ## Addresses as text -/

/-- The address as text. -/
def Address.text (a : Address) : String :=
  match a.ip with
  | .four .. => a.ip.text ++ ":" ++ Decimal.text a.port.toNat
  | .eight _ =>
    let zone := if a.zone = 0 then "" else "%" ++ Decimal.text a.zone.toNat
    "[" ++ a.ip.text ++ zone ++ "]:" ++ Decimal.text a.port.toNat

end HttpService
