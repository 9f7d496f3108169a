import HttpService.Octets

/-!
# Octets as text, mended

A peer may send octets that are no text where text is wanted. They are read all the same: every longest piece
that begins a character and does not complete it is replaced by one replacement character, and so is every
octet that begins none. Octets that are text are read as that text (`mended_octets`).
-/

namespace HttpService.Octets

/-- The character that stands for what is no text. -/
def replacement : Char := Char.ofNat 0xFFFD

/-- How many octets follow one that begins a longer character, and the range of the first of them. -/
def following? (b : UInt8) : Option (Nat × UInt8 × UInt8) :=
  if 0xC2 ≤ b && b ≤ 0xDF then some (1, 0x80, 0xBF)
  else if b == 0xE0 then some (2, 0xA0, 0xBF)
  else if b == 0xED then some (2, 0x80, 0x9F)
  else if 0xE1 ≤ b && b ≤ 0xEF then some (2, 0x80, 0xBF)
  else if b == 0xF0 then some (3, 0x90, 0xBF)
  else if b == 0xF4 then some (3, 0x80, 0x8F)
  else if 0xF1 ≤ b && b ≤ 0xF3 then some (3, 0x80, 0xBF)
  else none

/-- The first of the octets that can follow, at most `count` of them; the first is in a range of its own. -/
def continuing (count : Nat) (low high : UInt8) : Octets → Octets
  | [] => []
  | b :: bs =>
    match count with
    | 0 => []
    | count + 1 => if low ≤ b && b ≤ high then b :: continuing count 0x80 0xBF bs else []

/-- The characters of some octets, the first `skip` of which belong to a character already read. -/
def mendedFrom (skip : Nat) : Octets → List Char
  | [] => []
  | b :: bs =>
    match skip with
    | skip + 1 => mendedFrom skip bs
    | 0 =>
      if b < 0x80 then Char.ofNat b.toNat :: mendedFrom 0 bs
      else match following? b with
        | none => replacement :: mendedFrom 0 bs
        | some (count, low, high) =>
          -- If the piece is no whole character all of it is replaced at once.
          let more := continuing count low high bs
          let character := (text? (b :: more)).bind fun s => s.toList.head?
          character.getD replacement :: mendedFrom more.length bs

/-- The text of some octets, with replacement characters for what is no text. -/
def mended (bs : Octets) : String := bs.text?.getD (String.ofList (mendedFrom 0 bs))

/-- Text needs no mending. -/
theorem mended_octets (s : String) : mended (octets s) = s := by simp [mended, text?_octets]

end HttpService.Octets
