/-!
# Octets and text

What travels on a connection is a list of octets; what programs read is text. This module joins the two.

* `octets` is the UTF-8 form of a text, and `Octets.text?` reads it back. `text?_octets` and
  `octets_of_text?` together say that a list of octets is read as at most one text, and as that text only
  if it is the text's own form.
* `Octets.latin` reads every octet as the character of the same number, for texts known to be ASCII.
* The octet classes (`isDigit`, `isToken`, …) are those of HTTP: a token is what names a method or a field.
-/

namespace HttpService

/-- A string of octets. -/
abbrev Octets := List UInt8

/-- The UTF-8 form of a text. -/
def octets (s : String) : Octets := s.toByteArray.data.toList

/-- The octet of an ASCII character. -/
def octet (c : Char) : UInt8 := c.val.toUInt8

/-- The text whose UTF-8 form these octets are, if they are the form of any. -/
def Octets.text? (bs : Octets) : Option String := String.fromUTF8? bs.toByteArray

/-- The text with one character per octet, each of the octet's own number. -/
def Octets.latin (bs : Octets) : String :=
  String.ofList (bs.map fun b => Char.ofNat b.toNat)

/-- The octets of a text whose characters all have numbers below 256, one for each. -/
def Octets.ofLatin? (s : String) : Option Octets :=
  s.toList.mapM fun c => if c.toNat < 256 then some c.val.toUInt8 else none

theorem toByteArray_octets (s : String) : (octets s).toByteArray = s.toByteArray := by
  apply ByteArray.ext
  simp [octets]

/-- Every text is read back from its octets. -/
theorem text?_octets (s : String) : Octets.text? (octets s) = some s := by
  unfold Octets.text?
  rw [toByteArray_octets, String.fromUTF8?, dif_pos s.isValidUTF8]
  rfl

/-- Text is told from its octets. -/
theorem octets_inj {s t : String} : octets s = octets t ↔ s = t := by
  constructor
  · intro h
    have htext := text?_octets s
    rw [h, text?_octets] at htext
    exact (Option.some.inj htext).symm
  · intro h
    rw [h]

/-- Only the empty text has none. -/
theorem eq_empty_of_octets {s : String} (h : octets s = []) : s = "" := by
  have htext := text?_octets s
  rw [h] at htext
  exact (Option.some.inj htext).symm

/-- Octets that read as a text are the octets of that text. -/
theorem octets_of_text? {bs : Octets} {s : String} (h : bs.text? = some s) : octets s = bs := by
  unfold Octets.text? String.fromUTF8? at h
  split at h
  · obtain rfl := Option.some.inj h
    simp [octets, String.fromUTF8]
  · cases h

/-! ## Classes of octets -/

namespace Octet

/-- A decimal digit. -/
def isDigit (b : UInt8) : Bool := 48 ≤ b && b ≤ 57

/-- An ASCII capital. -/
def isUpper (b : UInt8) : Bool := 65 ≤ b && b ≤ 90

/-- An ASCII small letter. -/
def isLower (b : UInt8) : Bool := 97 ≤ b && b ≤ 122

/-- An ASCII letter. -/
def isLetter (b : UInt8) : Bool := isUpper b || isLower b

/-- What a token is made of: letters, digits and fifteen marks. -/
def isToken (b : UInt8) : Bool :=
  isLetter b || isDigit b ||
    [octet '!', octet '#', octet '$', octet '%', octet '&', 39, octet '*', octet '+', octet '-',
      octet '.', octet '^', octet '_', 96, octet '|', octet '~'].contains b

/-- A blank inside a line: space or tab. -/
def isBlank (b : UInt8) : Bool := b == 32 || b == 9

/-- What may stand in a field's value: tab, and everything from the space on but DEL. -/
def isFieldText (b : UInt8) : Bool := b == 9 || (32 ≤ b && b != 127)

/-- What text may show of a field's value: tab and printable ASCII. -/
def isShown (b : UInt8) : Bool := b == 9 || (32 ≤ b && b < 127)

/-- The small letter of a capital; any other octet is itself. -/
def lower (b : UInt8) : UInt8 := if isUpper b then b + 32 else b

/-- The value of a hexadecimal digit. -/
def hexValue? (b : UInt8) : Option Nat :=
  if isDigit b then some (b.toNat - 48)
  else if 97 ≤ b && b ≤ 102 then some (b.toNat - 87)
  else if 65 ≤ b && b ≤ 70 then some (b.toNat - 55)
  else none

end Octet

/-- A token: one or more token octets. -/
def Octets.isToken (bs : Octets) : Bool := !bs.isEmpty && bs.all Octet.isToken

/-- The octets with their ASCII capitals made small. -/
def Octets.lower (bs : Octets) : Octets := bs.map Octet.lower

/-- Equal but for the case of ASCII letters. -/
def Octets.sameLetters (a b : Octets) : Bool := a.lower == b.lower

/-- Whether `word` stands somewhere inside `bs`. -/
def Octets.hasInfix (word : Octets) : Octets → Bool
  | [] => word.isEmpty
  | b :: bs => word.isPrefixOf (b :: bs) || hasInfix word bs

/-- The octets without the blanks at either end. -/
def Octets.trimBlanks (bs : Octets) : Octets :=
  (bs.dropWhile Octet.isBlank).reverse.dropWhile Octet.isBlank |>.reverse

end HttpService
