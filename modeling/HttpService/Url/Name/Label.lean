import HttpService.Text.Composed
import HttpService.Text.Direction
import HttpService.Text.Joining
import HttpService.Text.Mark
import HttpService.Url.Name.Encoded
import HttpService.Url.Name.Folded

/-!
# Labels of names

What stands between the dots of a name. A label that starts with `xn--` is encoded and stands for another one
(`read?`), which has to be in the spelling that every label is brought to. In a label

* no mark comes first,
* characters that join or part the letters around them stand only where that shows (`joinersFit`),
* and if any label of the name is written from the right, each is clear about its direction (`isDirected`).
-/

namespace HttpService.Url.Name

open Text

/-- The most characters of an encoded label, behind its mark. -/
def maxEncoded : Nat := 2000

/-- The most characters of a label that is not ASCII. -/
def maxDecoded : Nat := 1000

/-- Whether a character is ASCII. -/
def isAscii (c : Char) : Bool := c.toNat < 0x80

/-- What a label stands for: an encoded label for what it decodes to, any other for itself. -/
def read? (label : List Char) : Option (List Char) :=
  match label with
  | 'x' :: 'n' :: '-' :: '-' :: tail =>
    if tail.isEmpty || tail.getLast? == some '-' || maxEncoded < tail.length || !tail.all isAscii then none
    else do
      let decoded ← Encoded.decode? tail
      -- What is decoded has to be folded and composed already.
      if decoded.all isPlain && composed decoded == decoded then return decoded else none
  | _ => some label

/-! ## Joiners -/

/-- The character that joins the letters around it. -/
def joiner : Char := '\u200D'

/-- The character that parts the letters around it. -/
def nonJoiner : Char := '\u200C'

/-- Whether joiners stand only behind a mark that silences a vowel, or, to part letters, between letters that
would join. `before` is what comes before, backwards. -/
def joinersFit (before : List Char) : List Char → Bool
  | [] => true
  | c :: cs =>
    ((c != joiner && c != nonJoiner) || before.head?.any isVirama ||
      (c == nonJoiner && reachesJoining Joining.joinsAfter before && reachesJoining Joining.joinsBefore cs)) &&
    joinersFit (c :: before) cs

/-! ## Directions -/

/-- Whether a name with this character is written from the right somewhere. -/
def isFromRight (c : Char) : Bool := direction c == .fromRight || direction c == .rightDigit

/-- What may stand in a label that is written from the left. -/
def fitsLeft (d : Direction) : Bool := d == .fromLeft || d == .digit || d == .neutral || d == .mark

/-- What may stand in a label that is written from the right. -/
def fitsRight (d : Direction) : Bool :=
  d == .fromRight || d == .rightDigit || d == .digit || d == .neutral || d == .mark

/-- Whether a label is clear about its direction: it starts with a letter, holds what fits this letter, and ends,
but for marks, in a letter or a digit. A label from the right has digits of one kind only. -/
def isDirected (label : List Char) : Bool :=
  match label.map direction with
  | [] => true
  | first :: rest =>
    let rest := (rest.reverse.dropWhile (· == .mark)).reverse
    let last := rest.getLast?
    match first with
    | .fromLeft => rest.all fitsLeft && last.all fun d => d == .fromLeft || d == .digit
    | .fromRight =>
      rest.all fitsRight && (last.all fun d => d == .fromRight || d == .digit || d == .rightDigit) &&
        !(rest.contains .digit && rest.contains .rightDigit)
    | _ => false

/-- Whether a label may stand in a name, its direction apart. -/
def isWellFormed (label : List Char) : Bool :=
  !label.head?.any isMark && joinersFit [] label && (label.all isAscii || label.length ≤ maxDecoded)

end HttpService.Url.Name
