/-!
# The characters of a document

A document is read as its characters, each with the line and the column at which it stands. All ways to end a
line but the two separators of Unicode are one character here. Control characters and the like make a text no
document.
-/

namespace HttpService.Yaml

/-- A place in a document, counted from zero. -/
structure Mark where
  line : Nat
  /-- How many characters of the line stand before it. -/
  column : Nat
  /-- How many octets these characters take. -/
  octets : Nat
deriving DecidableEq, Repr

/-- A character at its place. -/
structure Cell where
  char : Char
  mark : Mark
deriving DecidableEq, Repr

/-- What may stand in a document at all. -/
def isAllowed (c : Char) : Bool :=
  let n := c.toNat
  n == 0x9 || n == 0xA || n == 0xD || (0x20 ≤ n && n ≤ 0x7E) || n == 0x85 || (0xA0 ≤ n && n ≤ 0xFFFD) ||
    0x10000 ≤ n

/-- The end of a line. -/
def isBreak (c : Char) : Bool := c == '\n' || c.toNat == 0x2028 || c.toNat == 0x2029

/-- A blank inside a line. -/
def isBlank (c : Char) : Bool := c == ' ' || c == '\t'

/-- A byte-order mark at the start of a line, where it counts as a blank. -/
def isOrderMark (c : Cell) : Bool := c.mark.column == 0 && c.char == '\uFEFF'

/-- What a name is made of. -/
def isWord (c : Char) : Bool := c.isAlphanum || c == '_' || c == '-'

/-- The text with one character for each end of a line. -/
def unifyBreaks : List Char → List Char
  | [] => []
  | '\r' :: '\n' :: cs => '\n' :: unifyBreaks cs
  | c :: cs => (if c == '\r' || c.toNat == 0x85 then '\n' else c) :: unifyBreaks cs

/-- The place behind a character. -/
def Mark.next (mark : Mark) (c : Char) : Mark :=
  if isBreak c then ⟨mark.line + 1, 0, 0⟩ else ⟨mark.line, mark.column + 1, mark.octets + c.utf8Size⟩

/-- The characters with their places, the first one at `mark`. -/
def place (mark : Mark) : List Char → List Cell
  | [] => []
  | c :: cs => ⟨c, mark⟩ :: place (mark.next c) cs

/-- The characters of a document, if the text may be one. -/
def source? (s : String) : Option (List Cell) :=
  let cs := s.toList
  if cs.all isAllowed then some (place ⟨0, 0, 0⟩ (unifyBreaks cs)) else none

/-- Whether a word ends here: at a blank, at the end of a line or of the document. -/
def endsWord : List Cell → Bool
  | [] => true
  | c :: _ => isBlank c.char || isBreak c.char

/-- Whether a line ends here. -/
def endsLine : List Cell → Bool
  | [] => true
  | c :: _ => isBreak c.char

/-- Whether the text goes on with this character. -/
def startsWith (ch : Char) : List Cell → Bool
  | [] => false
  | c :: _ => c.char == ch

/-- Whether a line begins here that starts with three of this character and nothing behind them. -/
def isMarker (ch : Char) : List Cell → Bool
  | a :: b :: c :: cs =>
    -- Three dots inside a word, or three dashes further right, are text.
    a.mark.column == 0 && a.char == ch && b.char == ch && c.char == ch && endsWord cs
  | _ => false

/-- Whether a document begins or ends here. -/
def isDocumentMarker (cs : List Cell) : Bool := isMarker '-' cs || isMarker '.' cs

/-- The text from the next character that is no blank. -/
def skipBlanks (cs : List Cell) : List Cell := cs.dropWhile fun c => isBlank c.char

/-- The text from the end of the line, if only blanks and a comment stand before it. -/
def restOfLine? (cs : List Cell) : Option (List Cell) :=
  let cs := skipBlanks cs
  let cs := if startsWith '#' cs then cs.dropWhile fun c => !isBreak c.char else cs
  if endsLine cs then some (cs.drop 1) else none

end HttpService.Yaml
