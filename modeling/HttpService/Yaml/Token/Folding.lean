import HttpService.Yaml.Source

/-!
# Folding of lines

A scalar that goes over several lines is one text: a single line end between two words becomes a space, of
several the first is dropped. `Folded` is a scalar that is being read, with the blanks and line ends since its
last word; they are joined to the text only when another word follows.
-/

namespace HttpService.Yaml

/-- A scalar that is being read; texts are kept backwards. -/
structure Folded where
  text : List Char
  /-- The blanks since the last word, if no line has ended since. -/
  blanks : List Char
  /-- Whether a line has ended since the last word. -/
  fresh : Bool
  /-- The line end after the last word. -/
  first : List Char
  /-- The line ends after that one. -/
  more : List Char
deriving DecidableEq, Repr

namespace Folded

/-- Nothing read. -/
def empty : Folded := ⟨[], [], false, [], []⟩

/-- A blank; at the start of a line it counts for nothing. -/
def blank (f : Folded) (c : Char) : Folded := if f.fresh then f else { f with blanks := c :: f.blanks }

/-- The end of a line. -/
def lineEnd (f : Folded) (c : Char) : Folded :=
  if f.fresh then { f with more := c :: f.more }
  else { f with blanks := [], fresh := true, first := [c] }

/-- The end of a line that is not part of the text. -/
def hiddenLineEnd (f : Folded) : Folded := { f with fresh := true }

/-- Whether there are blanks or line ends since the last word. -/
def pending (f : Folded) : Bool := f.fresh || !f.blanks.isEmpty

/-- The scalar with its blanks and line ends joined to the text. -/
def joined (f : Folded) : Folded :=
  let text :=
    if !f.fresh then f.blanks ++ f.text
    else if f.first == ['\n'] then (if f.more.isEmpty then ' ' :: f.text else f.more ++ f.text)
    else f.more ++ f.first ++ f.text
  ⟨text, [], false, [], []⟩

/-- One more character of a word. -/
def push (f : Folded) (c : Char) : Folded := { f.joined with text := c :: f.joined.text }

/-- The text up to the last word. -/
def result (f : Folded) : String := String.ofList f.text.reverse

end Folded

end HttpService.Yaml
