import HttpService.Yaml.Source
import HttpService.Yaml.Token.Basic

/-!
# Tags and directives in a document

A tag is a handle and a suffix, or a whole name between angle brackets; in either, octets may be spelled by
their hexadecimal digits after a percent sign. A directive stands on a line of its own before a document.
-/

namespace HttpService.Yaml

/-- The text of some characters. -/
def cellText (cs : List Cell) : String := String.ofList (cs.map (·.char))

/-- The text that is a name in front, and what follows it. -/
def splitWord (cs : List Cell) : List Cell × List Cell :=
  (cs.takeWhile fun c => isWord c.char, cs.dropWhile fun c => isWord c.char)

/-! ## Tags -/

/-- What the suffix of a tag is made of; a whole name may also have commas and brackets. -/
def isTagChar (whole : Bool) (c : Char) : Bool :=
  isWord c ||
    [';', '/', '?', ':', '@', '&', '=', '+', '$', '.', '%', '!', '~', '*', Char.ofNat 39, '(', ')'].contains c ||
    (whole && (c == ',' || c == '[' || c == ']'))

/-- How many octets follow the first one of a character, if it may be the first one. -/
def followers? (b : UInt8) : Option Nat :=
  if b < 0x80 then some 0
  else if b &&& 0xE0 == 0xC0 then some 1
  else if b &&& 0xF0 == 0xE0 then some 2
  else if b &&& 0xF8 == 0xF0 then some 3
  else none

/-- The value of a hexadecimal digit. -/
def hexOctet? (c : Char) : Option UInt8 := Octet.hexValue? (octet c) |>.map UInt8.ofNat

/-- The octets that a suffix spells, where `due` more octets of the last character have to be spelled by digits. -/
def suffixOctets? (due : Nat) : List Char → Option Octets
  | [] => if due = 0 then some [] else none
  | '%' :: a :: b :: cs => do
    let o := (← hexOctet? a) * 16 + (← hexOctet? b)
    if due = 0 then
      let due ← followers? o
      return o :: (← suffixOctets? due cs)
    else if o &&& 0xC0 == 0x80 then return o :: (← suffixOctets? (due - 1) cs)
    else none
  | '%' :: _ => none
  | c :: cs => if due = 0 then (suffixOctets? 0 cs).map (octet c :: ·) else none

/-- The octets of a suffix in front, which may be empty only after a part of it that was read before. -/
def suffix? (whole : Bool) (before : List Cell) (cs : List Cell) : Option (Octets × List Cell) :=
  let read := before.drop 1 ++ cs.takeWhile fun c => isTagChar whole c.char
  if before.isEmpty && read.isEmpty then none
  else (suffixOctets? 0 (read.map (·.char))).map fun bs => (bs, cs.dropWhile fun c => isTagChar whole c.char)

/-- The handle in front: an exclamation mark, a name and perhaps another mark. -/
def handle? (cs : List Cell) : Option (List Cell × List Cell) :=
  match cs with
  | [] => none
  | m :: rest =>
    if m.char != '!' then none
    else
      let (word, after) := splitWord rest
      if startsWith '!' after then some (m :: word ++ after.take 1, after.drop 1) else some (m :: word, after)

/-- Whether a handle ends in a mark of its own. -/
def isNamedHandle (handle : List Cell) : Bool := 1 < handle.length && handle.getLast?.any (·.char == '!')

/-- A tag in front. -/
def tag? (flow : Bool) (cs : List Cell) : Option (Token × List Cell) := do
  let (handle, suffix, rest) ←
    if startsWith '<' (cs.drop 1) then do
      let (suffix, rest) ← suffix? true [] (cs.drop 2)
      if startsWith '>' rest then pure ("", suffix, rest.drop 1) else none
    else do
      let (handle, rest) ← handle? cs
      if isNamedHandle handle then
        let (suffix, rest) ← suffix? false [] rest
        pure (cellText handle, suffix, rest)
      else
        let (suffix, rest) ← suffix? false handle rest
        if suffix.isEmpty then pure ("", octets "!", rest) else pure ("!", suffix, rest)
  if (flow && startsWith ',' rest) || endsWord rest then return (.tag handle suffix, rest) else none

/-! ## Directives -/

/-- A number of up to nine digits. -/
def shortNumber? (cs : List Cell) : Option (Nat × List Cell) :=
  let ds := cs.takeWhile fun c => c.char.isDigit
  if ds.isEmpty || 9 < ds.length then none
  else some (ds.foldl (fun n c => n * 10 + (c.char.toNat - 48)) 0, cs.drop ds.length)

/-- The version that a directive declares. -/
def version? (cs : List Cell) : Option (Token × List Cell) := do
  let (major, cs) ← shortNumber? (skipBlanks cs)
  if !startsWith '.' cs then none
  let (minor, cs) ← shortNumber? (cs.drop 1)
  return (.version major minor, cs)

/-- The handle that a directive declares, with what it stands for. -/
def tagDirective? (cs : List Cell) : Option (Token × List Cell) := do
  let (handle, cs) ← handle? (skipBlanks cs)
  if !isNamedHandle handle && 1 < handle.length then none
  if !cs.head?.any fun c => isBlank c.char then none
  let (expansion, cs) ← suffix? true [] (skipBlanks cs)
  if !endsWord cs then none
  return (.tagDirective (cellText handle) expansion, cs)

/-- A directive in front, with the rest of its line. -/
def directive? (cs : List Cell) : Option (Token × List Cell) := do
  let (name, cs) := splitWord (cs.drop 1)
  if !endsWord cs then none
  let (token, cs) ←
    if cellText name = "YAML" then version? cs
    else if cellText name = "TAG" then tagDirective? cs
    else none
  return (token, ← restOfLine? cs)

end HttpService.Yaml
