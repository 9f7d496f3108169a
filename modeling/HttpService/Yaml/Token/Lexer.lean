import HttpService.Yaml.Token.Scalar
import HttpService.Yaml.Token.Tag

/-!
# From characters to tokens

The tokens of a document. Two things make this more than cutting a text into words.

* Indentation says where block collections start and end. `floors` holds, for every open block collection, the
  first column that is deeper than it; a token further left closes it (`Lexer.closeTo`).
* Only the colon behind a text tells that the text was a key. Whatever may turn out to be a key is remembered as
  a `Candidate`, one for each flow collection around; when the colon comes, the tokens that announce the key are
  put in front of it (`Lexer.insert`). A candidate lapses at the end of its line or after 1024 octets, and a
  candidate that has to be a key must not lapse.
-/

namespace HttpService.Yaml

/-- What may turn out to be a key. -/
structure Candidate where
  /-- How many tokens stand before it. -/
  after : Nat
  mark : Mark
  /-- Whether nothing else may stand here. -/
  required : Bool
deriving DecidableEq, Repr

/-- The most octets from the start of a key to its colon. -/
def keyReach : Nat := 1024

/-- A document that is being cut into tokens. -/
structure Lexer where
  rest : List Cell
  /-- The tokens so far, the last one first. -/
  tokens : List Token
  /-- How many tokens there are. -/
  count : Nat
  /-- For each open block collection, innermost first, the first column that is deeper. -/
  floors : List Nat
  /-- Whether a key may start here. -/
  keyAllowed : Bool
  key : Option Candidate
  /-- The candidates outside of each open flow collection, innermost first. -/
  outerKeys : List (Option Candidate)

namespace Lexer

/-- The start of a document. -/
def start (cs : List Cell) : Lexer := ⟨cs, [], 0, [], true, none, []⟩

/-- Whether a flow collection is open. -/
def inFlow (l : Lexer) : Bool := !l.outerKeys.isEmpty

/-- The first column that is deeper than the innermost block collection. -/
def floor (l : Lexer) : Nat := l.floors.headD 0

/-- Adds a token. -/
def emit (l : Lexer) (t : Token) : Lexer := { l with tokens := t :: l.tokens, count := l.count + 1 }

/-- Adds a token and goes on behind it. -/
def emitTo (l : Lexer) (p : Token × List Cell) : Lexer := { l.emit p.1 with rest := p.2 }

/-- Puts a token behind the first `after` ones. -/
def insert (l : Lexer) (after : Nat) (t : Token) : Lexer :=
  -- Tokens are kept backwards, so those that come later stand in front.
  let later := l.count - after
  { l with tokens := l.tokens.take later ++ t :: l.tokens.drop later, count := l.count + 1 }

/-! ## Keys -/

/-- What is left of a candidate at a place: nothing if it has lapsed. Fails if it must not lapse. -/
def Candidate.check (here : Option Mark) (k : Candidate) : Option (Option Candidate) :=
  let near := here.any fun m => m.line == k.mark.line && m.octets ≤ k.mark.octets + keyReach
  if near then some (some k) else if k.required then none else some none

/-- Forgets the candidates that have lapsed. -/
def checkKeys (l : Lexer) : Option Lexer := do
  let here := l.rest.head?.map (·.mark)
  let check (k : Option Candidate) : Option (Option Candidate) :=
    match k with
    | some k => Candidate.check here k
    | none => some none
  return { l with key := ← check l.key, outerKeys := ← l.outerKeys.mapM check }

/-- Gives the candidate up, if it may be. -/
def dropKey (l : Lexer) : Option Lexer :=
  if l.key.any (·.required) then none else some { l with key := none }

/-- Remembers that a key may start here. -/
def saveKey (l : Lexer) (here : Mark) : Option Lexer :=
  if l.keyAllowed then do
    let l ← l.dropKey
    -- A key has to start where a block mapping's lines start; there nothing but a key may stand.
    return { l with key := some ⟨l.count, here, !l.inFlow && l.floor == here.column + 1⟩ }
  else some l

/-! ## Indentation -/

/-- Opens a block collection at a column, if none is open that deep; its token goes behind `after` others. -/
def openBlock (l : Lexer) (column after : Nat) (t : Token) : Lexer :=
  if !l.inFlow && l.floor ≤ column then { l.insert after t with floors := (column + 1) :: l.floors } else l

/-- Closes the block collections that are deeper than `least`. -/
def closeTo (l : Lexer) (least : Nat) : Lexer :=
  if l.inFlow then l
  else
    -- Floors grow inwards, so those that are closed stand in front.
    let closed := (l.floors.takeWhile (least < ·)).length
    { l with
      tokens := List.replicate closed .blockEnd ++ l.tokens
      count := l.count + closed
      floors := l.floors.drop closed }

/-! ## Tokens -/

/-- Skips blanks, comments, line ends and byte-order marks. Outside flow collections a tab counts as a blank
only where no key may start, and behind the end of a line a key may start again. -/
def skipSpace (flow comment allowed : Bool) : List Cell → Bool × List Cell
  | [] => (allowed, [])
  | c :: cs =>
    if isBreak c.char then skipSpace flow false (allowed || !flow) cs
    else if comment || c.char == '#' then skipSpace flow true allowed cs
    else if isOrderMark c then skipSpace flow false allowed cs
    else if c.char == ' ' || (c.char == '\t' && (flow || !allowed)) then skipSpace flow false allowed cs
    else (allowed, c :: cs)

/-- Ends what is open at the border of a document. -/
def border (l : Lexer) : Option Lexer := do
  let l ← (l.closeTo 0).dropKey
  return { l with keyAllowed := false }

/-- The start or the end of a flow collection, or the comma between its parts. -/
def flowOpen (l : Lexer) (here : Mark) (t : Token) (cs : List Cell) : Option Lexer := do
  let l ← l.saveKey here
  return { l.emitTo (t, cs) with key := none, outerKeys := l.key :: l.outerKeys, keyAllowed := true }

@[inherit_doc flowOpen]
def flowClose (l : Lexer) (t : Token) (cs : List Cell) : Option Lexer := do
  let l ← l.dropKey
  return { l.emitTo (t, cs) with
    key := l.outerKeys.headD none, outerKeys := l.outerKeys.drop 1, keyAllowed := false }

@[inherit_doc flowOpen]
def flowComma (l : Lexer) (cs : List Cell) : Option Lexer := do
  let l ← l.dropKey
  return { l.emitTo (.flowItem, cs) with keyAllowed := true }

/-- The dash before an item. -/
def dash (l : Lexer) (here : Mark) (cs : List Cell) : Option Lexer := do
  if !l.inFlow && !l.keyAllowed then none
  let l ← (l.openBlock here.column l.count .blockSequence).dropKey
  return { l.emitTo (.blockItem, cs) with keyAllowed := true }

/-- The question mark before a key. -/
def question (l : Lexer) (here : Mark) (cs : List Cell) : Option Lexer := do
  if !l.inFlow && !l.keyAllowed then none
  let l ← (l.openBlock here.column l.count .blockMapping).dropKey
  return { l.emitTo (.key, cs) with keyAllowed := !l.inFlow }

/-- The colon before a value. -/
def colon (l : Lexer) (here : Mark) (cs : List Cell) : Option Lexer :=
  match l.key with
  | some k =>
    -- The key comes before what was read as content, and the mapping that it may open before the key.
    let l := (l.insert k.after .key).openBlock k.mark.column k.after .blockMapping
    some { l.emitTo (.value, cs) with key := none, keyAllowed := false }
  | none => do
    if !l.inFlow && !l.keyAllowed then none
    -- There is no key, so the colon announces the value of an empty one.
    let l := l.openBlock here.column l.count .blockMapping
    return { l.emitTo (.value, cs) with keyAllowed := !l.inFlow }

/-- The name behind an ampersand or an asterisk. -/
def name? (cs : List Cell) : Option (String × List Cell) :=
  let (word, rest) := splitWord cs
  let ends := endsWord rest ||
    rest.head?.any fun c => ['?', ':', ',', ']', '\x7d', '%', '@', Char.ofNat 96].contains c.char
  if word.isEmpty || !ends then none else some (cellText word, rest)

/-- A token that may start a key. -/
def content (l : Lexer) (here : Mark) (read : Option (Token × List Cell)) : Option Lexer := do
  let l ← l.saveKey here
  return { l.emitTo (← read) with keyAllowed := false }

/-- A plain scalar. Behind a line end a key may start. -/
def plain (l : Lexer) (here : Mark) : Option Lexer := do
  let l ← l.saveKey here
  let (f, rest) ← plainFrom l.inFlow l.floor .empty l.rest
  return { l.emitTo (.scalar .plain f.result, rest) with keyAllowed := f.fresh }

/-- A scalar between quotes. -/
def quoted? (single : Bool) (cs : List Cell) : Option (Token × List Cell) := do
  let (f, rest) ← quotedFrom single .text .empty cs
  return (.scalar (if single then .single else .double) f.result, rest)

/-- A block of lines. -/
def lines (l : Lexer) (folded : Bool) (cs : List Cell) : Option Lexer := do
  let l ← l.dropKey
  let (text, rest) ← block? folded l.floor cs
  return { l.emitTo (.scalar (if folded then .folded else .literal) text, rest) with keyAllowed := true }

/-- The next token, which starts with `c`. -/
def token (l : Lexer) (c : Cell) (cs : List Cell) : Option Lexer :=
  let here := c.mark
  -- What stands at the start of a line comes first, then single marks, then what a character starts.
  if here.column == 0 && c.char == '%' then do
    let l ← l.border
    return l.emitTo (← directive? l.rest)
  else if isMarker '-' l.rest then do return (← l.border).emitTo (.documentStart, l.rest.drop 3)
  else if isMarker '.' l.rest then do return (← l.border).emitTo (.documentEnd, l.rest.drop 3)
  else if c.char == '[' then l.flowOpen here .flowSequence cs
  else if c.char == '\x7b' then l.flowOpen here .flowMapping cs
  else if c.char == ']' then l.flowClose .flowSequenceEnd cs
  else if c.char == '\x7d' then l.flowClose .flowMappingEnd cs
  else if c.char == ',' then l.flowComma cs
  else if c.char == '-' && endsWord cs then l.dash here cs
  else if c.char == '?' && (l.inFlow || endsWord cs) then l.question here cs
  else if c.char == ':' && (l.inFlow || endsWord cs) then l.colon here cs
  else if c.char == '*' then l.content here ((name? cs).map fun p => (.alias p.1, p.2))
  else if c.char == '&' then l.content here ((name? cs).map fun p => (.anchor p.1, p.2))
  else if c.char == '!' then l.content here (tag? l.inFlow l.rest)
  else if c.char == '|' && !l.inFlow then l.lines false cs
  else if c.char == '>' && !l.inFlow then l.lines true cs
  else if c.char.toNat == 39 then l.content here (quoted? true cs)
  else if c.char == '\x22' then l.content here (quoted? false cs)
  else if startsPlain l.inFlow c cs then l.plain here
  else none

/-- Goes to the next token: past blanks, out of the block collections that it does not belong to. -/
def advance (l : Lexer) : Option Lexer := do
  let (allowed, rest) := skipSpace l.inFlow false l.keyAllowed l.rest
  let l ← checkKeys { l with keyAllowed := allowed, rest := rest }
  return match rest with
    | [] => l
    | c :: _ => l.closeTo (c.mark.column + 1)

/-- All tokens. Every token takes at least one character. -/
def run : Nat → Lexer → Option (List Token)
  | 0, _ => none
  | fuel + 1, l => do
    let l ← l.advance
    match l.rest with
    -- Behind the last character every block collection that is still open is closed.
    | [] => return (← l.border).tokens.reverse
    | c :: cs => run fuel (← l.token c cs)

end Lexer

/-- The tokens of a document. -/
def tokens? (cs : List Cell) : Option (List Token) := Lexer.run (cs.length + 1) (.start cs)

end HttpService.Yaml
