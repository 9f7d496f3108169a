import HttpService.Yaml.Token.Folding

/-!
# Scalars in a document

How the text of a scalar is read in each of its styles: plain, between single or double quotes, or as a block
of lines. Each reader goes through the characters once and returns the scalar with what follows it.
-/

namespace HttpService.Yaml

/-! ## Plain scalars -/

/-- The characters that separate the parts of a flow collection. -/
def flowMarks : List Char := [',', '[', ']', '\x7b', '\x7d']

/-- Whether a plain scalar ends at a character that is no blank. -/
def endsPlain (flow : Bool) (c : Char) (next : List Cell) : Bool :=
  (c == ':' && endsWord next) || (flow && flowMarks.contains c)

/-- Whether a character of a flow collection is a colon where none may be. -/
def strayColon (flow : Bool) (c : Char) (next : List Cell) : Bool :=
  flow && c == ':' && next.head?.any fun n => n.char == '?' || flowMarks.contains n.char

/-- The rest of a plain scalar whose lines start at column `floor` or later. A tab before that column is refused. -/
def plainFrom (flow : Bool) (floor : Nat) (f : Folded) : List Cell → Option (Folded × List Cell)
  | [] => some (f, [])
  | c :: cs =>
    if isBlank c.char then
      -- Tabs do not indent.
      if f.fresh && c.char == '\t' && c.mark.column < floor then none
      else plainFrom flow floor (f.blank c.char) cs
    else if isBreak c.char then plainFrom flow floor (f.lineEnd c.char) cs
    -- Between words, where a line may turn out to belong to something else.
    else if f.pending &&
        ((!flow && c.mark.column < floor) || isDocumentMarker (c :: cs) || c.char == '#') then
      some (f, c :: cs)
    else if strayColon flow c.char cs then none
    else if endsPlain flow c.char cs then some (f, c :: cs)
    else plainFrom flow floor (f.push c.char) cs

/-- What a plain scalar may not start with. -/
def indicators : List Char :=
  ['-', '?', ':', ',', '[', ']', '\x7b', '\x7d', '#', '&', '*', '!', '|', '>', Char.ofNat 39, '\x22', '%', '@',
    Char.ofNat 96]

/-- Whether a plain scalar may start with a character. -/
def startsPlain (flow : Bool) (c : Cell) (next : List Cell) : Bool :=
  !(isBlank c.char || isBreak c.char || indicators.contains c.char) ||
    (c.char == '-' && !next.head?.any fun n => isBlank n.char) ||
    (!flow && (c.char == '?' || c.char == ':') && !endsWord next)

/-! ## Quoted scalars -/

/-- The value of a hexadecimal digit. -/
def hexValue? (c : Char) : Option Nat :=
  if c.isDigit then some (c.toNat - 48)
  else if 'a' ≤ c && c ≤ 'f' then some (c.toNat - 87)
  else if 'A' ≤ c && c ≤ 'F' then some (c.toNat - 55)
  else none

/-- What the character after a backslash stands for: a character, or one given by so many digits. -/
inductive Escape where
  | char (c : Char)
  | digits (count : Nat)
deriving DecidableEq, Repr

/-- The escapes. -/
def escape? : Char → Option Escape
  | '0' => some (.char (Char.ofNat 0))
  | 'a' => some (.char '\x07')
  | 'b' => some (.char '\x08')
  | 't' | '\t' => some (.char '\t')
  | 'n' => some (.char '\n')
  | 'v' => some (.char '\x0b')
  | 'f' => some (.char '\x0c')
  | 'r' => some (.char '\r')
  | 'e' => some (.char '\x1b')
  | ' ' => some (.char ' ')
  | '\x22' => some (.char '\x22')
  | '/' => some (.char '/')
  | '\\' => some (.char '\\')
  | 'N' => some (.char '\u0085')
  | '_' => some (.char '\u00a0')
  | 'L' => some (.char '\u2028')
  | 'P' => some (.char '\u2029')
  | 'x' => some (.digits 2)
  | 'u' => some (.digits 4)
  | 'U' => some (.digits 8)
  | _ => none

/-- Where a reader of quoted text stands: between characters, behind a backslash, or inside the digits of an
escape. -/
inductive Inside where
  | text
  | backslash
  | digits (left value : Nat)
deriving DecidableEq, Repr

/-- The rest of a scalar between quotes, after the closing one. A single quote inside single quotes is written
twice. -/
def quotedFrom (single : Bool) (inside : Inside) (f : Folded) : List Cell → Option (Folded × List Cell)
  | [] => none
  | c :: cs =>
    match inside with
    | .digits left value =>
      match hexValue? c.char with
      | none => none
      | some d =>
        let value := value * 16 + d
        if left ≤ 1 then
          if value.isValidChar then quotedFrom single .text (f.push (Char.ofNat value)) cs else none
        else quotedFrom single (.digits (left - 1) value) f cs
    | .backslash =>
      -- A backslash before the end of a line hides it.
      if isBreak c.char then quotedFrom single .text f.joined.hiddenLineEnd cs
      else
        match escape? c.char with
        | some (.char e) => quotedFrom single .text (f.push e) cs
        | some (.digits count) => quotedFrom single (.digits count 0) f cs
        | none => none
    | .text =>
      if isBlank c.char then quotedFrom single .text (f.blank c.char) cs
      else if isBreak c.char then quotedFrom single .text (f.lineEnd c.char) cs
      else if isDocumentMarker (c :: cs) then none
      else if single then
        if c.char.toNat == 39 then
          match cs with
          | d :: cs' =>
            if d.char.toNat == 39 then quotedFrom single .text (f.push d.char) cs'
            else some (f.joined, d :: cs')
          | [] => some (f.joined, [])
        else quotedFrom single .text (f.push c.char) cs
      else if c.char == '\x22' then some (f.joined, cs)
      else if c.char == '\\' then quotedFrom single .backslash f.joined cs
      else quotedFrom single .text (f.push c.char) cs

/-! ## Blocks of lines -/

/-- What becomes of the line ends after the last line of a block. -/
inductive Chomp where
  | strip
  | clip
  | keep
deriving DecidableEq, Repr

/-- The first line of a block, up to and with its end: what becomes of the last line ends, and how many columns
deeper the lines stand, where that is given. The two may come in either order. -/
def blockHeader? (cs : List Cell) : Option (Chomp × Option Nat × List Cell) :=
  let chomp (cs : List Cell) : Option Chomp × List Cell :=
    if startsWith '+' cs then (some .keep, cs.drop 1)
    else if startsWith '-' cs then (some .strip, cs.drop 1)
    else (none, cs)
  let depth (cs : List Cell) : Option Nat × List Cell :=
    match cs with
    | c :: rest => if c.char.isDigit then (some (c.char.toNat - 48), rest) else (none, cs)
    | [] => (none, [])
  let (before, cs) := chomp cs
  let (depth, cs) := depth cs
  let (after, cs) := if before.isNone && depth.isSome then chomp cs else (none, cs)
  if depth = some 0 then none
  else (restOfLine? cs).map fun cs => (((before <|> after).getD .clip), depth, cs)

/-- A block of lines that is being read; texts are kept backwards. -/
structure Lines where
  text : List Char
  /-- The end of the last line. -/
  first : List Char
  /-- The ends of the empty lines after it. -/
  more : List Char
  /-- Whether the last line starts with a blank. -/
  indented : Bool
deriving DecidableEq, Repr

/-- Starts another line. Unless either line starts with a blank, lines of a folded block are joined. -/
def Lines.openLine (l : Lines) (folded indented : Bool) : Lines :=
  let text :=
    if folded && l.first == ['\n'] && !l.indented && !indented then
      if l.more.isEmpty then ' ' :: l.text else l.text
    else l.first ++ l.text
  ⟨l.more ++ text, [], [], indented⟩

/-- The text with the line ends that are left of the last ones. -/
def Lines.result (l : Lines) (chomp : Chomp) : String :=
  let text := match chomp with
    | .strip => l.text
    | .clip => l.first ++ l.text
    | .keep => l.more ++ l.first ++ l.text
  String.ofList text.reverse

/-- Skips the empty lines in front of a block whose depth is to be found: their ends, the widest of them or of
the first line's indentation, and what follows. A tab among the blanks is refused. -/
def emptyLines (ends : List Char) (widest : Nat) : List Cell → Option (List Char × Nat × List Cell)
  | [] => some (ends, widest, [])
  | c :: cs =>
    if c.char == ' ' then emptyLines ends widest cs
    else if c.char == '\t' then none
    else if isBreak c.char then emptyLines (c.char :: ends) (max widest c.mark.column) cs
    else some (ends, max widest c.mark.column, c :: cs)

/-- The rest of a block whose lines start at column `depth`. -/
def blockFrom (folded : Bool) (depth : Nat) (inLine : Bool) (l : Lines) : List Cell → Option (Lines × List Cell)
  | [] => some (l, [])
  | c :: cs =>
    if inLine then
      if isBreak c.char then blockFrom folded depth false { l with first := [c.char] } cs
      else blockFrom folded depth true { l with text := c.char :: l.text } cs
    -- Between lines: blanks in front of the block's column are its indentation.
    else if c.mark.column < depth && c.char == ' ' then blockFrom folded depth false l cs
    else if c.mark.column < depth && c.char == '\t' then none
    else if isBreak c.char then blockFrom folded depth false { l with more := c.char :: l.more } cs
    else if c.mark.column == depth then
      let l := l.openLine folded (isBlank c.char)
      blockFrom folded depth true { l with text := c.char :: l.text } cs
    else some (l, c :: cs)

/-- A block of lines below a node whose content starts at column `floor` or later: its text and what follows. -/
def block? (folded : Bool) (floor : Nat) (cs : List Cell) : Option (String × List Cell) := do
  let (chomp, deeper, cs) ← blockHeader? cs
  let (ends, depth, cs) ← match deeper with
    | some n => pure ([], floor - 1 + n, cs)
    -- Without a number the first line that is not empty says how deep the lines stand.
    | none => do
      let (ends, widest, rest) ← emptyLines [] 0 cs
      pure (ends, max widest (max floor 1), rest)
  let (l, cs) ← blockFrom folded depth false ⟨[], [], ends, false⟩ cs
  return (l.result chomp, cs)

end HttpService.Yaml
