import HttpService.Json.Number

/-!
# Reading JSON

The value that a text of JSON spells. The text is read strictly: one value with nothing but blanks around it,
no control characters inside strings, escapes of surrogates only in pairs, numbers without leading zeros and
within the range of a floating-point number, and at most `maxDepth` arrays and objects around each other.
-/

namespace HttpService.Json

/-- One more than the most arrays and objects that may stand around each other. -/
def maxDepth : Nat := 128

/-- A blank between the parts of a text. -/
def isBlank (c : Char) : Bool := c == ' ' || c == '\t' || c == '\n' || c == '\r'

/-- The text without the blanks in front. -/
def skipBlanks (cs : List Char) : List Char := cs.dropWhile isBlank

/-! ## Strings -/

/-- The value of a hexadecimal digit. -/
def hexValue? (c : Char) : Option Nat :=
  if c.isDigit then some (c.toNat - 48)
  else if 'a' ≤ c && c ≤ 'f' then some (c.toNat - 87)
  else if 'A' ≤ c && c ≤ 'F' then some (c.toNat - 55)
  else none

/-- The number of four hexadecimal digits in front. -/
def unit? : List Char → Option (Nat × List Char)
  | a :: b :: c :: d :: cs => do
    let n := (← hexValue? a) * 4096 + (← hexValue? b) * 256 + (← hexValue? c) * 16 + (← hexValue? d)
    return (n, cs)
  | _ => none

/-- The character of a pair of surrogates. -/
def ofPair (high low : Nat) : Char := Char.ofNat (0x10000 + (high - 0xD800) * 1024 + (low - 0xDC00))

/-- The character that an escape stands for, after its backslash. -/
def escape? : List Char → Option (Char × List Char)
  | '\x22' :: cs => some ('\x22', cs)
  | '\\' :: cs => some ('\\', cs)
  | '/' :: cs => some ('/', cs)
  | 'b' :: cs => some ('\x08', cs)
  | 'f' :: cs => some ('\x0c', cs)
  | 'n' :: cs => some ('\n', cs)
  | 'r' :: cs => some ('\r', cs)
  | 't' :: cs => some ('\t', cs)
  | 'u' :: cs => do
    let (n, cs) ← unit? cs
    -- The second half of a pair may not come first.
    if 0xDC00 ≤ n && n ≤ 0xDFFF then none
    else if 0xD800 ≤ n && n ≤ 0xDBFF then
      match cs with
      | '\\' :: 'u' :: cs => do
        let (m, cs) ← unit? cs
        if 0xDC00 ≤ m && m ≤ 0xDFFF then some (ofPair n m, cs) else none
      | _ => none
    else some (Char.ofNat n, cs)
  | _ => none

/-- The rest of a string up to and with its closing quote. -/
def stringFrom (fuel : Nat) (read : List Char) (cs : List Char) : Option (String × List Char) :=
  match fuel with
  | 0 => none
  | fuel + 1 =>
    match cs with
    | [] => none
    | '\x22' :: cs => some (String.ofList read.reverse, cs)
    | '\\' :: cs => do
      let (c, cs) ← escape? cs
      stringFrom fuel (c :: read) cs
    | c :: cs => if c.toNat < 0x20 then none else stringFrom fuel (c :: read) cs

/-! ## Values -/

/-- What follows a word, if the text starts with it. -/
def word? (w : String) (cs : List Char) : Option (List Char) :=
  if w.toList.isPrefixOf cs then some (cs.drop w.length) else none

mutual

/-- A value. `depth` is how many arrays and objects may still be opened, counting one that may not. -/
def value? (fuel depth : Nat) (cs : List Char) : Option (JsonValue × List Char) :=
  match fuel with
  | 0 => none
  | fuel + 1 =>
    match skipBlanks cs with
    | [] => none
    | '\x22' :: cs => (stringFrom (cs.length + 1) [] cs).map fun p => (.string p.1, p.2)
    | '[' :: cs =>
      if depth ≤ 1 then none
      else match skipBlanks cs with
        | ']' :: cs => some (.array [], cs)
        | cs => (items? fuel (depth - 1) cs).map fun p => (.array p.1, p.2)
    | '\x7b' :: cs =>
      if depth ≤ 1 then none
      else match skipBlanks cs with
        | '\x7d' :: cs => some (.object [], cs)
        | cs => (members? fuel (depth - 1) cs).map fun p => (JsonValue.ofMembers p.1, p.2)
    | c :: cs =>
      if c == 't' then (word? "rue" cs).map fun cs => (.bool true, cs)
      else if c == 'f' then (word? "alse" cs).map fun cs => (.bool false, cs)
      else if c == 'n' then (word? "ull" cs).map fun cs => (.null, cs)
      else (number? (c :: cs)).map fun p => (.number p.1, p.2)

/-- The items of an array, of which there is at least one, and its closing bracket. -/
def items? (fuel depth : Nat) (cs : List Char) : Option (List JsonValue × List Char) :=
  match fuel with
  | 0 => none
  | fuel + 1 => do
    let (v, cs) ← value? fuel depth cs
    match skipBlanks cs with
    | ',' :: cs => (items? fuel depth cs).map fun p => (v :: p.1, p.2)
    | ']' :: cs => some ([v], cs)
    | _ => none

/-- The members of an object, of which there is at least one, and its closing brace. -/
def members? (fuel depth : Nat) (cs : List Char) : Option (List (String × JsonValue) × List Char) :=
  match fuel with
  | 0 => none
  | fuel + 1 =>
    match skipBlanks cs with
    | '\x22' :: cs => do
      let (name, cs) ← stringFrom (cs.length + 1) [] cs
      match skipBlanks cs with
      | ':' :: cs =>
        let (v, cs) ← value? fuel depth cs
        match skipBlanks cs with
        | ',' :: cs => (members? fuel depth cs).map fun p => ((name, v) :: p.1, p.2)
        | '\x7d' :: cs => some ([(name, v)], cs)
        | _ => none
      | _ => none
    | _ => none

end

/-- The value that a text spells. -/
def read? (s : String) : Option JsonValue := do
  let cs := s.toList
  -- Each value and each item or member takes at least one character.
  let (v, rest) ← value? (2 * cs.length + 2) maxDepth cs
  if (skipBlanks rest).isEmpty then some v else none

end HttpService.Json
