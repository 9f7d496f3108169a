import HttpService.Text.Pieces
import HttpService.Url.Escape
import HttpService.Url.Name

/-!
# Hosts of addresses

Which texts are a host. A host in brackets is a numbered host of eight groups. Elsewhere it depends on the
scheme: the schemes of the web take a name or a numbered host of four bytes, and a name whose last part looks
like a number has to be one; other schemes take any text without certain marks.

What a name may be is said in `Name`; a host is looked at as a number after its name has been brought to its one
spelling, so digits of other shapes make numbers too.
-/

namespace HttpService.Url.Host

/-! ## Numbered hosts of four bytes -/

/-- A part that may be a number: `none` if it is not, `some none` if it is too large. A number that is too large
stays so with more digits. -/
def number? (cs : List Char) : Option (Option Nat) :=
  let read (base : Nat) (ds : List Char) : Option (Option Nat) :=
    ds.foldlM (fun n c => do
      let d ← Octet.hexValue? (octet c)
      if c.toNat < 128 && d < base then some (min (n * base + d) (Nat.pow 2 32)) else none) 0 |>.map fun n =>
        if n < Nat.pow 2 32 then some n else none
  match cs with
  | [] => none
  | '0' :: 'x' :: ds | '0' :: 'X' :: ds => read 16 ds
  | '0' :: d :: ds => read 8 (d :: ds)
  | ds => read 10 ds

/-- The parts of a name, without an empty last one. -/
def parts (cs : List Char) : List (List Char) :=
  let ps := pieces '.' cs
  if ps.getLast? == some [] && 1 < ps.length then ps.dropLast else ps

/-- Whether the last part of a name looks like a number. -/
def endsInNumber (cs : List Char) : Bool :=
  match (parts cs).getLast? with
  | none | some [] => false
  | some p => p.all Char.isDigit || (number? p).isSome

/-- Whether a name is a numbered host of four bytes: up to four numbers, the last of which takes the bytes
that are left. -/
def isFourBytes (cs : List Char) : Bool :=
  let ps := parts cs
  match ps.mapM fun p => (number? p).join with
  | none => false
  | some ns =>
    ps.length ≤ 4 && ns.dropLast.all (· ≤ 255) && ns.getLast?.any fun n => n < Nat.pow 256 (5 - ns.length)

/-! ## Numbered hosts of eight groups -/

/-- Whether a text is four numbers of at most 255 with dots between them and no leading zeros. -/
def isDotted (cs : List Char) : Bool :=
  let ps := pieces '.' cs
  ps.length == 4 && ps.all fun p =>
    !p.isEmpty && p.length ≤ 3 && p.all Char.isDigit && (p.length == 1 || p.head? != some '0') &&
      p.foldl (fun n c => n * 10 + (c.toNat - 48)) 0 ≤ 255

/-- How many groups some pieces take: one each, or two for dotted numbers at the end. -/
def groups? : List (List Char) → Option Nat
  | [] => some 0
  | [p] =>
    if !p.isEmpty && p.length ≤ 4 && p.all (fun c => (Octet.hexValue? (octet c)).isSome && c.toNat < 128)
    then some 1
    else if isDotted p then some 2 else none
  | p :: ps => do
    let n ← groups? ps
    if !p.isEmpty && p.length ≤ 4 && p.all (fun c => (Octet.hexValue? (octet c)).isSome && c.toNat < 128)
    then some (n + 1) else none

/-- The groups of one side of a pair of colons. -/
def sideGroups? (cs : List Char) : Option Nat := if cs.isEmpty then some 0 else groups? (pieces ':' cs)

/-- The text before and after the first pair of colons. -/
def splitPair : List Char → Option (List Char × List Char)
  | [] => none
  | [_] => none
  | ':' :: ':' :: cs => some ([], cs)
  | c :: cs => (splitPair cs).map fun p => (c :: p.1, p.2)

/-- Whether a text is eight groups, with one pair of colons in the place of one or more groups of zero. -/
def isEightGroups (cs : List Char) : Bool :=
  match splitPair cs with
  | none => groups? (pieces ':' cs) == some 8
  -- The pair stands for at least one group, and bytes with dots may stand only at the very end.
  | some (front, back) =>
    match sideGroups? front, sideGroups? back with
    | some m, some n => !front.contains '.' && m + n < 8
    | _, _ => false

/-! ## Hosts -/

/-- A host of the web. -/
inductive WebHost where
  | name (cs : List Char)
  | fourBytes
  | eightGroups
deriving DecidableEq, Repr

/-- The host that a text is for the schemes of the web. -/
def webHost? (cs : List Char) : Option WebHost :=
  match cs with
  | '[' :: rest => if rest.getLast? == some ']' && isEightGroups rest.dropLast then some .eightGroups else none
  | _ => do
    -- Escapes are read first: a forbidden character stays forbidden when it is escaped.
    let s ← (Escape.unescape (octets (String.ofList cs))).text?
    let name ← Name.ofText? s.toList
    if endsInNumber name then (if isFourBytes name then some .fourBytes else none) else some (.name name)

/-- Whether a text is a host for other schemes; it may be empty. -/
def isPlainHost (cs : List Char) : Bool :=
  match cs with
  | '[' :: rest => rest.getLast? == some ']' && isEightGroups rest.dropLast
  | _ => !cs.any fun c => c.toNat == 0 || "\t\n\r #/:<>?@[\\]^|".toList.contains c

end HttpService.Url.Host
