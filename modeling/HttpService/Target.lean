import HttpService.Octets

/-!
# Request targets

What a request asks for: a path with an optional query (`/a?b`), the server as a whole (`*`), an absolute
address (`http://host/a?b`) or an authority alone (`host:80`). `Target.parse` reads all four forms from one
text; a fragment is cut off.

* A target keeps the spelling of its parts; only the schemes `http` and `https` are read in any case.
* `Target.requestText` is what a request line carries: path and query, whatever the form. An authority alone
  asks for `/`.
* `Target.path` is `/` where an address has no path, and empty for an authority alone.
-/

namespace HttpService

/-- Why a text is no target. -/
inductive TargetFault where
  | empty
  | tooLong
  | schemeTooLong
  | badCharacter
  | badAuthority
  | badForm
deriving DecidableEq, Repr

/-- The fault in words. -/
def TargetFault.message : TargetFault → String
  | .empty => "empty string"
  | .tooLong => "uri too long"
  | .schemeTooLong => "scheme too long"
  | .badCharacter => "invalid uri character"
  | .badAuthority => "invalid authority"
  | .badForm => "invalid format"

/-- The scheme of an absolute address. -/
inductive Scheme where
  | http
  | https
  | other (name : String)
deriving DecidableEq

/-- The scheme's name. -/
def Scheme.text : Scheme → String
  | .http => "http"
  | .https => "https"
  | .other name => name

/-- A path as it is spelled, and the query after its question mark if there is one. -/
structure PathQuery where
  path : String
  query : Option String
deriving DecidableEq

/-- A path with its query, `/` when there is neither. -/
def PathQuery.text (p : PathQuery) : String :=
  match p.query with
  | some q => p.path ++ "?" ++ q
  | none => if p.path.isEmpty then "/" else p.path

/-- What a request asks for. -/
structure Target where
  scheme : Option Scheme
  /-- Empty where the target names no authority. -/
  authority : String
  spelled : PathQuery
deriving DecidableEq

namespace Target

/-! ## Characters -/

/-- The longest target, in octets. -/
def maxLength : Nat := 65534

/-- The longest scheme name. -/
def maxSchemeLength : Nat := 64

/-- The most colons that may precede the end of an authority's bracketed host. -/
def maxColons : Nat := 8

/-- What a scheme's name is made of. -/
def isSchemeChar (c : Char) : Bool :=
  c.isAlphanum || c == '+' || c == '-' || c == '.' || c == '~'

/-- What ends an authority. -/
def endsAuthority (c : Char) : Bool := c == '/' || c == '?' || c == '#'

/-- What an authority is made of, percent signs apart. -/
def isAuthorityChar (c : Char) : Bool :=
  c.isAlphanum || "!$&'()*+,-.:;=@[]_~".toList.contains c

/-- What a path is made of: visible characters but `<`, `>`, grave accents and what ends it; anything beyond
ASCII counts as visible. -/
def isPathChar (c : Char) : Bool :=
  let n := c.toNat
  0x21 ≤ n && n != 0x7f && c != '#' && c != '<' && c != '>' && c != '?' && n != 0x60

/-- What a query is made of: visible characters but quotation marks, `#`, `<` and `>`. -/
def isQueryChar (c : Char) : Bool :=
  let n := c.toNat
  n == 0x21 || (0x24 ≤ n && n != 0x7f && c != '<' && c != '>')

/-! ## Parts -/

/-- The texts are equal but for the case of ASCII letters. -/
def sameWord (a b : List Char) : Bool := a.map Char.toLower == b.map Char.toLower

/-- The scheme in front of `://`, and what follows it. Without one, the whole text. -/
def splitScheme (cs : List Char) : Except TargetFault (Option Scheme × List Char) :=
  if sameWord (cs.take 7) "http://".toList then .ok (some .http, cs.drop 7)
  else if sameWord (cs.take 8) "https://".toList then .ok (some .https, cs.drop 8)
  else
    let name := cs.takeWhile isSchemeChar
    match cs.dropWhile isSchemeChar with
    | ':' :: '/' :: '/' :: rest =>
      -- A lone `://` is read as an authority and fails there.
      if name.isEmpty && rest.isEmpty then .ok (none, cs)
      else if maxSchemeLength < name.length then .error .schemeTooLong
      else .ok (some (.other (String.ofList name)), rest)
    | _ => .ok (none, cs)

/-- What has been seen of an authority. -/
structure AuthorityScan where
  colons : Nat := 0
  opened : Bool := false
  closed : Bool := false
  percent : Bool := false

/-- One more character of an authority. Colons and percent signs before an `@` or a closing bracket belong
to the user or to a numbered host and are forgotten. -/
def AuthorityScan.step (s : AuthorityScan) (c : Char) : Except TargetFault AuthorityScan :=
  if c == ':' then
    if maxColons ≤ s.colons then .error .badAuthority else .ok { s with colons := s.colons + 1 }
  else if c == '[' then
    -- A percent sign may name the zone of a numbered host only inside the brackets.
    if s.percent || s.opened then .error .badAuthority else .ok { s with opened := true }
  else if c == ']' then
    if !s.opened || s.closed then .error .badAuthority
    else .ok { s with closed := true, colons := 0, percent := false }
  else if c == '@' then .ok { s with colons := 0, percent := false }
  else if c == '%' then .ok { s with percent := true }
  else if isAuthorityChar c then .ok s
  else .error .badCharacter

/-- Whether these characters may be an authority. None at all may. -/
def checkAuthority (cs : List Char) : Except TargetFault Unit := do
  let s ← cs.foldlM AuthorityScan.step {}
  if s.opened != s.closed || 1 < s.colons || cs.getLast? == some '@' || s.percent then
    .error .badAuthority

/-- The authority in front, checked, and what follows it. -/
def splitAuthority (cs : List Char) : Except TargetFault (List Char × List Char) := do
  let front := cs.takeWhile fun c => !endsAuthority c
  checkAuthority front
  return (front, cs.dropWhile fun c => !endsAuthority c)

/-- The query up to a fragment. -/
def parseQuery : List Char → Except TargetFault (List Char)
  | [] => .ok []
  | c :: cs =>
    if c == '#' then .ok []
    else if isQueryChar c then (c :: ·) <$> parseQuery cs
    else .error .badCharacter

/-- The path up to a query or fragment, and the query. -/
def parsePath : List Char → Except TargetFault (List Char × Option (List Char))
  | [] => .ok ([], none)
  | c :: cs =>
    if c == '#' then .ok ([], none)
    else if c == '?' then (fun q => ([], some q)) <$> parseQuery cs
    else if isPathChar c then (fun p => (c :: p.1, p.2)) <$> parsePath cs
    else .error .badCharacter

/-- Path and query of a text. -/
def parsePathQuery (cs : List Char) : Except TargetFault PathQuery :=
  (fun p => ⟨String.ofList p.1, p.2.map String.ofList⟩) <$> parsePath cs

/-- A target of a path alone. -/
def ofPath (p : PathQuery) : Target := ⟨none, "", p⟩

/-- The target that a text spells. -/
def parse (s : String) : Except TargetFault Target :=
  -- The length is tested before anything is read, so a long text fails by its length alone.
  if maxLength < s.utf8ByteSize then .error .tooLong
  else match s.toList with
  | [] => .error .empty
  | ['*'] => .ok (ofPath ⟨"*", none⟩)
  | '/' :: cs => ofPath <$> parsePathQuery ('/' :: cs)
  -- One character is too short for a scheme: it is an authority or nothing.
  | cs@([_]) => do
    let (front, rest) ← splitAuthority cs
    if rest.isEmpty then .ok ⟨none, String.ofList front, ⟨"", none⟩⟩ else .error .badCharacter
  | cs => do
    let (scheme, rest) ← splitScheme cs
    -- An address that ends with its scheme is as good as none.
    if scheme.isSome && rest.isEmpty then throw .empty
    let (front, rest) ← splitAuthority rest
    match scheme with
    -- A path has to follow a scheme or start the text, so behind an authority alone nothing may come.
    | none => if rest.isEmpty then .ok ⟨none, String.ofList front, ⟨"", none⟩⟩ else .error .badForm
    | some scheme =>
      if front.isEmpty then .error .badForm
      else .ok ⟨some scheme, String.ofList front, ← parsePathQuery rest⟩

/-! ## What a target says -/

/-- The path asked for. -/
def path (t : Target) : String :=
  if t.spelled.path.isEmpty then
    if t.scheme.isSome || t.spelled.query.isSome then "/" else ""
  else t.spelled.path

/-- The query asked with. -/
def query (t : Target) : Option String := t.spelled.query

/-- What a request line carries. -/
def requestText (t : Target) : String :=
  if t.scheme.isSome || t.authority.isEmpty then t.spelled.text else "/"

/-- The target as text. -/
def text (t : Target) : String :=
  let front := match t.scheme with
    | some s => s.text ++ "://"
    | none => ""
  let back := match t.query with
    | some q => "?" ++ q
    | none => ""
  front ++ t.authority ++ t.path ++ back

end Target

end HttpService
