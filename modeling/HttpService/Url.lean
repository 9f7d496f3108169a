import HttpService.Url.Host
import HttpService.Url.Path

/-!
# Addresses

The path that an absolute address names (`Url.path?`), or none if a text is no address. An address is a scheme,
an optional authority after two slashes, and a path; query and fragment are dropped. The schemes of the web
always have an authority and always a path, however many slashes or backslashes are written.
-/

namespace HttpService.Url

/-! ## Authorities -/

/-- The host in front, which may hold colons inside brackets, and what follows it. -/
def splitHost (kind : SchemeKind) (inside : Bool) : List Char → List Char × List Char
  | [] => ([], [])
  | c :: cs =>
    if kind.endsAuthority c || (c == ':' && !inside) then ([], c :: cs)
    else
      let p := splitHost kind (if c == '[' then true else if c == ']' then false else inside) cs
      (c :: p.1, p.2)

/-- What follows a host and the port behind it, if there is one. A backslash ends a port even where it is no
slash. -/
def afterPort? : List Char → Option (List Char)
  | ':' :: cs =>
    let port := (cs.takeWhile Char.isDigit).foldl (fun n d => n * 10 + (d.toNat - 48)) 0
    let rest := cs.dropWhile Char.isDigit
    if port < 65536 && rest.head?.all (SchemeKind.web.endsAuthority ·) then some rest else none
  | cs => some cs

/-- Whether an authority may go without a host: only outside the web, without a port, and without a user but
an empty one. -/
def mayLackHost (kind : SchemeKind) (user behind : List Char) : Bool :=
  kind == .other && behind.head? != some ':' &&
    (user.isEmpty || user == [':', '@'] || (user == ['@'] && behind.isEmpty))

/-- What follows an authority, which is checked. -/
def afterAuthority? (kind : SchemeKind) (cs : List Char) : Option (List Char) :=
  let front := cs.takeWhile (!kind.endsAuthority ·)
  let user := (front.reverse.dropWhile (· != '@')).reverse
  let (host, behind) := splitHost kind false (cs.drop user.length)
  let allowed :=
    if host.isEmpty then mayLackHost kind user behind
    else if kind == .other then Host.isPlainHost host
    else (Host.webHost? host).isSome
  if allowed then afterPort? behind else none

/-! ## Paths -/

/-- The text without one slash in front, if there is one. -/
def dropSlash (kind : SchemeKind) (cs : List Char) : List Char :=
  if cs.head?.any (kind.isSlash ·) then cs.drop 1 else cs

/-- The path after two slashes. Outside the web it may be empty. -/
def afterSlashes (kind : SchemeKind) (cs : List Char) : Option (List Char) := do
  let rest ← afterAuthority? kind cs
  if kind == .other && rest.head?.all endsPath then return []
  return normalPath kind (dropSlash kind rest)

/-- What follows a slash in front. -/
def slash? (cs : List Char) : Option (List Char) :=
  match cs.dropWhile isUnseen with
  | [] => none
  | c :: cs => if SchemeKind.file.isSlash c then some cs else none

/-- The path of a file after two slashes: a host that is checked, and the path on it. -/
def filePathOnHost (cs : List Char) : Option (List Char) :=
  let host := (cs.takeWhile (!SchemeKind.file.endsAuthority ·)).filter (!isUnseen ·)
  let rest := cs.dropWhile (!SchemeKind.file.endsAuthority ·)
  -- A drive letter in the place of the host is the start of the path.
  if isDrive host then some (normalPath .file cs)
  else if host.isEmpty then some (normalPath .file rest)
  else
    -- Where the host is this one, the path starts with an empty segment.
    (Host.webHost? host).map fun name =>
      normalPath .file (if name == .name "localhost".toList then rest else dropSlash .file rest)

/-- The path of a file's address: one slash and then no other. -/
def filePath (cs : List Char) : Option (List Char) :=
  singleSlash <$>
    match slash? cs with
    | none => some (normalPath .file cs)
    | some rest =>
      match slash? rest with
      | none => some (normalPath .file rest)
      | some rest => filePathOnHost rest

/-- The text without what surrounds an address. -/
def trim (s : String) : List Char :=
  let outside (c : Char) : Bool := c.toNat ≤ 0x20
  ((s.toList.dropWhile outside).reverse.dropWhile outside).reverse

/-- The path of an address, in its normal form. -/
def path? (s : String) : Option String := do
  let cs := trim s
  let (scheme, rest) ← splitScheme (cs.filter (!isUnseen ·))
  match SchemeKind.ofName scheme with
  -- However many slashes there are, an authority follows.
  | .web => String.ofList <$> afterSlashes .web (rest.dropWhile (SchemeKind.web.isSlash ·))
  -- A file's path is read with tabs and line ends in it.
  | .file => String.ofList <$> filePath ((cs.dropWhile (· != ':')).drop 1)
  | .other =>
    match rest with
    | '/' :: '/' :: rest => String.ofList <$> afterSlashes .other rest
    | '/' :: rest => some (String.ofList (normalPath .other rest))
    | _ => some (String.ofList (opaquePath rest))

end HttpService.Url
