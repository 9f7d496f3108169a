/-!
# Schemes of addresses

An address starts with its scheme. `SchemeKind` is all that the rest of an address depends on: the schemes of
the web, the scheme of files, and others, which know no backslashes.
-/

namespace HttpService.Url

/-- What the scheme says about the rest of an address. -/
inductive SchemeKind where
  | web
  | file
  | other
deriving DecidableEq, Repr

/-- The kind of a scheme by its name in small letters. -/
def SchemeKind.ofName (name : List Char) : SchemeKind :=
  if ["http", "https", "ws", "wss", "ftp"].any (·.toList == name) then .web
  else if name == "file".toList then .file
  else .other

/-- Whether a character is a slash. A backslash is as good as one where the scheme is known. -/
def SchemeKind.isSlash (kind : SchemeKind) (c : Char) : Bool := c == '/' || (kind != .other && c == '\\')

/-- What ends a path: the start of a query or of a fragment. -/
def endsPath (c : Char) : Bool := c == '?' || c == '#'

/-- What ends an authority. -/
def SchemeKind.endsAuthority (kind : SchemeKind) (c : Char) : Bool := kind.isSlash c || endsPath c

/-- A tab or an end of a line, which may stand anywhere in an address and is not part of it. -/
def isUnseen (c : Char) : Bool := c == '\t' || c == '\n' || c == '\r'

/-- The scheme in front, in small letters, and what follows its colon. -/
def splitScheme (cs : List Char) : Option (List Char × List Char) :=
  let inScheme (c : Char) : Bool := c.isAlphanum || c == '+' || c == '-' || c == '.'
  let name := cs.takeWhile inScheme
  match cs.dropWhile inScheme with
  | ':' :: rest =>
    if name.head?.any Char.isAlpha then some (name.map Char.toLower, rest) else none
  | _ => none

end HttpService.Url
