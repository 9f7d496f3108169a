import HttpService.Text.Pieces
import HttpService.Url.Escape
import HttpService.Url.Scheme

/-!
# Paths of addresses

The path of an address in its normal form: characters that may not stand there are escaped, a segment `.` is
dropped, and a segment `..` takes the one before it away. The segments of dots may be spelled with escapes. A
segment that is a drive letter (`c:`) is never taken away, and at the start of a file's path its mark is spelled
as a colon.

`normalPath` builds the path from the front and keeps it backwards; whatever is dropped, the path starts with
a slash (`head?_normalPath`).
-/

namespace HttpService.Url

/-- What has to be escaped in a path. -/
def needsEscape (c : Char) : Bool :=
  c.toNat < 0x21 || 0x7E < c.toNat || c == '\x22' || c == '<' || c == '>' || c.toNat == 0x60 || c == '#' ||
    c == '?' || c == '\x7b' || c == '\x7d'

/-- What has to be escaped in a path that no segments are read from. -/
def isControl (c : Char) : Bool := c.toNat < 0x20 || 0x7E < c.toNat

/-! ## Segments -/

/-- Whether a segment stands for the directory it is in. -/
def isDot (seg : List Char) : Bool :=
  ["." , "%2e"].any fun w => w.toList == seg.map Char.toLower

/-- Whether a segment stands for the directory above. -/
def isDotDot (seg : List Char) : Bool :=
  ["..", "%2e.", ".%2e", "%2e%2e"].any fun w => w.toList == seg.map Char.toLower

/-- Whether a segment is a drive letter. -/
def isDrive (seg : List Char) : Bool :=
  match seg with
  | [a, b] => a.isAlpha && (b == ':' || b == '|')
  | _ => false

/-- A drive letter with its mark spelled as a colon; any other segment is itself. -/
def plainDrive (seg : List Char) : List Char := if isDrive seg then seg.take 1 ++ [':'] else seg

/-! ## Paths -/

/-- Takes the last segment away from a path that is kept backwards and ends in a slash. -/
def dropSegment (back : List Char) : List Char :=
  match back with
  | '/' :: rest =>
    let above := rest.dropWhile (· != '/')
    -- The path never loses its first slash or its drive letter.
    if above.isEmpty || isDrive (rest.takeWhile (· != '/')).reverse then back else above
  | _ => back.dropWhile (· != '/')

/-- Ends a slash-terminated or last segment of a path. Path and segment are kept backwards. -/
def endSegment (kind : SchemeKind) (back rev : List Char) (slash : Bool) : List Char :=
  let seg := rev.reverse
  let close (b : List Char) := if slash && b.head? != some '/' then '/' :: b else b
  if isDotDot seg then close (dropSegment back)
  else if isDot seg then (if back.head? == some '/' then back else '/' :: back)
  else
    let seg := if kind == .file && back == ['/'] then plainDrive seg else seg
    (if slash then ['/'] else []) ++ seg.reverse ++ back

/-- The letter of the drive that the first segment of a path is so far, spelled with a colon. -/
def drive? (back rev : List Char) : Option Char :=
  match back, rev with
  | ['/'], [':', a] => if a.isAlpha then some a else none
  | _, _ => none

/-- Whether a segment goes on behind what is not part of the address. -/
def goesOn (kind : SchemeKind) (cs : List Char) : Bool :=
  (cs.find? (!isUnseen ·)).any (!kind.endsAuthority ·)

/-- A character of a path, escaped where it has to be. -/
def spelled (c : Char) : List Char := if needsEscape c then Escape.escapeChar c else [c]

/-- The path that follows `back`, where `rev` has been read of the current segment. Both are kept backwards. The
path ends at a query or a fragment. -/
def pathFrom (kind : SchemeKind) (back rev : List Char) : List Char → List Char
  | [] => endSegment kind back rev false
  | c :: cs =>
    if endsPath c then endSegment kind back rev false
    else if kind.isSlash c then pathFrom kind (endSegment kind back rev true) [] cs
    else if isUnseen c then
      match (if kind == .file then drive? back rev else none).filter fun _ => goesOn kind cs with
      -- Behind a drive letter such a character puts a slash into the segment, which is one segment all the same.
      | some a => pathFrom kind (a :: back) ['/', ':'] cs
      | none => pathFrom kind back rev cs
    else pathFrom kind back ((spelled c).reverse ++ rev) cs

/-- The normal form of what follows the first slash of a path. -/
def normalPath (kind : SchemeKind) (cs : List Char) : List Char := (pathFrom kind ['/'] [] cs).reverse

/-- A text that ends in a slash still does with a character in front. -/
theorem getLast?_cons_of_getLast? (c : Char) {back : List Char} (h : back.getLast? = some '/') :
    (c :: back).getLast? = some '/' := by
  cases back with
  | nil => simp at h
  | cons d ds => simpa using h

/-- A text that ends in a slash still does without its first characters up to a slash. -/
theorem getLast?_dropWhile_of_getLast? {back : List Char} (h : back.getLast? = some '/') :
    (back.dropWhile (· != '/')).getLast? = some '/' := by
  induction back with
  | nil => simp at h
  | cons c cs ih =>
    by_cases hc : c = '/'
    · simpa [List.dropWhile_cons, hc] using h
    · cases cs with
      | nil => simp_all
      | cons d ds => simpa [List.dropWhile_cons, hc] using ih (by simpa using h)

/-- Taking segments away leaves the first slash. -/
theorem getLast?_dropSegment {back : List Char} (h : back.getLast? = some '/') :
    (dropSegment back).getLast? = some '/' := by
  unfold dropSegment
  split
  next rest =>
    simp only
    split
    next => exact h
    next hne =>
      cases rest with
      | nil => simp at hne
      | cons d ds => exact getLast?_dropWhile_of_getLast? (by simpa using h)
  next => exact getLast?_dropWhile_of_getLast? h

/-- The end of a segment leaves the first slash of the path. -/
theorem getLast?_endSegment (kind : SchemeKind) {back : List Char} (rev : List Char) (slash : Bool)
    (h : back.getLast? = some '/') : (endSegment kind back rev slash).getLast? = some '/' := by
  unfold endSegment
  simp only
  split
  -- Two dots drop a segment, and the slash at the front is no part of any.
  next =>
    split
    next => exact getLast?_cons_of_getLast? _ (getLast?_dropSegment h)
    next => exact getLast?_dropSegment h
  next =>
    split
    next =>
      split
      next => exact h
      next => exact getLast?_cons_of_getLast? _ h
    next => simp [List.getLast?_append, h]

/-- A path that ended with a slash before its last part ends with one still, since going up never takes the slash in
front. -/
theorem getLast?_pathFrom (kind : SchemeKind) {back : List Char} (rev cs : List Char)
    (h : back.getLast? = some '/') : (pathFrom kind back rev cs).getLast? = some '/' := by
  -- The segments are kept in reverse, so the slash that stands first is the last one here.
  induction cs generalizing back rev with
  | nil => exact getLast?_endSegment kind rev false h
  | cons c cs ih =>
    simp only [pathFrom]
    split
    next => exact getLast?_endSegment kind rev false h
    next =>
      split
      next => exact ih _ (getLast?_endSegment kind rev true h)
      next =>
        split
        next =>
          split
          next => exact ih _ (getLast?_cons_of_getLast? _ h)
          next => exact ih _ h
        next => exact ih _ h

/-- A path starts with a slash. -/
theorem head?_normalPath (kind : SchemeKind) (cs : List Char) : (normalPath kind cs).head? = some '/' := by
  rw [normalPath, List.head?_reverse]
  exact getLast?_pathFrom kind [] cs rfl

/-- A path that no segments are read from. -/
def opaquePath (cs : List Char) : List Char :=
  (cs.takeWhile (!endsPath ·)).flatMap fun c => if isControl c then Escape.escapeChar c else [c]

/-- A path with one slash in front, however many it has. -/
def singleSlash (path : List Char) : List Char := '/' :: path.dropWhile (· == '/')

end HttpService.Url
