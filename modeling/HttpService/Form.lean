import HttpService.Text.Pieces
import HttpService.Text.Mended
import HttpService.Url.Escape

/-!
# Forms

Pairs of names and values as the query of an address holds them: `name=value`, with `&` between two pairs. A
blank is written as a plus sign, letters, digits and four marks stand for themselves, and everything else is
escaped. In reading, a pair without `=` has an empty value, and empty stretches between two `&` are no pairs.
-/

namespace HttpService.Form

/-! ## Writing -/

/-- What stands for itself. -/
def isPlain (b : UInt8) : Bool :=
  Octet.isLetter b || Octet.isDigit b || [octet '*', octet '-', octet '.', octet '_'].contains b

/-- One octet of a name or value. -/
def encodeOctet (b : UInt8) : List Char :=
  if b == 32 then ['+'] else if isPlain b then [Char.ofNat b.toNat] else Escape.escapeOctet b

/-- A name or value. -/
def encode (s : String) : String := String.ofList ((octets s).flatMap encodeOctet)

/-- The text of a pair. -/
def pairText (name value : String) : String := encode name ++ "=" ++ encode value

/-! ## Reading -/

/-- A name or value from its written form. -/
def decode (bs : Octets) : String :=
  (Escape.unescape (bs.map fun b => if b == octet '+' then 32 else b)).mended

/-- The pair that a stretch between two `&` holds. -/
def pair (bs : Octets) : String × String :=
  let name := bs.takeWhile (· != octet '=')
  (decode name, decode (bs.drop (name.length + 1)))

/-- The pairs of a query. -/
def pairs (query : String) : List (String × String) :=
  ((pieces (octet '&') (octets query)).filter fun p => !p.isEmpty).map pair

/-- The value of the first pair of a name. -/
def find? (query name : String) : Option String := (pairs query).lookup name

end HttpService.Form
