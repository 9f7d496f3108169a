import HttpService.Octets

/-!
# Field values

The value of a header field: octets without control characters, tabs apart. Values are octets and not text,
since a peer may send any octet above the ASCII range; `FieldValue.shown?` is the value as text where it is
plain ASCII, which is all that the library itself reads.
-/

namespace HttpService

/-- The value of a header field. -/
structure FieldValue where
  content : Octets
  isText : content.all Octet.isFieldText = true
deriving DecidableEq

namespace FieldValue

/-- The value made of these octets, if none is a control character. -/
def ofOctets? (bs : Octets) : Option FieldValue :=
  if h : bs.all Octet.isFieldText = true then some ⟨bs, h⟩ else none

/-- The value made of a text. -/
def ofText? (s : String) : Option FieldValue := ofOctets? (octets s)

/-- The content of a value that is plain ASCII. -/
def shown? (v : FieldValue) : Option Octets :=
  if v.content.all Octet.isShown then some v.content else none

/-- The value as text, where it is plain ASCII. -/
def text? (v : FieldValue) : Option String := v.shown?.map Octets.latin

/-- A value reads as itself. -/
theorem ofOctets?_content (v : FieldValue) : ofOctets? v.content = some v := by
  simp [ofOctets?, v.isText]

def close : FieldValue := ⟨octets "close", by decide⟩
def json : FieldValue := ⟨octets "application/json", by decide⟩

end FieldValue

end HttpService
