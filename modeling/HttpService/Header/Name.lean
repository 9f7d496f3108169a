import HttpService.Octets

/-!
# Field names

The name of a header field: a token without capitals, since names are compared without regard to case.
`FieldName.ofOctets?` reads a name in any case and keeps its small form.
-/

namespace HttpService

/-- The longest name that a field may have. -/
def FieldName.maxLength : Nat := 65535

/-- A field's name as it is kept: a token in small letters. -/
def Octets.isFieldName (bs : Octets) : Bool :=
  bs.isToken && bs.all (fun b => !Octet.isUpper b) && bs.length ≤ FieldName.maxLength

/-- The name of a header field. -/
structure FieldName where
  token : Octets
  isName : token.isFieldName = true
deriving DecidableEq

namespace FieldName

/-- The name that these octets spell in any case. -/
def ofOctets? (bs : Octets) : Option FieldName :=
  if h : bs.lower.isFieldName = true then some ⟨bs.lower, h⟩ else none

/-- The name that a text spells. -/
def ofText? (s : String) : Option FieldName := ofOctets? (octets s)

/-- The name as text. -/
def text (n : FieldName) : String := n.token.latin

/-- Names that are already small are left as they are, which makes comparing names comparing octets. -/
theorem lower_eq_self {bs : Octets} (h : bs.all (fun b => !Octet.isUpper b) = true) : bs.lower = bs := by
  induction bs with
  | nil => rfl
  | cons b bs ih =>
    simp only [List.all_cons, Bool.and_eq_true, Bool.not_eq_true'] at h
    simp only [Octets.lower, List.map_cons, Octet.lower, h.1, Bool.false_eq_true, if_false] at ih ⊢
    rw [ih h.2]

/-- A name reads as itself. -/
theorem ofOctets?_token (n : FieldName) : ofOctets? n.token = some n := by
  have hn := n.isName
  have hl : n.token.lower = n.token := by
    simp only [Octets.isFieldName, Bool.and_eq_true] at hn
    exact lower_eq_self hn.1.2
  simp [ofOctets?, hl, hn]

def connection : FieldName := ⟨octets "connection", by decide⟩
def contentLength : FieldName := ⟨octets "content-length", by decide⟩
def contentType : FieldName := ⟨octets "content-type", by decide⟩
def transferEncoding : FieldName := ⟨octets "transfer-encoding", by decide⟩
def host : FieldName := ⟨octets "host", by decide⟩
def allow : FieldName := ⟨octets "allow", by decide⟩
def requestId : FieldName := ⟨octets "x-request-id", by decide⟩

end FieldName

end HttpService
