import HttpService.Octets

/-!
# Request methods

A method is a token, compared octet by octet: `get` is not `GET`. `Method.ofOctets?` accepts exactly the
tokens (`ofOctets?_eq_some_iff`).
-/

namespace HttpService

/-- The method of a request. -/
structure Method where
  /-- The word on the request line. -/
  token : Octets
  isToken : token.isToken = true
deriving DecidableEq

namespace Method

/-- The method named by these octets, if they are a token. -/
def ofOctets? (bs : Octets) : Option Method :=
  if h : bs.isToken = true then some ⟨bs, h⟩ else none

/-- The method named by a text. -/
def ofText? (s : String) : Option Method := ofOctets? (octets s)

/-- A method is its name. -/
theorem ofOctets?_eq_some_iff {bs : Octets} {m : Method} : ofOctets? bs = some m ↔ m.token = bs := by
  unfold ofOctets?
  split
  case isTrue h =>
    refine ⟨fun e => by rw [← Option.some.inj e], fun e => ?_⟩
    subst e
    rfl
  case isFalse h => exact ⟨nofun, fun e => absurd (e ▸ m.isToken) h⟩

/-- The method as text. -/
def text (m : Method) : String := m.token.latin

def get : Method := ⟨octets "GET", by decide⟩
def head : Method := ⟨octets "HEAD", by decide⟩
def post : Method := ⟨octets "POST", by decide⟩
def options : Method := ⟨octets "OPTIONS", by decide⟩
def trace : Method := ⟨octets "TRACE", by decide⟩

/-- A safe method asks for nothing to be changed. -/
def isSafe (m : Method) : Bool := m == get || m == head || m == options || m == trace

end Method

end HttpService
