import HttpService.Message
import HttpService.Error
import HttpService.Text.Decimal
import HttpService.Wire.Framing

/-!
# Writing messages

The octets of a message. The length of the body is always written, last among the fields and from the body
itself; fields of the message that speak of its framing are left out. A response to HEAD is written without
its body but with its length.
-/

namespace HttpService

namespace Encoder

/-- A line end. -/
def lineEnd : Octets := [13, 10]

/-- Whether a field speaks of the framing of the message. -/
def isFraming (n : FieldName) : Bool := n == .contentLength || n == .transferEncoding

/-- A field on its line. -/
def fieldLine (n : FieldName) (v : FieldValue) : Octets :=
  n.token ++ octets ": " ++ v.content ++ lineEnd

/-- The lines of the fields, the length of the body, and the empty line. -/
def fieldLines (hs : Fields) (length : Nat) : Octets :=
  (hs.lines.filter fun l => !isFraming l.1).flatMap (fun l => fieldLine l.1 l.2) ++
    octets "content-length: " ++ octets (Decimal.text length) ++ lineEnd ++ lineEnd

/-- The octets of a request. -/
def request (r : Request) : Octets :=
  r.method.token ++ [32] ++ octets r.target.requestText ++ [32] ++ octets r.version.text ++ lineEnd ++
    fieldLines r.fields (octets r.body).length ++ octets r.body

/-- The octets of a response to a method. -/
def response (r : Response) (m : Method) : Octets :=
  octets r.version.text ++ [32] ++ octets (Decimal.text r.status.code) ++ [32] ++
    octets (r.status.reason?.getD "") ++ lineEnd ++
    fieldLines r.fields (octets r.body).length ++ (if m = .head then [] else octets r.body)

end Encoder

end HttpService
