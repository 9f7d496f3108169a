import HttpService.Text.Pieces
import HttpService.Method
import HttpService.Version
import HttpService.Status
import HttpService.Target
import HttpService.Header.Fields

/-!
# Messages

A request or response as the rest of the library sees it: its body is text and is complete.
`wantsClose` is the one rule by which both ends of a connection learn that a message is the last.
-/

namespace HttpService

/-- A request. -/
structure Request where
  method : Method
  target : Target
  version : Version
  fields : Fields
  body : String
deriving DecidableEq

/-- A response. -/
structure Response where
  status : Status
  version : Version
  fields : Fields
  body : String
deriving DecidableEq

/-- An empty response of status 200. -/
def Response.blank : Response := ⟨.ok, .http11, .empty, ""⟩

/-! ## Building from text -/

/-- Why some texts make no message. -/
inductive BuildFault where
  | badMethod
  | badTarget (fault : TargetFault)
  | badFieldName
  | badFieldValue
  | badStatus
deriving DecidableEq, Repr

/-- The fault in words. -/
def BuildFault.message : BuildFault → String
  | .badMethod => "invalid HTTP method"
  | .badTarget fault => fault.message
  | .badFieldName => "invalid HTTP header name"
  | .badFieldValue => "failed to parse header value"
  | .badStatus => "invalid status code"

/-- The method of this text. -/
def Method.build (s : String) : Except BuildFault Method := (ofText? s).elim (.error .badMethod) .ok

/-- The target of this text. -/
def Target.build (s : String) : Except BuildFault Target := (parse s).mapError .badTarget

/-- The status of this number. -/
def Status.build (n : Nat) : Except BuildFault Status := (ofNat? n).elim (.error .badStatus) .ok

/-- These names with their values, appended one after the other. -/
def Fields.build (hs : Fields) (ls : List (String × Octets)) : Except BuildFault Fields :=
  ls.foldlM (fun hs l => do
    let n ← (FieldName.ofText? l.1).elim (.error .badFieldName) .ok
    let v ← (FieldValue.ofOctets? l.2).elim (.error .badFieldValue) .ok
    return hs.append n v) hs

/-- The request of these texts. -/
def Request.build (method target : String) (version : Version) (fields : List (String × Octets))
    (body : String) : Except BuildFault Request := do
  let method ← Method.build method
  let target ← Target.build target
  return ⟨method, target, version, ← Fields.empty.build fields, body⟩

/-- The response of these parts. -/
def Response.build (status : Nat) (version : Version) (fields : List (String × Octets)) (body : String) :
    Except BuildFault Response := do
  let status ← Status.build status
  return ⟨status, version, ← Fields.empty.build fields, body⟩

/-! ## Closing -/

/-- The words of the fields of one name: their values split at commas, without surrounding blanks. Values
that are not plain ASCII hold no words. -/
def Fields.words (hs : Fields) (n : FieldName) : List Octets :=
  (hs.valuesOf n).filterMap FieldValue.shown? |>.flatMap fun v =>
    (pieces (octet ',') v).map Octets.trimBlanks

/-- Whether the sender of a message with this version and these fields closes the connection after it: it
says so, or speaks a version that closes unless it asks to keep the connection. -/
def wantsClose (version : Version) (fields : Fields) : Bool :=
  let words := fields.words .connection
  words.any (Octets.sameLetters (octets "close")) ||
    (version == .http10 && !words.any (Octets.sameLetters (octets "keep-alive")))

end HttpService
