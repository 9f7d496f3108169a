import HttpService.Message
import HttpService.Error
import HttpService.Text.Blank
import HttpService.Text.Decimal

/-!
# Where a body ends

The fields of a message say where its body ends: after a number of octets, with the last chunk, or with the
stream. Chunks win over a number, and of several numbers the first counts. What the fields leave open
differs by the message: a request that says nothing has no body, a response has one that lasts to the end of
the stream, unless its status or the request's method forbids a body.
-/

namespace HttpService

/-- Where a body ends. -/
inductive Framing where
  | none
  | length (n : Nat)
  | chunked
  | untilEnd
deriving DecidableEq, Repr

namespace Framing

/-- Whether the fields announce chunks: some plain value of the field contains the word. -/
def announcesChunks (hs : Fields) : Bool :=
  (hs.valuesOf .transferEncoding).filterMap FieldValue.shown? |>.any fun v =>
    (octets "chunked").hasInfix v.lower

/-- The number of octets that a value announces. -/
def length? (v : FieldValue) : Option Nat :=
  v.text?.bind fun s => Decimal.readBelow? Decimal.bound64 (Text.trim s)

/-- What the fields say of the body. -/
def ofFields (hs : Fields) : Except MessageFault Framing :=
  -- A length beside chunks is not even read, so it may be no number.
  if announcesChunks hs then .ok .chunked
  else match hs.get? .contentLength with
    | Option.none => .ok .untilEnd
    | some v =>
      match length? v with
      | Option.none => .error .badContentLength
      -- Nothing has to be waited for.
      | some 0 => .ok .none
      | some n => .ok (.length n)

/-- Where the body of a request ends. -/
def ofRequest (hs : Fields) : Except MessageFault Framing :=
  (ofFields hs).map fun f => if f = .untilEnd then .none else f

/-- Whether a response to this method with this status may have a body. -/
def allowsBody (m : Method) (s : Status) : Bool :=
  !(m == .head || s.isInterim || s == .noContent || s == .notModified)

/-- Where the body of a response to this method ends. -/
def ofResponse (m : Method) (s : Status) (hs : Fields) : Except MessageFault Framing :=
  if allowsBody m s then ofFields hs else .ok .none

end Framing

end HttpService
