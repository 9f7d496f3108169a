import HttpService.Message
import HttpService.Wire.Scan

/-!
# Heads of messages

The first line and the fields of a message, up to and with the empty line.

* A head is judged by its form first and by its meaning only when all of it has arrived: a target that names
  nothing or a status of two digits is found after the last field (`requestHead`, `responseHead`).
* A line may end in LF alone. Empty lines before the first line are skipped, and a folded line is a fault.
* At most `maxFields` fields are taken.
-/

namespace HttpService

/-- What comes before the body of a request. -/
structure RequestHead where
  method : Method
  target : Target
  version : Version
  fields : Fields
deriving DecidableEq

/-- What comes before the body of a response. -/
structure ResponseHead where
  status : Status
  version : Version
  fields : Fields
deriving DecidableEq

/-- The request with this head and body. -/
def RequestHead.withBody (h : RequestHead) (body : String) : Request :=
  ⟨h.method, h.target, h.version, h.fields, body⟩

/-- The response with this head and body. -/
def ResponseHead.withBody (h : ResponseHead) (body : String) : Response :=
  ⟨h.status, h.version, h.fields, body⟩

namespace Head

/-- The most fields that a head may have. -/
def maxFields : Nat := 64

/-- A field as it stands on its line. -/
structure Line where
  name : Octets
  value : Octets
deriving DecidableEq

/-! ## The first line -/

/-- Skips empty lines. -/
def skipEmptyLines : Scan Unit
  | [] => .short
  | 10 :: bs => skipEmptyLines bs
  -- A lone CR cannot be told from CR LF before the next octet is here.
  | [13] => .short
  | 13 :: 10 :: bs => skipEmptyLines bs
  | 13 :: _ :: _ => .failed .badNewLine
  | bs => .done () bs

/-- What may stand in a target: anything visible, and octets above the ASCII range. -/
def isTargetOctet (b : UInt8) : Bool := 32 < b && b != 127

/-- A word of some octets with the space that ends it. -/
def word (p : UInt8 → Bool) : Scan Octets := do
  let w ← Scan.run p
  let b ← Scan.next
  if b == 32 && !w.isEmpty then return w else Scan.fail .badToken

/-- A target with the space that ends it; it has to be text. -/
def targetText : Scan String := do
  let w ← word isTargetOctet
  match w.text? with
  | some s => return s
  | none => Scan.fail .badToken

/-- Octets that have to come in this order. -/
def expectAll (fault : MessageFault) : Octets → Scan Unit
  | [] => return ()
  | b :: bs => do
    Scan.expect b fault
    expectAll fault bs

/-- A version. -/
def version : Scan Version := do
  expectAll .badVersion (octets "HTTP/1.")
  let b ← Scan.next
  if b == octet '0' then return .http10
  else if b == octet '1' then return .http11
  else Scan.fail .badVersion

/-- A decimal digit of a status. -/
def statusDigit : Scan Nat := do
  let b ← Scan.next
  if Octet.isDigit b then return b.toNat - 48 else Scan.fail .badStatusLine

/-- The number of a status. -/
def statusNumber : Scan Nat := do
  let a ← statusDigit
  let b ← statusDigit
  let c ← statusDigit
  return a * 100 + b * 10 + c

/-- The end of a status line, with the phrase if there is one. -/
def statusEnd : Scan Unit := do
  let b ← Scan.next
  if b == 32 then
    let _ ← Scan.run Octet.isFieldText
    Scan.lineEnd .badStatusLine .badStatusLine
  -- Without a phrase the space before it may be missing too.
  else if b == 13 then Scan.expect 10 .badStatusLine
  else if b == 10 then return ()
  else Scan.fail .badStatusLine

/-! ## Fields -/

/-- The line of a field whose name starts with `b`. -/
def fieldLine (b : UInt8) : Scan Line := do
  if !Octet.isToken b then Scan.fail .badFieldName
  else
    let name ← Scan.run Octet.isToken
    Scan.expect (octet ':') .badFieldName
    let _ ← Scan.run Octet.isBlank
    let value ← Scan.run Octet.isFieldText
    Scan.lineEnd .badFieldValue .badFieldValue
    return ⟨b :: name, value.trimBlanks⟩

/-- The lines of at most so many fields, and the empty line. -/
def fieldLines (slots : Nat) : Scan (List Line) := do
  let b ← Scan.next
  if b == 13 then
    Scan.expect 10 .badNewLine
    return []
  else if b == 10 then return []
  else
    -- The line is read before it is counted: a fault in the line too many is a fault of its form.
    let line ← fieldLine b
    match slots with
    | 0 => Scan.fail .tooManyFields
    | slots + 1 =>
      let lines ← fieldLines slots
      return line :: lines

/-- The fields that the lines name, if each name and value is one. -/
def collect (lines : List Line) : Except MessageFault Fields :=
  lines.foldlM (fun hs l =>
    match FieldName.ofOctets? l.name, FieldValue.ofOctets? l.value with
    | some n, some v => .ok (hs.append n v)
    | none, _ => .error .longFieldName
    | _, none => .error .badFieldValue) Fields.empty

/-! ## Whole heads -/

/-- A value, or the fault that came instead. -/
def settle {α : Type} : Except MessageFault α → Scan α
  | .ok a => return a
  | .error fault => Scan.fail fault

/-- The head of a request. -/
def requestHead : Scan RequestHead := do
  skipEmptyLines
  let token ← word Octet.isToken
  let text ← targetText
  let version ← version
  Scan.lineEnd .badNewLine .badNewLine
  let lines ← fieldLines maxFields
  -- From here on everything has arrived, and what the words mean is looked at.
  let method ← settle ((Method.ofOctets? token).elim (.error .badToken) .ok)
  let target ← settle ((Target.parse text).mapError .badTarget)
  let fields ← settle (collect lines)
  return ⟨method, target, version, fields⟩

/-- The head of a response. -/
def responseHead : Scan ResponseHead := do
  skipEmptyLines
  let version ← version
  Scan.expect 32 .badVersion
  let number ← statusNumber
  statusEnd
  let lines ← fieldLines maxFields
  -- From here on everything has arrived, and what the words mean is looked at.
  let status ← settle ((Status.ofNat? number).elim (.error .statusOutOfRange) .ok)
  let fields ← settle (collect lines)
  return ⟨status, version, fields⟩

end Head

end HttpService
