import HttpService.Status
import HttpService.Target

/-!
# Failures

Everything that can go wrong, as causes; `Error.message` is the one place that puts them into words.

* A `TransportFault` comes from the connection: its kind decides how it is treated, its text is only shown.
* A `MessageFault` says what is wrong with the bytes of a message, a `RouteFault` what is wrong with a route.
* `Error.isPeerClosed` holds of the failures that mean "the peer went away" and nothing else: a clean end
  between messages, a truncated message, a reset and an abort (`isPeerClosed_iff`).
-/

namespace HttpService

/-- What kind of failure a connection reports. -/
inductive FaultKind where
  | notFound
  | permissionDenied
  | connectionRefused
  | connectionReset
  | hostUnreachable
  | networkUnreachable
  | connectionAborted
  | notConnected
  | addressInUse
  | addressNotAvailable
  | networkDown
  | brokenPipe
  | alreadyExists
  | wouldBlock
  | invalidInput
  | invalidData
  | timedOut
  | writeZero
  | interrupted
  | unsupported
  | unexpectedEnd
  | outOfMemory
  | other
deriving DecidableEq, Repr

/-- The kind in words, where the connection says no more. -/
def FaultKind.description : FaultKind → String
  | .notFound => "entity not found"
  | .permissionDenied => "permission denied"
  | .connectionRefused => "connection refused"
  | .connectionReset => "connection reset"
  | .hostUnreachable => "host unreachable"
  | .networkUnreachable => "network unreachable"
  | .connectionAborted => "connection aborted"
  | .notConnected => "not connected"
  | .addressInUse => "address in use"
  | .addressNotAvailable => "address not available"
  | .networkDown => "network down"
  | .brokenPipe => "broken pipe"
  | .alreadyExists => "entity already exists"
  | .wouldBlock => "operation would block"
  | .invalidInput => "invalid input parameter"
  | .invalidData => "invalid data"
  | .timedOut => "timed out"
  | .writeZero => "write zero"
  | .interrupted => "operation interrupted"
  | .unsupported => "unsupported"
  | .unexpectedEnd => "unexpected end of file"
  | .outOfMemory => "out of memory"
  | .other => "other error"

/-- A failure of a connection. -/
structure TransportFault where
  kind : FaultKind
  text : String
deriving DecidableEq, Repr

/-- The failure of a kind of which no more is known. -/
def FaultKind.fault (k : FaultKind) : TransportFault := ⟨k, k.description⟩

/-- The peer stopped sending inside a message. -/
def TransportFault.truncated : TransportFault := ⟨.unexpectedEnd, "connection closed mid-message"⟩

/-- What an operation was doing when its time ran out. -/
inductive Phase where
  | resolve
  | connect
  | read
  | write
  | wait
deriving DecidableEq, Repr

/-- The phase in words. -/
def Phase.text : Phase → String
  | .resolve => "resolve"
  | .connect => "connect"
  | .read => "read"
  | .write => "write"
  | .wait => "wait"

/-- What is wrong with the bytes of a message. -/
inductive MessageFault where
  | badToken
  | badVersion
  | badNewLine
  | badStatusLine
  | badFieldName
  | badFieldValue
  | tooManyFields
  | longFieldName
  | badTarget (fault : TargetFault)
  | statusOutOfRange
  | headTooLong (limit : Nat)
  | bodyTooLong (limit : Nat)
  | badContentLength
  | badChunkSize
  | chunkWithoutEnd
  | bodyNotText
  | badHost (name : String)
  | described (text : String)
deriving DecidableEq, Repr

/-- The fault in words. -/
def MessageFault.message : MessageFault → String
  | .badToken => "invalid token"
  | .badVersion => "invalid HTTP version"
  | .badNewLine => "invalid new line"
  | .badStatusLine => "invalid response status"
  | .badFieldName => "invalid header name"
  | .badFieldValue => "invalid header value"
  | .tooManyFields => "too many headers"
  | .longFieldName => "invalid HTTP header name"
  | .badTarget fault => fault.message
  | .statusOutOfRange => "invalid status code"
  | .headTooLong limit => s!"message head exceeds {limit} bytes"
  | .bodyTooLong limit => s!"message body exceeds {limit} bytes"
  | .badContentLength => "invalid content-length"
  | .badChunkSize => "invalid chunk size"
  | .chunkWithoutEnd => "chunk missing trailing CRLF"
  | .bodyNotText => "body is not valid UTF-8"
  | .badHost name => s!"invalid host '{name}'"
  | .described text => text

/-- What is wrong with a route or a table of routes. -/
inductive RouteFault where
  | badVerb (verb path : String)
  | noPaths
  | described (text : String)
deriving DecidableEq, Repr

/-- The fault in words. -/
def RouteFault.message : RouteFault → String
  | .badVerb verb path => s!"{verb} {path}: bad verb"
  | .noPaths => "document has no paths object"
  | .described text => text

/-- A failure of the library's operations. -/
inductive Error where
  | resolve (host : String) (cause : TransportFault)
  | noAddress (host : String)
  | connect (cause : TransportFault)
  | io (cause : TransportFault)
  | timeout (phase : Phase)
  | endOfStream
  | protocol (fault : MessageFault)
  | notConnected
  | status (status : Status) (body : String)
  | resourceExhausted
  | sessionBusy
  | semaphoreOverflow (max : Nat)
  | invalidInitialPermits (requested max : Nat)
  | responseNotWritten
  | unknownHandler (name : String)
  | invalidRoute (fault : RouteFault)
  | handler (text : String)
deriving DecidableEq

namespace Error

/-- The failure in words. -/
def message : Error → String
  | .resolve host cause => s!"failed to resolve {host}: {cause.text}"
  | .noAddress host => s!"no address resolved for {host}"
  | .connect cause => s!"failed to connect: {cause.text}"
  | .io cause => s!"i/o error: {cause.text}"
  | .timeout phase => s!"{phase.text} timed out"
  | .endOfStream => "end of stream"
  | .protocol fault => s!"malformed http message: {fault.message}"
  | .notConnected => "session is not connected"
  | .status code _ => s!"http status {code.text}"
  | .resourceExhausted => "insufficient resources"
  | .sessionBusy => "a request is already in flight on this session"
  | .semaphoreOverflow max => s!"semaphore released beyond its maximum of {max}"
  | .invalidInitialPermits requested max => s!"initial permit count {requested} exceeds maximum {max}"
  | .responseNotWritten => "handler returned without writing a response"
  | .unknownHandler name => s!"route table references unknown handler '{name}'"
  | .invalidRoute fault => s!"invalid route: {fault.message}"
  | .handler text => s!"handler failed: {text}"

/-- The name of the failure's kind, as reports and logs show it. -/
def kindName : Error → String
  | .resolve .. => "Resolve"
  | .noAddress _ => "NoAddress"
  | .connect _ => "Connect"
  | .io _ => "Io"
  | .timeout _ => "Timeout"
  | .endOfStream => "EndOfStream"
  | .protocol _ => "Protocol"
  | .notConnected => "NotConnected"
  | .status .. => "Status"
  | .resourceExhausted => "ResourceExhausted"
  | .sessionBusy => "SessionBusy"
  | .semaphoreOverflow _ => "SemaphoreOverflow"
  | .invalidInitialPermits .. => "InvalidInitialPermits"
  | .responseNotWritten => "ResponseNotWritten"
  | .unknownHandler _ => "UnknownHandler"
  | .invalidRoute _ => "InvalidRoute"
  | .handler _ => "Handler"

/-- The status that a failure carries. -/
def status? : Error → Option Status
  | .status code _ => some code
  | _ => none

/-- Whether a deadline passed. -/
def isTimeout : Error → Bool
  | .timeout _ => true
  | _ => false

/-- The failure of the connection underneath. -/
def cause? : Error → Option TransportFault
  | .resolve _ cause | .connect cause | .io cause => some cause
  | _ => none

/-- Whether the peer ended the connection, rather than something having failed on this side. -/
def isPeerClosed : Error → Bool
  | .endOfStream => true
  | .io cause =>
    cause.kind == .unexpectedEnd || cause.kind == .connectionReset || cause.kind == .connectionAborted
  | _ => false

/-- The peer closed at the end of the stream, by truncation, by a reset or by an abort. -/
theorem isPeerClosed_iff (e : Error) :
    e.isPeerClosed = true ↔
      e = .endOfStream ∨ ∃ cause, e = .io cause ∧
        cause.kind ∈ [FaultKind.unexpectedEnd, .connectionReset, .connectionAborted] := by
  cases e <;> simp [isPeerClosed, or_assoc]

end Error

end HttpService
