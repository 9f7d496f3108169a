import HttpService.Client.Exchange
import HttpService.Wire.Reader

/-!
# Calls on a client session

What each call makes of a session, on connections of which it is given what they bring and what becomes of the
writes (`Link`). A caller may give up an exchange wherever it would wait (`Patience`): while the request is being
written, or after some reads of the response. What has left by then has left, and what has arrived stays in the
buffer.
-/

namespace HttpService

/-- A connection as its user meets it: what its reads bring and what becomes of its writes. -/
structure Link where
  reads : List Read
  out : Outgoing

/-- How long a caller waits for an exchange. -/
inductive Patience where
  | endless
  /-- Until so many octets of the request have left. -/
  | writing (count : Nat)
  /-- Until the stream has been read so often. -/
  | reading (count : Nat)
deriving DecidableEq, Repr

namespace Link

/-- Sends octets. A caller that gives up meanwhile has sent those that had left. -/
def send (link : Link) (patience : Patience) (bs : Octets) : Option Delivery × Link :=
  match patience with
  | .writing count => (none, { link with out := { link.out with sent := link.out.sent ++ bs.take count } })
  | _ =>
    let (d, out) := (Outgoing.send bs).run link.out
    (some d, { link with out })

/-- Reads the response to a method. -/
def receiveAll (link : Link) (limits : Limits) (m : Method) (buffer : Octets) :
    Option (Ended ResponseHead) × Octets × Link :=
  let r := Reader.read (.response m) limits buffer link.reads
  (some r.how, r.buffer, { link with reads := r.reads })

/-- Reads the response to a method until the stream has been read `count` times. -/
def receiveUntil (link : Link) (limits : Limits) (m : Method) (buffer : Octets) (count : Nat) :
    Option (Ended ResponseHead) × Octets × Link :=
  let begun := (Decoder.start buffer).advance (.response m) limits
  match Reader.readSome (.response m) limits begun (link.reads.take count) with
  | (.wants d, _) =>
    -- With fewer reads left than the caller would wait for, the end of the stream comes first.
    if count ≤ link.reads.length then (none, d.buffer, { link with reads := link.reads.drop count })
    else link.receiveAll limits m buffer
  | _ => link.receiveAll limits m buffer

/-- The carrier of an exchange on connections of which it is given what they bring. -/
def carrier (limits : Limits) (patience : Patience) : Carrier Id Link where
  send link bs := link.send patience bs
  receive m link buffer :=
    match patience with
    | .reading count => link.receiveUntil limits m buffer count
    | _ => link.receiveAll limits m buffer

end Link

/-- A call on a session. -/
inductive ClientCall where
  | start (host : String) (port : UInt16) (lookup : Lookup (Address × Attempt Link))
  | startAddress (address : Address) (attempt : Attempt Link)
  | submit (request : Request) (patience : Patience)
  | get (target : String) (patience : Patience)
  | stop (failure : Option TransportFault)

namespace ClientSession

/-- What a call leads to: the session after it, what is recorded, and what the caller is told. -/
abbrev Outcome (α : Type) := ClientSession Link × List Notice × Returned α

/-- Sends a request and waits for its response. -/
def submit (s : ClientSession Link) (limits : Limits) (r : Request) (patience : Patience) : Outcome Response :=
  s.exchange (m := Id) (Link.carrier limits patience) r

/-- Asks for a target and waits for the response. -/
def get (s : ClientSession Link) (limits : Limits) (target : String) (patience : Patience) : Outcome Response :=
  match getRequest target with
  | .ok r => s.submit limits r patience
  | .error e => (s, [], some (.error e))

/-- Ends the connection, which is lost even if ending it fails. -/
def stop (s : ClientSession Link) (failure : Option TransportFault) : Outcome Unit :=
  (s.reset, [], some (match s.stream, failure with
    | some _, some cause => .error (.io cause)
    | _, _ => .ok ()))

end ClientSession

namespace ClientCall

/-- The session after a call. -/
def perform (limits : Limits) (s : ClientSession Link) : ClientCall → ClientSession Link
  | start host port lookup => (s.start (m := Id) host port lookup).1
  | startAddress a attempt => (s.startAddress (m := Id) a attempt).1
  | submit r patience => (s.submit limits r patience).1
  | get target patience => (s.get limits target patience).1
  | stop failure => (s.stop failure).1

/-- The session after some calls. -/
def performAll (limits : Limits) (s : ClientSession Link) (calls : List ClientCall) : ClientSession Link :=
  calls.foldl (perform limits) s

end ClientCall

end HttpService
