import HttpService.Wire.Decoder

/-!
# Reading messages from a stream

A stream is the list of what its reads bring: octets or a failure, and after the last of them the end, for
ever. A read that brings no octets is the end as well. `read` reads one message and returns it together with
the octets left in the connection's buffer and the reads left on the stream, so that the next message is read
from there (`readMany`).

`Reader.splitReads` cuts what a peer sends into reads of at most `readSize` octets.
-/

namespace HttpService

/-- What one read of a stream brings. -/
inductive Read where
  | data (arrived : Octets)
  | failed (cause : TransportFault)
  /-- Nothing, until the time for reading was over. -/
  | late
deriving DecidableEq

/-- How many octets a read brings. -/
def Read.size : Read → Nat
  | .data arrived => arrived.length
  | .failed _ | .late => 0

/-- How reading one message from a stream ends. -/
structure ReadResult (H : Type) where
  how : Ended H
  /-- The octets received and not used. -/
  buffer : Octets
  /-- What the stream still brings. -/
  reads : List Read

namespace Reader

/-- The most octets that one read brings. -/
def readSize : Nat := 8192

/-- Stretches of at most `size` octets, the last of them possibly shorter. -/
def stretches (size : Nat) (fuel : Nat) (bs : Octets) : List Octets :=
  match fuel with
  | 0 => [bs]
  | fuel + 1 => if bs.length ≤ size then [bs] else bs.take size :: stretches size fuel (bs.drop size)

/-- The reads that bring what was sent at once. -/
def splitReads (sent : Octets) : List Read := (stretches readSize sent.length sent).map .data

variable {H : Type}

/-- What a read makes of a message. -/
def receive (form : Form H) (limits : Limits) (d : Decoder H) : Read → Progress H
  | .data [] => d.atEnd
  | .data arrived => d.feed form limits arrived
  | .failed cause => d.fault cause
  | .late => d.expire

/-- Reads on from a step of a decoder while there are reads and the message is not at its end. -/
def readSome (form : Form H) (limits : Limits) : Progress H → List Read → Progress H × List Read
  | .ended how left, reads => (.ended how left, reads)
  | .wants d, [] => (.wants d, [])
  | .wants d, r :: reads => readSome form limits (receive form limits d r) reads

/-- Reads on from a step of a decoder. At the end of the stream the step that follows is the last. -/
def readOn (form : Form H) (limits : Limits) : Progress H → List Read → ReadResult H
  | .ended how left, reads => ⟨how, left, reads⟩
  -- The stream has ended, and whatever the decoder still wants will not come.
  | .wants d, [] =>
    match d.atEnd with
    | .ended how left => ⟨how, left, []⟩
    | .wants d => ⟨.failed (.io .truncated), d.buffer, []⟩
  | .wants d, r :: reads => readOn form limits (receive form limits d r) reads

/-- Reads one message. -/
def read (form : Form H) (limits : Limits) (buffer : Octets) (reads : List Read) : ReadResult H :=
  readOn form limits ((Decoder.start buffer).advance form limits) reads

/-- Reads one message of each form, whatever became of those before it. -/
def readMany (limits : Limits) : List (Form H) → Octets → List Read → List (ReadResult H)
  | [], _, _ => []
  | form :: forms, buffer, reads =>
    let r := read form limits buffer reads
    r :: readMany limits forms r.buffer r.reads

/-- The end of a stream ends every message. -/
theorem exists_atEnd (d : Decoder H) : ∃ how left, d.atEnd = .ended how left := by
  unfold Decoder.atEnd Decoder.finish Decoder.refuse
  split
  · exact ⟨_, _, rfl⟩
  · split <;> exact ⟨_, _, rfl⟩
  · exact ⟨_, _, rfl⟩

end Reader

end HttpService
