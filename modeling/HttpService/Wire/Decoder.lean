import HttpService.Wire.Head
import HttpService.Wire.Framing
import HttpService.Wire.ChunkSize

/-!
# Decoding a message piece by piece

A decoder holds the octets received and not yet used, and the stage of the message that it is in. It goes as
far as the octets reach (`Decoder.advance`) and then wants more; each further arrival (`feed`), the end of the
stream (`atEnd`), a failure (`fault`) or a deadline (`expire`) moves it on. All waiting for the peer happens
between these steps, so a step is also a point at which a reader may be dropped.

* `Form` is what tells requests from responses: how a head is scanned and where a body ends.
* The limits are tested where octets are about to be waited for: a head that is still incomplete and already
  too long is refused, a body is refused as soon as its announced length is too long. A body that lasts to the
  end of the stream is tested after each arrival.
* A chunk is taken only whole, so the octets of an unfinished chunk stay in the buffer.
* A chunk whose end does not fit a 64-bit count is no message and no failure of the peer's: the reader breaks
  off (`Ended.overflowed`). Only a body limit of almost 2^64 lets such a chunk through.
-/

namespace HttpService

/-- The most octets that a head and a body may have. -/
structure Limits where
  head : Nat
  body : Nat
deriving DecidableEq, Repr

/-- The limits in use unless others are set: 16 KiB and 8 MiB. -/
def Limits.standard : Limits := ⟨16 * 1024, 8 * 1024 * 1024⟩

/-- What tells one kind of message from another: its head, and where its body ends. -/
structure Form (H : Type) where
  scan : Scan H
  framing : H → Except MessageFault Framing

/-- The form of a request. -/
def Form.request : Form RequestHead := ⟨Head.requestHead, fun h => Framing.ofRequest h.fields⟩

/-- The form of a response to a method. -/
def Form.response (m : Method) : Form ResponseHead :=
  ⟨Head.responseHead, fun h => Framing.ofResponse m h.status h.fields⟩

/-- What a decoder is waiting for. -/
inductive Stage (H : Type) where
  /-- The rest of a head. -/
  | head
  /-- A body of so many octets. -/
  | sized (head : H) (length : Nat)
  /-- The end of the stream. -/
  | open (head : H)
  /-- A size line, after the body so far. -/
  | chunkSize (head : H) (body : Octets)
  /-- A chunk of so many octets and its line end. -/
  | chunk (head : H) (body : Octets) (size : Nat)
  /-- The fields after the last chunk, and the empty line. -/
  | trailers (head : H) (body : Octets)

/-- A message that is being read. -/
structure Decoder (H : Type) where
  stage : Stage H
  buffer : Octets

/-- How reading a message ends. -/
inductive Ended (H : Type) where
  | message (head : H) (body : String)
  | failed (error : Error)
  | overflowed

/-- Where a step leads: to waiting for more, or to an end with some octets left. -/
inductive Progress (H : Type) where
  | wants (decoder : Decoder H)
  | ended (how : Ended H) (left : Octets)

/-- One more than the largest count of octets. -/
def countBound : Nat := Nat.pow 2 64

namespace Decoder

variable {H : Type}

/-- A message that has not started, after these octets of the connection. -/
def start (buffer : Octets) : Decoder H := ⟨.head, buffer⟩

/-- Breaks off because of the bytes of the message. -/
def refuse (fault : MessageFault) (left : Octets) : Progress H := .ended (.failed (.protocol fault)) left

/-- The message with this body, if the body is text. -/
def finish (head : H) (body left : Octets) : Progress H :=
  match body.text? with
  | some s => .ended (.message head s) left
  | none => refuse .bodyNotText left

/-! ## Bodies -/

/-- A body of a known length: it is taken as soon as it is there. -/
def sized (head : H) (length : Nat) (buffer : Octets) : Progress H :=
  if buffer.length < length then .wants ⟨.sized head length, buffer⟩
  else finish head (buffer.take length) (buffer.drop length)

/-- What is left after the fields that follow the last chunk. -/
inductive Trailers where
  | ended (rest : Octets)
  | unended (line : Octets)

/-- Drops lines up to the first empty one. Of an unfinished line nothing is dropped; `line` is where the
line began and `fresh` says whether it is empty so far. -/
def dropLines (line : Octets) (fresh : Bool) : Octets → Trailers
  | [] => .unended line
  | [_] => .unended line
  | 13 :: 10 :: rest => if fresh then .ended rest else dropLines rest true rest
  | _ :: rest => dropLines line false rest

/-- The end of a body in chunks. -/
def trailers (head : H) (body buffer : Octets) : Progress H :=
  match dropLines buffer true buffer with
  | .ended rest => finish head body rest
  | .unended line => .wants ⟨.trailers head body, line⟩

/-- What comes of a chunk of a known size. -/
inductive ChunkTaken where
  | short
  | unclosed
  | taken (data rest : Octets)

/-- Takes a chunk and the line end after it. -/
def takeChunk (size : Nat) (buffer : Octets) : ChunkTaken :=
  if buffer.length < size + 2 then .short
  else if (buffer.drop size).take 2 = [13, 10] then .taken (buffer.take size) (buffer.drop (size + 2))
  else .unclosed

/-- A chunk that is taken leaves no more than there was, which is why reading chunks ends. -/
theorem length_le_of_takeChunk {size : Nat} {buffer data rest : Octets}
    (h : takeChunk size buffer = .taken data rest) : rest.length ≤ buffer.length := by
  unfold takeChunk at h
  split at h
  next => cases h
  next =>
    split at h
    next =>
      obtain ⟨_, rfl⟩ := ChunkTaken.taken.inj h
      simp only [List.length_drop]
      omega
    next => cases h

/-- Whether a chunk of this size is refused after a body of this length. -/
def isTooMuch (limits : Limits) (body : Octets) (size : Nat) : Bool :=
  limits.body < min (body.length + size) (countBound - 1)

/-- As many chunks as the buffer holds. -/
def chunks (limits : Limits) (head : H) (body buffer : Octets) : Progress H :=
  match _h : ChunkSize.scan buffer with
  | .short => .wants ⟨.chunkSize head body, buffer⟩
  | .failed fault => refuse fault buffer
  | .done size rest =>
    -- The tests come in this order: a last chunk is never too much, and a size that no count holds is looked
    -- at only when the limit lets it through.
    if size = 0 then trailers head body rest
    else if isTooMuch limits body size then refuse (.bodyTooLong limits.body) rest
    else if countBound ≤ size + 2 then .ended .overflowed rest
    else match _h' : takeChunk size rest with
      | .short => .wants ⟨.chunk head body size, rest⟩
      | .unclosed => refuse .chunkWithoutEnd rest
      | .taken data rest' => chunks limits head (body ++ data) rest'
termination_by buffer.length
decreasing_by
  have := ChunkSize.length_lt_of_scan _h
  have := length_le_of_takeChunk _h'
  omega

/-- The body of a message whose head has been read. -/
def body (limits : Limits) (head : H) (framing : Framing) (buffer : Octets) : Progress H :=
  match framing with
  | .none => .ended (.message head "") buffer
  | .length n =>
    if limits.body < n then refuse (.bodyTooLong limits.body) buffer else sized head n buffer
  -- What came with the head is measured at the next arrival or not at all.
  | .untilEnd => .wants ⟨.open head, buffer⟩
  | .chunked => chunks limits head [] buffer

/-! ## Steps -/

/-- Goes as far as the octets at hand reach. -/
def advance (form : Form H) (limits : Limits) (d : Decoder H) : Progress H :=
  match d.stage with
  | .head =>
    match form.scan d.buffer with
    | .done head rest =>
      -- A head that came whole is measured without what follows it.
      if limits.head < d.buffer.length - rest.length then refuse (.headTooLong limits.head) d.buffer
      else match form.framing head with
        | .ok framing => body limits head framing rest
        | .error fault => refuse fault rest
    | .failed fault => refuse fault d.buffer
    | .short =>
      -- An unfinished head is measured with all that has come, since all of it is still the head.
      if limits.head < d.buffer.length then refuse (.headTooLong limits.head) d.buffer else .wants d
  | .sized head length => sized head length d.buffer
  | .open _ => .wants d
  | .chunkSize head body => chunks limits head body d.buffer
  | .chunk head body size =>
    match takeChunk size d.buffer with
    | .short => .wants d
    | .unclosed => refuse .chunkWithoutEnd d.buffer
    | .taken data rest => chunks limits head (body ++ data) rest
  | .trailers head body => trailers head body d.buffer

/-- Takes what has arrived. -/
def feed (form : Form H) (limits : Limits) (d : Decoder H) (arrived : Octets) : Progress H :=
  let buffer := d.buffer ++ arrived
  match d.stage with
  | .open head =>
    -- Only what arrives is measured: the end of the stream brings nothing.
    if limits.body < buffer.length then refuse (.bodyTooLong limits.body) buffer
    else .wants ⟨.open head, buffer⟩
  | stage => advance form limits ⟨stage, buffer⟩

/-- What the end of the stream makes of the message: a body without a length is complete, before the first
octet there is no message, and anywhere else the message is truncated. -/
def atEnd (d : Decoder H) : Progress H :=
  match d.stage with
  | .head =>
    .ended (.failed (if d.buffer.isEmpty then .endOfStream else .io .truncated)) d.buffer
  | .open head => finish head d.buffer []
  | _ => .ended (.failed (.io .truncated)) d.buffer

/-- A failure of the connection. -/
def fault (d : Decoder H) (cause : TransportFault) : Progress H := .ended (.failed (.io cause)) d.buffer

/-- The end of the time for reading. -/
def expire (d : Decoder H) : Progress H := .ended (.failed (.timeout .read)) d.buffer

end Decoder

end HttpService
