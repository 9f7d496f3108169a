import HttpService.Client.Connecting
import HttpService.Wire.Decoder
import HttpService.Wire.Delivery
import HttpService.Wire.Encoder

/-!
# Exchanges of a client

An exchange sends a request and waits for its response (`ClientSession.exchange`). It is the same on every kind of
stream: a `Carrier` says how octets are sent and how a response is read, and where sending and reading are effects so is
the exchange. Whoever carries it may be left waiting; the session then stays in the middle of its exchange.
-/

namespace HttpService

/-- What carries an exchange on streams of a type. Each action tells how far the stream has come. -/
structure Carrier (m : Type → Type) (σ : Type) where
  /-- Sends octets: what becomes of them, or `none` if the caller did not wait for it. -/
  send : σ → Octets → m (Option Delivery × σ)
  /-- Reads the response to a method, of which these octets have come already: how that ends, or `none` if the caller
  did not wait for it, and the octets that are left. -/
  receive : Method → σ → Octets → m (Option (Ended ResponseHead) × Octets × σ)

namespace ClientSession

variable {σ : Type} {m : Type → Type} [Monad m]

/-- Ends an exchange with what came of it. -/
def settled (s : ClientSession σ) (outcome : Except Error Response) :
    ClientSession σ × List Notice × Returned Response :=
  let (s, notices, result) := s.finish outcome
  (s, notices, some result)

/-- The session on a stream that has come further, with these octets in its buffer. -/
def moved (s : ClientSession σ) (stream : σ) (buffer : Octets) : ClientSession σ :=
  { s with stream := some stream, buffer := buffer }

/-- Ends an exchange by what reading the response has come to. A reader that breaks off leaves the exchange unfinished,
and so does a caller that does not wait. -/
def concluded (s : ClientSession σ) :
    Option (Ended ResponseHead) × Octets × σ → ClientSession σ × List Notice × Returned Response
  | (some (.message head body), buffer, stream) => (s.moved stream buffer).settled (.ok (head.withBody body))
  | (some (.failed e), buffer, stream) => (s.moved stream buffer).settled (.error e)
  | (some .overflowed, buffer, stream) | (none, buffer, stream) => (s.moved stream buffer, [], none)

/-- Sends a request and waits for its response. -/
def exchange (s : ClientSession σ) (c : Carrier m σ) (r : Request) :
    m (ClientSession σ × List Notice × Returned Response) :=
  -- A session that refuses is left as it was.
  match s.begin? r with
  | .error e => return (s, [], some (.error e))
  | .ok (stream, r, s) => do
    match ← c.send stream (Encoder.request r) with
    -- The response was never waited for, so the session stays in the middle of its exchange.
    | (none, stream) => return (s.moved stream s.buffer, [], none)
    | (some d, stream) =>
      match d.error? with
      | some e => return s.settled (.error e)
      | none => return s.concluded (← c.receive r.method stream s.buffer)

/-- Asks so many times, one after the other, up to the first time that fails, and tells each response. -/
def askAll (ask : ClientSession σ → m (ClientSession σ × Returned Response)) (tell : Response → m Unit) :
    Nat → ClientSession σ → m (ClientSession σ × Returned Unit)
  | 0, s => return (s, some (.ok ()))
  | count + 1, s => do
    match ← ask s with
    | (s, some (.ok r)) =>
      tell r
      askAll ask tell count s
    | (s, some (.error e)) => return (s, some (.error e))
    | (s, none) => return (s, none)

end ClientSession

end HttpService
