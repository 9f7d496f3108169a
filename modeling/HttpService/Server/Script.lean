import HttpService.Message
import HttpService.Error
import HttpService.Json.Printing

/-!
# Scripts

What a handler does with the response of one request: it changes the response and writes it, and then says how
it ended. A handler is a value, so that what a session makes of any handler can be reasoned about.

* `Script.write` goes on with what became of the write, so a handler may let a failed write pass.
* `Script.abandon` starts a write and does not wait for it: what has left by then has left.
-/

namespace HttpService

/-- What a handler does before it comes to a result. -/
inductive Script (α : Type) where
  | finish (result : α)
  | change (f : Response → Response) (next : Script α)
  | write (next : Except Error Unit → Script α)
  | abandon (next : Script α)

namespace Script

variable {α β : Type}

/-- Does what the second script says after the first has come to its result. -/
def andThen (f : α → Script β) : Script α → Script β
  | finish a => f a
  | change g next => change g (next.andThen f)
  | write next => write fun r => (next r).andThen f
  | abandon next => abandon (next.andThen f)

instance : Monad Script where
  pure := finish
  bind s f := s.andThen f

/-- Writes the response. -/
def send : Script (Except Error Unit) := write finish

/-- Makes the response one of JSON. -/
def withJson (status : Status) (body : JsonValue) (r : Response) : Response :=
  { r with status := status, fields := r.fields.insert .contentType .json, body := body.text }

/-- Writes a response of JSON. -/
def sendJson (status : Status) (body : JsonValue) : Script (Except Error Unit) :=
  change (withJson status body) send

/-- The script that fills the response and writes it. -/
def respond (f : Response → Response) : Script (Except Error Unit) := change f send

end Script

end HttpService
