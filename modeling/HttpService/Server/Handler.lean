import HttpService.Address
import HttpService.Route.Router
import HttpService.Server.Exchange
import HttpService.SessionId

/-!
# Handlers

A handler says what is done for a request that was routed to it. A request that is routed to none is answered
by `unrouted`: its path is not found when no method is routed there, and otherwise its method is not allowed and
the methods that are get listed.
-/

namespace HttpService

/-- A request as its handler sees it. -/
structure Visit where
  session : SessionId
  peer : Address
  requestId : RequestId
  request : Request
  /-- The segments that the wildcards of the route stand for. -/
  wildcards : List Segment

/-- What is done for a request. -/
abbrev Handler := Visit → Script (Except Error Unit)

/-- The handler that fills the response from the request and writes it. -/
def Handler.filling (f : Request → Response → Response) : Handler := fun v => Script.respond (f v.request)

/-- The body of the answer to a request that no handler is for. -/
def refusal (title : String) (m : Method) (path : String) : JsonValue :=
  .ofMembers [("error", .string title), ("method", .string m.text), ("path", .string path)]

/-- The answer to a request that no handler is for. -/
def unrouted {η : Type} (router : Router η) (m : Method) (path : String) : Script (Except Error Unit) :=
  match router.allowedMethods path with
  | [] => Script.sendJson .notFound (refusal "Not Found" m path)
  | allowed =>
    .change (fun r => { r with fields := r.fields.insertText .allow (", ".intercalate (allowed.map Method.text)) })
      (Script.sendJson .methodNotAllowed (refusal "Method Not Allowed" m path))

end HttpService
