import HttpService.Form
import HttpService.Server.Handler

/-!
# The echo service

A service that answers with the message it was sent: the body of a POST, or else the `message` of the query. The
answer is an object of JSON; where the route has wildcards it lists the segments that they stood for.
-/

namespace HttpService.Echo

/-- The path of the service. -/
def path : String := "/v1/echo"

/-- The name of the message in a query. -/
def messageName : String := "message"

/-- The message of a request. -/
def message (r : Request) : String :=
  if r.method = .post ∧ r.body ≠ "" then r.body
  else (r.target.query.bind fun q => Form.find? q messageName).getD ""

/-- The answer to a message. -/
def answer (message : String) (wildcards : List Segment) : JsonValue :=
  let segments := if wildcards.isEmpty then [] else [("segments", .array (wildcards.map .string))]
  .ofMembers ((messageName, .string message) :: segments)

/-- The handler of the service. -/
def handler : Handler := fun v => Script.sendJson .ok (answer (message v.request) v.wildcards)

/-- The name of the handler in a routing table. -/
def handlerName : String := "echo"

/-- The routes of the service. -/
def routes : List RouteEntry :=
  [⟨path, "GET", handlerName⟩, ⟨path, "POST", handlerName⟩, ⟨path ++ "/*", "GET", handlerName⟩]

/-- The handlers that the routes name. -/
def registry : Registry Handler := (Registry.empty.register handlerName handler).1

/-- The target that asks for a message to be echoed. -/
def target (message : String) : String := path ++ "?" ++ Form.pairText messageName message

end HttpService.Echo
