import HttpService.Json.Value
import HttpService.Notice
import HttpService.Route.Entry
import HttpService.Route.Segments
import HttpService.Url

/-!
# Routes of an API description

The routes that an OpenAPI document describes. Every operation of its `paths` object has exactly one outcome:
an entry if it names a handler, a notice if it does not. Paths come in the order of their names and the
operations of a path in the order of `verbs`.
-/

namespace HttpService.OpenApi

/-- The members of a path item that are operations. -/
def verbs : List String := ["get", "put", "post", "delete", "options", "head", "patch", "trace"]

/-- Whether a member of an operation may name its handler. -/
def namesHandler (key : String) : Bool := "x-handler".toList.isPrefixOf key.toList

/-- The handler of an operation: the first text under a handler key, or else its identifier. -/
def handlerName? (operation : JsonValue) : Option String := do
  let members ← operation.members?
  let named := members.findSome? fun m => if namesHandler m.1 then m.2.text? else none
  named <|> (members.lookup "operationId").bind (·.text?)

/-- Whether a segment of a path template is a parameter. -/
def isParameter (seg : List Char) : Bool := seg.head? == some '\x7b' && seg.getLast? == some '\x7d'

/-- The pattern of a path template: every parameter is a wildcard. -/
def pattern (template : String) : String :=
  let seg (s : List Char) := if isParameter s then wildcard.toList else s
  String.ofList (join '/' ((pieces '/' template.toList).map seg))

/-- The path of the first server, without slashes at its end. The server may leave out its scheme and host. -/
def basePath (doc : JsonValue) : String :=
  let url := do (← (← (← doc.get? "servers").items?.bind (·.head?)).get? "url").text?
  -- An address without scheme and host is read as one on some host, of which only the path counts.
  let path := url.bind fun u => Url.path? u <|> Url.path? ("http://localhost" ++ u)
  String.ofList (((path.getD "").toList.reverse.dropWhile (· == '/')).reverse)

/-- What becomes of one operation. -/
inductive Outcome where
  | entry (e : RouteEntry)
  | skipped (n : Notice)
deriving DecidableEq

/-- What becomes of an operation at a path. -/
def outcome (base path verb : String) (operation : JsonValue) : Outcome :=
  match handlerName? operation with
  | some handler => .entry ⟨base ++ pattern path, capitals verb, handler⟩
  | none => .skipped (.operationWithoutHandler path verb)

/-- What becomes of the operations of a path. A path whose item is no object has none. -/
def pathOutcomes (base path : String) (item : JsonValue) : List Outcome :=
  match item.members? with
  | some members => verbs.filterMap fun verb => (members.lookup verb).map (outcome base path verb)
  | none => []

/-- What becomes of the operations of a document; none if it has no paths. -/
def outcomes? (doc : JsonValue) : Option (List Outcome) := do
  let paths ← (← doc.get? "paths").members?
  return paths.flatMap fun p => pathOutcomes (basePath doc) p.1 p.2

/-- The entry of an operation that has one. -/
def Outcome.added? : Outcome → Option RouteEntry
  | .entry e => some e
  | .skipped _ => none

/-- The notice of an operation that has no entry. -/
def Outcome.notice? : Outcome → Option Notice
  | .entry _ => none
  | .skipped n => some n

/-- The entries of a document, with notices of the operations left out. -/
def entries (doc : JsonValue) : List Notice × Except Error (List RouteEntry) :=
  match outcomes? doc with
  | some os => (os.filterMap (·.notice?), .ok (os.filterMap (·.added?)))
  | none => ([], .error (.invalidRoute .noPaths))

end HttpService.OpenApi
