import HttpService.Text.Quoted
import HttpService.Route.Visit
import HttpService.Route.Entry
import HttpService.Route.Registry

/-!
# Routers

A router finds the handler of a method and a path. The handlers of one path pattern stand together, one for
each method; a request whose method has no handler at one matching pattern goes on to the next
(`Router.lookup`), so a literal path hides a wildcard only for the methods that it has.

`Router.allowedMethods` are the methods of the first pattern that matches a path and has any.
-/

namespace HttpService

/-- The handlers of one pattern by method; no method occurs twice. -/
abbrev MethodTable (η : Type) := List (Method × η)

/-- Puts a handler under a method. -/
def MethodTable.set {η : Type} (ms : MethodTable η) (m : Method) (h : η) : MethodTable η :=
  ms.filter (fun e => e.1 != m) ++ [(m, h)]

/-- Finds the handler of a method and a path. -/
structure Router (η : Type) where
  routes : Trie (MethodTable η)

/-- A handler found, with the segments that wildcards stood for. -/
structure RouteMatch (η : Type) where
  handler : η
  wildcards : List Segment

/-- A match in a report: the segments, and a sign that the handler is not shown. -/
def RouteMatch.report {η : Type} (m : RouteMatch η) : String :=
  "RouteMatch \x7b wildcards: WildcardSegments(" ++ Text.quotedList m.wildcards ++ "), .. \x7d"

namespace Router

variable {η : Type}

/-- No routes. -/
def empty : Router η := ⟨Trie.empty⟩

/-- The handlers stored under a path pattern. -/
def table (r : Router η) (pattern : String) : MethodTable η := (r.routes.get? pattern).getD []

/-- Routes a method and a path pattern to a handler, in the place of the one it was routed to. -/
def insert (r : Router η) (pattern : String) (m : Method) (h : η) : Router η × List Notice :=
  (⟨r.routes.adjustAt (fun t => some (MethodTable.set (t.getD []) m h)) (segments pattern)⟩,
    if ((r.table pattern).lookup m).isSome then [.replacedRoute m pattern] else [])

/-- The handler of a method and a path: that of the first matching pattern which has the method. -/
def lookup (r : Router η) (m : Method) (path : String) : Option (RouteMatch η) := do
  let (table, wildcards) ← r.routes.find path fun t => (t.lookup m).isSome
  return ⟨← table.lookup m, wildcards⟩

/-- Whether a pattern passes through a path or ends at it. -/
def contains (r : Router η) (path : String) : Bool := r.routes.contains path

/-- The methods of the first pattern that matches a path, in order. -/
def allowedMethods (r : Router η) (path : String) : List Method :=
  match r.routes.find path fun t => !t.isEmpty with
  | some (table, _) => (table.map (·.1)).mergeSort fun a b => decide (a.text ≤ b.text)
  | none => []

/-- How many patterns no other one passes through. -/
def size (r : Router η) : Nat := r.routes.size

/-- Every route: its method and the spelling of its pattern. -/
def entries (r : Router η) : List (Method × String × η) :=
  r.routes.visits.flatMap fun e => e.2.map fun route => (route.1, e.1, route.2)

/-- How many pairs of a method and a pattern are routed. -/
def count (r : Router η) : Nat := r.routes.forEach (fun _ table n => n + table.length) 0

/-- Every route as a line: its method, a space and its pattern. -/
def lines (r : Router η) : List String :=
  r.entries.map fun e => e.1.text ++ " " ++ e.2.1

/-- The router in a report: its routes. -/
def report (r : Router η) : String := "Router \x7b routes: " ++ Text.quotedList r.lines ++ " \x7d"

/-- Adds the routes of a table to a router, up to the first entry with a bad verb or an unknown handler. -/
def addEntries (registry : Registry η) : List RouteEntry → Router η → List Notice × Except Error (Router η)
  | [], r => ([], .ok r)
  | e :: es, r =>
    match e.method with
    | .error fault => ([], .error fault)
    | .ok m =>
      match registry.get? e.handler with
      | none => ([], .error (.unknownHandler e.handler))
      | some h =>
        -- What was replaced on the way is told even if a later entry fails.
        let (r, notices) := r.insert e.path m h
        let (more, result) := addEntries registry es r
        (notices ++ more, result)

/-- The router of a table. -/
def ofEntries (registry : Registry η) (es : List RouteEntry) : List Notice × Except Error (Router η) :=
  addEntries registry es empty

end Router

end HttpService
