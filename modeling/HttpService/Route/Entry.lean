import HttpService.Method
import HttpService.Error

/-!
# Route entries

One line of a routing table: a path, a verb in any case, and the name of a handler.
-/

namespace HttpService

/-- One line of a routing table. -/
structure RouteEntry where
  path : String
  verb : String
  handler : String
deriving DecidableEq, Repr

/-- The text with its small ASCII letters made capitals. -/
def capitals (s : String) : String := String.ofList (s.toList.map Char.toUpper)

/-- The method that an entry's verb spells in any case. -/
def RouteEntry.method (e : RouteEntry) : Except Error Method :=
  match Method.ofText? (capitals e.verb) with
  | some m => .ok m
  | none => .error (.invalidRoute (.badVerb e.verb e.path))

end HttpService
