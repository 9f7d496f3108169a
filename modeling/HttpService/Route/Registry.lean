import HttpService.Text.Quoted
import HttpService.Notice

/-!
# Handlers by name

The handlers that a routing table may name. Registering under a name that is taken replaces the handler and
leaves a notice.
-/

namespace HttpService

/-- Handlers by name; no name occurs twice. -/
structure Registry (η : Type) where
  handlers : List (String × η)

namespace Registry

variable {η : Type}

/-- No handlers. -/
def empty : Registry η := ⟨[]⟩

/-- The handler of this name. -/
def get? (r : Registry η) (name : String) : Option η := r.handlers.lookup name

/-- How many handlers there are. -/
def size (r : Registry η) : Nat := r.handlers.length

/-- Puts a handler under a name. -/
def register (r : Registry η) (name : String) (handler : η) : Registry η × List Notice :=
  let others := r.handlers.filter fun h => h.1 != name
  let after : Registry η := ⟨others ++ [(name, handler)]⟩
  (after, if (r.get? name).isSome then [.replacedHandler name after.size] else [])

/-- The names in order. -/
def names (r : Registry η) : List String := (r.handlers.map (·.1)).mergeSort (fun a b => decide (a ≤ b))

/-- The registry in a report: its names in order. -/
def report (r : Registry η) : String :=
  "HandlerRegistry \x7b handlers: " ++ Text.quotedList r.names ++ " \x7d"

end Registry

end HttpService
