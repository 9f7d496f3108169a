import HttpService.Method
import HttpService.Error
import HttpService.Server.Facility

/-!
# Notices

What an operation wants recorded beside its result: something was replaced, left out or given up. A notice is
a value that the operation returns; `Notice.message` and `Notice.details` say how a record shows it.
-/

namespace HttpService

/-- How serious a notice is. -/
inductive Severity where
  | warning
  | error
deriving DecidableEq, Repr

/-- The severity as a record shows it. -/
def Severity.text : Severity → String
  | .warning => "WARN"
  | .error => "ERROR"

/-- One detail of a notice. -/
inductive Detail where
  | text (s : String)
  | number (n : Nat)
deriving DecidableEq, Repr

/-- Something to be recorded. -/
inductive Notice where
  | replacedRoute (method : Method) (path : String)
  | replacedHandler (name : String) (total : Nat)
  | operationWithoutHandler (path verb : String)
  | overrideIgnored (variableName value : String)
  | permitRefused (cause : Error)
  | serverFailed (facility : Facility) (cause : Error)
  | connectFailed (peer : String) (cause : Error)
  | exchangeFailed (cause : Error)
deriving DecidableEq

namespace Notice

/-- How serious it is. -/
def severity : Notice → Severity
  | .permitRefused _ | .serverFailed .. => .error
  | _ => .warning

/-- What happened, in words. -/
def message : Notice → String
  | .replacedRoute .. => "Replaced existing route handler"
  | .replacedHandler .. => "Replaced existing handler"
  | .operationWithoutHandler .. => "Skipping operation without operationId or x-handler"
  | .overrideIgnored .. => "Ignoring unparseable config override"
  | .permitRefused _ => "permit dropped into a full semaphore"
  | .serverFailed .. => "Server error"
  | .connectFailed .. => "Connect attempt failed"
  | .exchangeFailed _ => "Exchange failed, dropping connection"

/-- The details, each under its key. -/
def details : Notice → List (String × Detail)
  | .replacedRoute method path => [("method", .text method.text), ("path", .text path)]
  | .replacedHandler name total => [("handler_name", .text name), ("total_handlers", .number total)]
  | .operationWithoutHandler path verb => [("path", .text path), ("verb", .text verb)]
  | .overrideIgnored name value => [("variable", .text name), ("value", .text value)]
  | .permitRefused cause => [("error", .text cause.message)]
  | .serverFailed facility cause => [("facility", .text facility.text), ("error", .text cause.message)]
  | .connectFailed peer cause => [("peer", .text peer), ("error", .text cause.message)]
  | .exchangeFailed cause => [("error", .text cause.message)]

end Notice

end HttpService
