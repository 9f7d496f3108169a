import HttpService.Json.Printing
import HttpService.Settings.Logging

/-!
# Records of the log

A notice as a line of the log, if the settings let notices of its severity through.
-/

namespace HttpService

/-- A detail as a value of JSON. -/
def Detail.json : Detail → JsonValue
  | .text s => .string s
  | .number n => .number (.int n)

/-- A detail in words. -/
def Detail.words : Detail → String
  | .text s => s
  | .number n => Decimal.text n

namespace LogSettings

/-- Whether notices of a severity are written. -/
def admits (c : LogSettings) (s : Severity) : Bool :=
  s == .error || c.level.toList.map Char.toLower != "error".toList

/-- The line of a notice. -/
def line (c : LogSettings) (n : Notice) : String :=
  match c.format with
  | .json =>
    let fields := ("message", .string n.message) :: n.details.map fun d => (d.1, d.2.json)
    (JsonValue.ofMembers [("level", .string n.severity.text), ("fields", .ofMembers fields)]).text
  | .pretty =>
    let details := n.details.map fun d => ", " ++ d.1 ++ ": " ++ d.2.words
    String.join (("  " ++ n.severity.text ++ " " ++ n.message) :: details)

/-- The lines of some notices. -/
def lines (c : LogSettings) (ns : List Notice) : List String := (ns.filter fun n => c.admits n.severity).map c.line

end LogSettings

end HttpService
