import HttpService.Json.Reading
import HttpService.Route.OpenApi
import HttpService.Yaml.Data

/-!
# Routing tables in files

A table is a list of entries, or the description of an API. The file's name tells in which of two formats it is
written. An entry is an object with three texts and perhaps more, or a list of just the three.
-/

namespace HttpService.RouteTable

/-- Why a file holds no table. -/
inductive Fault where
  | unreadable (path : String)
  | badJson
  | badYaml
  | invalid (path : String)
  | refused (cause : Error)
deriving DecidableEq

/-- The fault in words. -/
def Fault.message : Fault → String
  | .unreadable path => s!"Failed to read route table: {path}"
  | .badJson => "invalid JSON"
  | .badYaml => "invalid YAML"
  | .invalid path => s!"Invalid route table: {path}"
  | .refused cause => cause.message

/-- Whether a name ends in the extension of JSON. -/
def isJsonName (name : String) : Bool :=
  let extension := ".json".toList
  extension.isSuffixOf name.toList && extension.length < name.length

/-- The entry that a value stands for. -/
def entryOf? : JsonValue → Option RouteEntry
  | .array [.string path, .string verb, .string handler] => some ⟨path, verb, handler⟩
  | .object ms => do
    -- Further members are passed over; a member that is missing or no text makes the entry none.
    let text (name : String) := (ms.lookup name).bind (·.text?)
    return ⟨← text "path", ← text "verb", ← text "handler"⟩
  | _ => none

/-- The entries of a value, with notices of the operations of an API that have none. -/
def ofValue (path : String) (v : JsonValue) : List Notice × Except Fault (List RouteEntry) :=
  if (v.get? "paths").isSome then
    let (notices, result) := OpenApi.entries v
    (notices, result.mapError .refused)
  else ([], (v.items?.bind fun vs => vs.mapM entryOf?).elim (.error (.invalid path)) .ok)

/-- The entries of a file, of which `content` is what it holds if it is there. -/
def load (path : String) (content : Option Octets) : List Notice × Except Fault (List RouteEntry) :=
  match content.bind Octets.text? with
  | none => ([], .error (.unreadable path))
  | some s =>
    if isJsonName path then (Json.read? s).elim ([], .error .badJson) (ofValue path)
    else (Yaml.readValue? s).elim ([], .error .badYaml) (ofValue path)

end HttpService.RouteTable
