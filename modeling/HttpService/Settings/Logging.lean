import HttpService.Settings.Environment

/-!
# Settings of the log

How records are written, from the environment. A switch is on or off only by the words `true` and `false`;
any other value leaves it as it is without being set.
-/

namespace HttpService

/-- The form of a record. -/
inductive LogFormat where
  | json
  | pretty
deriving DecidableEq, Repr

/-- The form in words. -/
def LogFormat.text : LogFormat → String
  | .json => "json"
  | .pretty => "pretty"

/-- The form that a word names in any case; JSON if it names none. -/
def LogFormat.ofText (s : String) : LogFormat :=
  if s.toList.map Char.toLower == "pretty".toList then .pretty else .json

/-- How records are written. -/
structure LogSettings where
  /-- The least serious records that are written. -/
  level : String
  format : LogFormat
  /-- Whether records are written in the background. -/
  buffered : Bool
  /-- Further rules on what is written. -/
  filter : Option String
  /-- Whether a record says where in the program it was made. -/
  location : Bool
deriving DecidableEq, Repr

namespace LogSettings

/-- What a switch says. -/
def readSwitch? (raw : String) : Option Bool :=
  if Text.trim raw = "true" then some true else if Text.trim raw = "false" then some false else none

/-- The settings of an environment. -/
def ofEnvironment (env : Environment) : LogSettings :=
  let switch (name : String) (standard : Bool) : Bool := ((env name).bind readSwitch?).getD standard
  { level := (env "SIESTA_LOG_LEVEL").getD "info"
    format := .ofText ((env "SIESTA_LOG_FORMAT").getD "")
    buffered := switch "SIESTA_LOG_ASYNC" true
    filter := env "SIESTA_LOG_TARGET_FILTER"
    location := switch "SIESTA_LOG_INCLUDE_LOCATION" false }

/-- The settings for work on the program itself. -/
def development : LogSettings := ⟨"debug", .pretty, false, none, true⟩

end LogSettings

end HttpService
