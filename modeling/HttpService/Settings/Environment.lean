import HttpService.Notice
import HttpService.Settings.Basic
import HttpService.Text.Blank

/-!
# Settings from the environment

Variables of the environment override settings, each its own. A variable whose value is no count of the right
width changes nothing and leaves a notice.
-/

namespace HttpService

/-- The environment: the value of each variable that is set. -/
abbrev Environment := String → Option String

namespace Settings

/-- What a variable's value says: a count of the setting's width with white space around it. -/
def readVariable? (s : Setting) (raw : String) : Option Nat := Decimal.readBelow? s.bound (Text.trim raw)

/-- Overrides one setting. -/
def overrideOne (env : Environment) (c : Settings) (s : Setting) : Settings × List Notice :=
  match env s.variableName with
  | none => (c, [])
  | some raw =>
    match (readVariable? s raw).bind (c.put? s) with
    | some c => (c, [])
    | none => (c, [.overrideIgnored s.variableName raw])

/-- Overrides settings one after the other. -/
def overrideAll (env : Environment) : Settings → List Setting → Settings × List Notice
  | c, [] => (c, [])
  | c, s :: ss =>
    let (c, notices) := overrideOne env c s
    let (c, more) := overrideAll env c ss
    (c, notices ++ more)

/-- The settings with those that the environment overrides. -/
def override (c : Settings) (env : Environment) : Settings × List Notice := overrideAll env c Setting.all

end Settings

end HttpService
