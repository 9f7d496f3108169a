import HttpService.Settings.Environment
import HttpService.Yaml.Document
import HttpService.Yaml.Plain

/-!
# Settings as a document

A document with a section for each part and a line for each setting. Sections and lines may be left out, what
is not known is passed over, and nothing may be set twice. A blank text sets nothing.
-/

namespace HttpService.Settings

open Yaml (Node Document)

/-! ## Writing -/

/-- The section of a part with the lines of some settings; nothing if none of them is of the part. -/
def partText (c : Settings) (kept : List Setting) (p : Part) : String :=
  let line (s : Setting) : String := "  " ++ s.key ++ ": " ++ Decimal.text (c.value s) ++ "\n"
  match kept.filter fun s => decide (s.part = p) with
  | [] => ""
  | ss => p.name ++ ":\n" ++ String.join (ss.map line)

/-- The document with the lines of some settings. -/
def writeSome (c : Settings) (kept : List Setting) : String :=
  partText c kept .server ++ partText c kept .client

/-- The document with the lines of all settings. -/
def write (c : Settings) : String := c.writeSome Setting.all

/-! ## Reading -/

/-- The pairs of a node; an empty scalar has none. -/
def pairs? (d : Document) (n : Node) : Option (List (Node × Node)) := do
  match ← d.follow? n with
  | .mapping _ pairs => return pairs
  | .scalar _ style s => if style = .plain && s = "" then return [] else none
  | _ => none

/-- The text of a key. -/
def key? (d : Document) (n : Node) : Option String := do
  match ← d.follow? n with
  | .scalar _ _ s => return s
  | _ => none

/-- The count that a node spells, if it fits the setting's width. -/
def count? (d : Document) (s : Setting) (n : Node) : Option Nat := do
  match ← d.follow? n with
  | .scalar tag style text =>
    -- A block of lines is a text, unless its tag says that it is a number.
    if style = .plain || (style = .literal && tag = some (octets "tag:yaml.org,2002:int")) then
      Yaml.Plain.unsigned? s.bound text.toList
    else none
  | _ => none

/-- Reads the pairs of a collection into a state. `known` says what a key is for; what it is for may not have
been `seen` before. -/
def readPairs {α σ : Type} [DecidableEq α] (d : Document) (known : String → Option α)
    (read : α → Node → σ → Option σ) : List α → σ → List (Node × Node) → Option σ
  | _, state, [] => some state
  | seen, state, p :: ps => do
    match known (← key? d p.1) with
    | none => readPairs d known read seen state ps
    | some a =>
      -- Nothing may be set twice, even to the same value.
      if seen.contains a then none
      readPairs d known read (a :: seen) (← read a p.2 state) ps

/-- Reads one setting. -/
def readSetting (d : Document) (s : Setting) (n : Node) (c : Settings) : Option Settings := do
  c.put? s (← count? d s n)

/-- Reads the settings of a part. -/
def readPart (d : Document) (p : Part) (n : Node) (c : Settings) : Option Settings := do
  readPairs d (Setting.find? p) (readSetting d) [] c (← pairs? d n)

/-- The part of a name. -/
def findPart? (name : String) : Option Part := [Part.server, .client].find? fun p => p.name == name

/-- The settings of a document. -/
def ofDocument? (d : Document) : Option Settings :=
  match d.root with
  | none => some standard
  | some n => do readPairs d findPart? (readPart d) [] standard (← pairs? d n)

/-- Why there are no settings. -/
inductive Fault where
  | malformed
  | unreadable (path : String)
  | invalid (path : String)
deriving DecidableEq, Repr

/-- The fault in words. -/
def Fault.message : Fault → String
  | .malformed => "Failed to parse siesta config"
  | .unreadable path => s!"Failed to read config: {path}"
  | .invalid path => s!"Invalid config: {path}"

/-- The settings that a text spells. -/
def read (s : String) : Except Fault Settings :=
  if Text.trim s = "" then .ok standard
  else ((Document.read? s).bind ofDocument?).elim (.error .malformed) .ok

/-- The settings of a file, of which `content` is what it holds if it is there, with those that the environment
overrides. -/
def load (path : String) (content : Option Octets) (env : Environment) : Except Fault (Settings × List Notice) :=
  match content.bind Octets.text? with
  | none => .error (.unreadable path)
  | some s =>
    match read s with
    | .ok c => .ok (c.override env)
    | .error _ => .error (.invalid path)

end HttpService.Settings
