import HttpService.Text.Decimal
import HttpService.Wire.Decoder

/-!
# Settings

The eleven settings of the two parts of the program. Each has a key under its part in a document, a variable of
the environment that overrides it, a width, and a standard value. `Settings` holds a value for every one of
them that fits its width.
-/

namespace HttpService

/-- The two parts of the program that have settings. -/
inductive Part where
  | server
  | client
deriving DecidableEq, Repr

/-- The name of a part in a document. -/
def Part.name : Part → String
  | .server => "server"
  | .client => "client"

/-- One setting. -/
inductive Setting where
  | backlog
  | serverReadTimeout
  | serverWriteTimeout
  | serverHeadLimit
  | serverBodyLimit
  | clientResolveTimeout
  | clientConnectTimeout
  | clientWriteTimeout
  | clientReadTimeout
  | clientHeadLimit
  | clientBodyLimit
deriving DecidableEq, Repr

namespace Setting

/-- All settings, in the order in which they are listed everywhere. -/
def all : List Setting :=
  [.backlog, .serverReadTimeout, .serverWriteTimeout, .serverHeadLimit, .serverBodyLimit,
    .clientResolveTimeout, .clientConnectTimeout, .clientWriteTimeout, .clientReadTimeout, .clientHeadLimit,
    .clientBodyLimit]

/-- No setting is forgotten. -/
theorem mem_all (s : Setting) : s ∈ all := by cases s <;> decide

theorem nodup_all : all.Nodup := by decide

/-- The part that a setting is for. -/
def part : Setting → Part
  | .backlog | .serverReadTimeout | .serverWriteTimeout | .serverHeadLimit | .serverBodyLimit => .server
  | _ => .client

/-- The key of a setting under its part. -/
def key : Setting → String
  | .backlog => "backlog"
  | .clientResolveTimeout => "resolve_timeout_ms"
  | .clientConnectTimeout => "connect_timeout_ms"
  | .serverReadTimeout | .clientReadTimeout => "read_timeout_ms"
  | .serverWriteTimeout | .clientWriteTimeout => "write_timeout_ms"
  | .serverHeadLimit | .clientHeadLimit => "max_header_bytes"
  | .serverBodyLimit | .clientBodyLimit => "max_body_bytes"

/-- The variable of the environment that overrides a setting. -/
def variableName : Setting → String
  | .backlog => "SIESTA_BACKLOG"
  | .serverReadTimeout => "SIESTA_SERVER_READ_TIMEOUT_MS"
  | .serverWriteTimeout => "SIESTA_SERVER_WRITE_TIMEOUT_MS"
  | .serverHeadLimit => "SIESTA_SERVER_MAX_HEADER_BYTES"
  | .serverBodyLimit => "SIESTA_SERVER_MAX_BODY_BYTES"
  | .clientResolveTimeout => "SIESTA_CLIENT_RESOLVE_TIMEOUT_MS"
  | .clientConnectTimeout => "SIESTA_CLIENT_CONNECT_TIMEOUT_MS"
  | .clientWriteTimeout => "SIESTA_CLIENT_WRITE_TIMEOUT_MS"
  | .clientReadTimeout => "SIESTA_CLIENT_READ_TIMEOUT_MS"
  | .clientHeadLimit => "SIESTA_CLIENT_MAX_HEADER_BYTES"
  | .clientBodyLimit => "SIESTA_CLIENT_MAX_BODY_BYTES"

/-- One more than the largest value of a setting. -/
def bound : Setting → Nat
  | .backlog => Decimal.bound32
  | _ => Decimal.bound64

/-- The value of a setting that is not set. -/
def standard : Setting → Nat
  | .backlog => 64
  | .clientResolveTimeout | .clientConnectTimeout => 5000
  | .serverReadTimeout | .serverWriteTimeout | .clientReadTimeout | .clientWriteTimeout => 30000
  | .serverHeadLimit | .clientHeadLimit => 16 * 1024
  | .serverBodyLimit | .clientBodyLimit => 8 * 1024 * 1024

/-- The setting under a key of a part. -/
def find? (p : Part) (key : String) : Option Setting :=
  all.find? fun s => decide (s.part = p ∧ s.key = key)

/-- Every setting is found under its part and key. -/
theorem find?_key (s : Setting) : find? s.part s.key = some s := by cases s <;> decide

/-- Each setting has room for its own standard. -/
theorem standard_lt_bound (s : Setting) : s.standard < s.bound := by cases s <;> decide

end Setting

/-- A value for every setting, each within its width. -/
structure Settings where
  value : Setting → Nat
  fits : ∀ s, value s < s.bound

namespace Settings

/-- Settings are what they say under each name. -/
@[ext]
theorem ext {a b : Settings} (h : ∀ s, a.value s = b.value s) : a = b := by
  cases a
  cases b
  congr
  exact funext h

instance : DecidableEq Settings := fun a b =>
  decidable_of_iff (∀ s ∈ Setting.all, a.value s = b.value s)
    ⟨fun h => ext fun s => h s (Setting.mem_all s), fun h _ _ => h ▸ rfl⟩

/-- The settings where nothing is set. -/
def standard : Settings := ⟨Setting.standard, Setting.standard_lt_bound⟩

/-- Sets one setting. -/
def set (c : Settings) (s : Setting) (n : Nat) (h : n < s.bound) : Settings where
  value t := if t = s then n else c.value t
  fits t := by
    split
    next e => exact e ▸ h
    next => exact c.fits t

/-- Setting one leaves the others. -/
@[simp]
theorem value_set (c : Settings) (s t : Setting) (n : Nat) (h : n < s.bound) :
    (c.set s n h).value t = if t = s then n else c.value t := rfl

/-- Sets one setting, if the value fits its width. -/
def put? (c : Settings) (s : Setting) (n : Nat) : Option Settings :=
  if h : n < s.bound then some (c.set s n h) else none

/-- The time that a setting allows; zero allows any. -/
def timeout? (c : Settings) (s : Setting) : Option Nat :=
  if c.value s = 0 then none else some (c.value s)

/-- The limits on messages of a part. -/
def limits (c : Settings) : Part → Limits
  | .server => ⟨c.value .serverHeadLimit, c.value .serverBodyLimit⟩
  | .client => ⟨c.value .clientHeadLimit, c.value .clientBodyLimit⟩

end Settings

end HttpService
