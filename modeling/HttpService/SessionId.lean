import HttpService.Text.Decimal

/-!
# Session numbers

The sessions of one server are numbered in the order in which they begin.
-/

namespace HttpService

/-- The number of a session. -/
structure SessionId where
  number : Nat
deriving DecidableEq, Repr

namespace SessionId

/-- The first session of a server. -/
def first : SessionId := ⟨1⟩

/-- The session that begins after this one. -/
def next (id : SessionId) : SessionId := ⟨id.number + 1⟩

/-- The first `count` sessions from this one on. -/
def series (id : SessionId) : Nat → List SessionId
  | 0 => []
  | count + 1 => id :: id.next.series count

/-- The number as text. -/
def text (id : SessionId) : String := Decimal.text id.number

end SessionId

end HttpService
