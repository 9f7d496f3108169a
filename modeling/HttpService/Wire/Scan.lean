import HttpService.Error

/-!
# Scanning octets that are still arriving

A scanner reads from the front of the octets received so far. It comes to one of three ends: it is done and
leaves the rest, it fails, or the octets run out before it can tell (`Scanned.short`).

Scanners are built from `Scan.next` by sequencing, so what a scanner says of some octets it also says when
more follow (`Scan.Stable`): done stays done with a longer rest, failed stays failed. That is why a head may
be scanned again from the start after each read.
-/

namespace HttpService

/-- The end that a scanner comes to. -/
inductive Scanned (α : Type) where
  | done (value : α) (rest : Octets)
  | failed (fault : MessageFault)
  | short
deriving DecidableEq

/-- A reader of the octets received so far. -/
def Scan (α : Type) : Type := Octets → Scanned α

namespace Scan

/-- Reads nothing. -/
def result {α : Type} (a : α) : Scan α := fun bs => .done a bs

/-- Reads with the first scanner and then with the second. -/
def andThen {α β : Type} (s : Scan α) (f : α → Scan β) : Scan β := fun bs =>
  match s bs with
  | .done a rest => f a rest
  | .failed fault => .failed fault
  | .short => .short

instance : Monad Scan where
  pure := result
  bind := andThen

/-- Fails whatever follows. -/
def fail {α : Type} (fault : MessageFault) : Scan α := fun _ => .failed fault

/-- The next octet. -/
def next : Scan UInt8
  | [] => .short
  | b :: bs => .done b bs

/-- The next octet, which has to be `b`. -/
def expect (b : UInt8) (fault : MessageFault) : Scan Unit
  | [] => .short
  | c :: bs => if c == b then .done () bs else .failed fault

/-- The octets up to the first one outside a class, which has to have arrived and is left unread. -/
def run (p : UInt8 → Bool) : Scan Octets := fun bs =>
  match bs.dropWhile p with
  | [] => .short
  | b :: rest => .done (bs.takeWhile p) (b :: rest)

/-- A line end: CR LF, or LF alone. A CR without its LF is `bare`, anything else is `other`. -/
def lineEnd (bare other : MessageFault) : Scan Unit := do
  let b ← next
  if b == 13 then expect 10 bare
  else if b == 10 then return ()
  else fail other

/-! ## More octets never change an end already reached -/

/-- What the scanner says of some octets, it says of them when more follow. -/
def Stable {α : Type} (s : Scan α) : Prop :=
  ∀ bs more, match s bs with
    | .done a rest => s (bs ++ more) = .done a (rest ++ more)
    | .failed fault => s (bs ++ more) = .failed fault
    | .short => True

theorem stable_result {α : Type} (a : α) : Stable (result a) := fun _ _ => rfl

/-- A refusal does not look at what has arrived, so more of it makes no difference. -/
theorem stable_fail {α : Type} (fault : MessageFault) : Stable (fail fault : Scan α) := fun _ _ => rfl

/-- One octet decides `next`; without any it has to wait. -/
theorem stable_next : Stable next := by
  intro bs more
  cases bs <;> simp [next]

theorem stable_expect (b : UInt8) (fault : MessageFault) : Stable (expect b fault) := by
  intro bs more
  cases bs with
  | nil => simp [expect]
  | cons c bs =>
    by_cases h : c == b <;> simp [expect, h]

/-- Sequencing keeps stability, so every scanner put together from the ones above is stable. -/
theorem stable_andThen {α β : Type} {s : Scan α} {f : α → Scan β} (hs : Stable s)
    (hf : ∀ a, Stable (f a)) : Stable (andThen s f) := by
  intro bs more
  have h := hs bs more
  unfold andThen
  -- The first scanner's end is kept, so the second starts from the same place with more behind it.
  cases e : s bs with
  | done a rest =>
    rw [e] at h
    simp only at h
    simp only [h]
    exact hf a rest more
  | failed fault =>
    rw [e] at h
    simp only at h
    simp only [h]
  | short => trivial

/-- A run that has met its end keeps it. -/
theorem takeWhile_append_of_dropWhile {p : UInt8 → Bool} {bs rest : Octets} {b : UInt8}
    (h : bs.dropWhile p = b :: rest) (more : Octets) :
    (bs ++ more).takeWhile p = bs.takeWhile p ∧ (bs ++ more).dropWhile p = b :: rest ++ more := by
  induction bs with
  | nil => cases h
  | cons c bs ih =>
    by_cases hc : p c = true
    · simp only [List.dropWhile_cons, hc, if_true] at h
      have := ih h
      simp only [List.cons_append, List.takeWhile_cons, List.dropWhile_cons, hc, if_true]
      exact ⟨congrArg _ this.1, this.2⟩
    · simp only [List.dropWhile_cons, hc] at h
      obtain ⟨rfl, rfl⟩ := List.cons.inj h
      simp [hc]

/-- A run has met its end once an octet outside of the class has arrived; until then it waits. -/
theorem stable_run (p : UInt8 → Bool) : Stable (run p) := by
  intro bs more
  cases e : bs.dropWhile p with
  | nil => simp [run, e]
  | cons b rest =>
    have := takeWhile_append_of_dropWhile e more
    simp [run, e, this.1, this.2]

end Scan

end HttpService
