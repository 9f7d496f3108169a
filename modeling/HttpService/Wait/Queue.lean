import HttpService.Error
import HttpService.Wait.Room

/-!
# Queues

A queue hands the elements pushed into it to those who take them, in order. Whoever finds it empty may wait for
the next element; a push wakes one who waits.
-/

namespace HttpService.Wait

/-- A queue. -/
structure Queue (ι α : Type) where
  room : Room ι Unit (List α)

namespace Queue

variable {ι α : Type} [DecidableEq ι]

/-- An empty queue. -/
def new : Queue ι α := ⟨.new []⟩

/-- The elements that nobody has taken, oldest first. -/
def toList (q : Queue ι α) : List α := q.room.state

/-- How many elements there are. -/
def size (q : Queue ι α) : Nat := q.toList.length

/-- Takes the oldest element, if there is one. -/
def takeFirst (_ : Unit) : Signal.Attempt (List α) Empty α
  | [] => (.ok none, [])
  | a :: as => (.ok (some a), as)

/-- Adds an element and wakes one who waits. -/
def push (q : Queue ι α) (a : α) : Queue ι α :=
  ⟨Room.wakeOne { q.room with state := q.room.state ++ [a] }⟩

/-- Adds an element if the storage can grow by it. -/
def offer (q : Queue ι α) (a : α) (grows : Bool) : Except Error (Queue ι α) :=
  if grows then .ok (q.push a) else .error .resourceExhausted

/-- Takes an element without waiting. -/
def tryTake (q : Queue ι α) : Option α × Queue ι α :=
  match q.room.state with
  | [] => (none, q)
  | a :: as => (some a, ⟨{ q.room with state := as }⟩)

/-- A task enters that takes an element. -/
def take (q : Queue ι α) (i : ι) : Option (Signal.Polled Empty α × Queue ι α) :=
  (q.room.enter takeFirst i ()).map fun p => (p.1, ⟨p.2⟩)

/-- Polls a task. -/
def poll (q : Queue ι α) (i : ι) : Option (Signal.Polled Empty α × Queue ι α) :=
  (q.room.poll takeFirst i).map fun p => (p.1, ⟨p.2⟩)

/-- Gives a task up. -/
def cancel (q : Queue ι α) (i : ι) : Bool × Queue ι α :=
  let (had, room) := q.room.cancel i
  (had, ⟨room⟩)

/-- A push appends behind all that is there, whoever is woken for it. -/
@[simp]
theorem toList_push (q : Queue ι α) (a : α) : (q.push a).toList = q.toList ++ [a] := rfl

omit [DecidableEq ι] in
/-- An element taken is the oldest. -/
theorem toList_tryTake (q : Queue ι α) : (q.tryTake).1.toList ++ (q.tryTake).2.toList = q.toList := by
  cases h : q.room.state <;> simp [tryTake, toList, h]

end Queue

end HttpService.Wait
