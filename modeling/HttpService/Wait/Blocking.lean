/-!
# Queues between threads

A queue on which a taker blocks its thread. What it hands out, and in which order, depends on the pushes alone.
-/

namespace HttpService.Wait

/-- A queue whose takers block. -/
structure BlockingQueue (α : Type) where
  items : List α
deriving Repr

namespace BlockingQueue

variable {α : Type}

/-- An empty queue. -/
def new : BlockingQueue α := ⟨[]⟩

/-- Adds an element. -/
def push (q : BlockingQueue α) (a : α) : BlockingQueue α := ⟨q.items ++ [a]⟩

/-- Takes the oldest element; with none there a taker would block. -/
def take? (q : BlockingQueue α) : Option (α × BlockingQueue α) :=
  match q.items with
  | [] => none
  | a :: as => some (a, ⟨as⟩)

/-- What a taker receives that takes everything while some values are pushed, and the queue then. -/
def handOff (q : BlockingQueue α) (values : List α) : List α × BlockingQueue α :=
  ((values.foldl push q).items, new)

end BlockingQueue

end HttpService.Wait
