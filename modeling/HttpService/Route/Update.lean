import HttpService.Route.Trie

/-!
# Updates of a trie

An update goes to the node of its path once: it says what it found there and leaves a value. What it finds is
never looked up apart from the way on which it changes the trie.

* Storing a value (`insert`) and asking for one (`ensure`) make the steps that are missing, changing one
  (`modify`) makes none.
* `ensure` asks for its default only at a node without a value.
-/

namespace HttpService

variable {α β : Type}

/-! ## Ways to a node -/

namespace Steps

/-- Makes the steps to a node that is missing, and uses its value. -/
def build (use : Option α → β × Option α) : Segment → List Segment → β × Steps α
  | s, [] =>
    let (b, v) := use .none
    (b, .step s v .none .none)
  | s, s' :: ss =>
    let (b, below) := build use s' ss
    (b, .step s .none below .none)

/-- Goes to the node under a path, making the steps that are missing, and uses its value: what came of it, and
the steps with the value that is left. -/
def visit (use : Option α → β × Option α) : Segment → List Segment → Steps α → β × Steps α
  | s, ss, .none => build use s ss
  | s, ss, .step n v below next =>
    if n = s then
      match ss with
      | [] =>
        let (b, v) := use v
        (b, .step n v below next)
      | s' :: ss' =>
        let (b, below) := visit use s' ss' below
        (b, .step n v below next)
    else
      let (b, next) := visit use s ss next
      (b, .step n v below next)

/-- Goes to the node under a path, if the steps to it are there and it has a value, and changes that: the value
that was reached, and the steps with the changed one. -/
def reach? (f : α → α) : Segment → List Segment → Steps α → Option (α × Steps α)
  | _, _, .none => .none
  | s, ss, .step n v below next =>
    if n = s then
      match ss with
      | [] => v.map fun a => (a, .step n (some (f a)) below next)
      | s' :: ss' => (reach? f s' ss' below).map fun r => (r.1, .step n v r.2 next)
    else (reach? f s ss next).map fun r => (r.1, .step n v below r.2)

end Steps

namespace Trie

/-- Goes to the node under a list of segments, making the steps that are missing, and uses its value. -/
def visitAt (t : Trie α) (use : Option α → β × Option α) : List Segment → β × Trie α
  | [] =>
    let (b, v) := use t.value
    (b, ⟨v, t.steps⟩)
  | s :: ss =>
    let (b, steps) := t.steps.visit use s ss
    (b, ⟨t.value, steps⟩)

/-- Changes the value under a list of segments, if there is one, and gives the one that was reached. -/
def reachAt? (t : Trie α) (f : α → α) : List Segment → Option (α × Trie α)
  | [] => t.value.map fun a => (a, ⟨some (f a), t.steps⟩)
  | s :: ss => (t.steps.reach? f s ss).map fun r => (r.1, ⟨t.value, r.2⟩)

/-! ## Updates -/

/-- A change of the value under one path. -/
inductive Update (α : Type) where
  /-- Stores a value. -/
  | insert (path : String) (a : α)
  /-- Asks for the value, which is the default where there is none, and changes what it is given. -/
  | ensure (path : String) (default : α) (f : α → α)
  /-- Changes the value if there is one. -/
  | modify (path : String) (f : α → α)

/-- What an update says. -/
inductive Answer (α : Type) where
  /-- The value that gave way to a stored one. -/
  | previous (value : Option α)
  /-- The value asked for, and whether the default was asked for it. -/
  | given (value : α) (byDefault : Bool)
  /-- The value that was changed. -/
  | reached (value : Option α)
deriving DecidableEq

/-- Gives the value, or the default where there is none, and leaves what is made of it. -/
def giveOr (default : α) (f : α → α) : Option α → (α × Bool) × Option α
  | some a => ((a, false), some (f a))
  | none => ((default, true), some (f default))

/-- Makes an update. -/
def perform (t : Trie α) : Update α → Answer α × Trie α
  | .insert path a =>
    let (old, t) := t.visitAt (fun v => (v, some a)) (segments path)
    (.previous old, t)
  | .ensure path default f =>
    let (given, t) := t.visitAt (giveOr default f) (segments path)
    (.given given.1 given.2, t)
  | .modify path f =>
    match t.reachAt? f (segments path) with
    | some (a, t) => (.reached (some a), t)
    | none => (.reached none, t)

/-- The trie that some updates make, one after the other. -/
def ofUpdates (us : List (Update α)) : Trie α := us.foldl (fun t u => (t.perform u).2) empty

namespace Update

/-- The path of which the value is changed. -/
def path : Update α → String
  | .insert path _ | .ensure path _ _ | .modify path _ => path

/-- What the update says of the value that it finds. -/
def answer : Update α → Option α → Answer α
  | .insert _ _, v => .previous v
  | .ensure _ default _, v => .given (v.getD default) v.isNone
  | .modify _ _, v => .reached v

/-- The value that the update leaves. -/
def leaves : Update α → Option α → Option α
  | .insert _ a, _ => some a
  | .ensure _ default f, v => some (f (v.getD default))
  | .modify _ f, v => v.map f

/-- The value that some updates leave under a list of segments, to which only those of its own paths count. -/
def stored (us : List (Update α)) (p : List Segment) : Option α :=
  (us.filter fun u => segments u.path = p).foldl (fun v u => u.leaves v) none

end Update

end Trie

end HttpService
