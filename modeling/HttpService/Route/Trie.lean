import HttpService.Route.Segments

/-!
# Tries of paths

Values stored under paths, in a tree with one step per segment. A step spelled `*` is a wildcard: a search
(`find`) lets it stand for any one segment, an exact access (`get?`) does not.

* A node may hold a value whether or not it has further steps.
* Steps keep the order in which they were first made; `sorted` orders them by name at every node.
* `find` tries the literal step first and comes back to the wildcard when the literal leads nowhere, where
  "nowhere" may depend on the value found (`accept`). It keeps the segments that wildcards stand for on one stack;
  `search` says the same of each way by itself (`find_eq_search`).
* `entries` is the whole content, as paths with their values, in the order of the tree.
-/

namespace HttpService

/-- The steps out of a node, each with the value and the steps of the node it leads to. -/
inductive Steps (α : Type) where
  | none
  | step (name : Segment) (value : Option α) (below next : Steps α)
deriving DecidableEq

/-- A node: the value stored under the path that leads to it, and the steps out of it. -/
structure Trie (α : Type) where
  value : Option α
  steps : Steps α
deriving DecidableEq

variable {α : Type}

/-! ## Steps -/

namespace Steps

/-- The node that a step leads to. -/
def follow? (name : Segment) : Steps α → Option (Trie α)
  | .none => .none
  | .step n v below next => if n = name then some ⟨v, below⟩ else follow? name next

/-- A path of new steps to one value. -/
def path (value : Option α) : Segment → List Segment → Steps α
  | s, [] => .step s value .none .none
  | s, s' :: ss => .step s .none (path value s' ss) .none

/-- Changes the value under a path, making the steps that are missing. -/
def adjust (f : Option α → Option α) : Segment → List Segment → Steps α → Steps α
  | s, ss, .none => path (f .none) s ss
  | s, ss, .step n v below next =>
    if n = s then
      match ss with
      | [] => .step n (f v) below next
      | s' :: ss' => .step n v (adjust f s' ss' below) next
    else .step n v below (adjust f s ss next)

/-- How many nodes without steps there are below. -/
def leaves : Steps α → Nat
  | .none => 0
  | .step _ _ .none next => 1 + leaves next
  | .step _ _ below next => leaves below + leaves next

/-- How many values there are below. -/
def count : Steps α → Nat
  | .none => 0
  | .step _ v below next => (if v.isSome then 1 else 0) + count below + count next

/-- The values below, each with the path to it from here. -/
def entries : Steps α → List (List Segment × α)
  | .none => []
  | .step n v below next =>
    (v.toList.map fun a => ([n], a)) ++ (entries below).map (fun e => (n :: e.1, e.2)) ++ entries next

/-- Puts a step before the first one whose name is not smaller. -/
def place (name : Segment) (value : Option α) (below : Steps α) : Steps α → Steps α
  | .none => .step name value below .none
  | .step n v b next =>
    if n < name then .step n v b (place name value below next)
    else .step name value below (.step n v b next)

/-- The steps in the order of their names, here and below. -/
def sorted : Steps α → Steps α
  | .none => .none
  | .step n v below next => place n v (sorted below) (sorted next)

end Steps

/-! ## Tries -/

namespace Trie

/-- Nothing stored. -/
def empty : Trie α := ⟨.none, .none⟩

/-- Changes the value under a list of segments. -/
def adjustAt (t : Trie α) (f : Option α → Option α) : List Segment → Trie α
  | [] => ⟨f t.value, t.steps⟩
  | s :: ss => ⟨t.value, t.steps.adjust f s ss⟩

/-- The node under a list of segments, spelled as they are stored. -/
def node? (t : Trie α) : List Segment → Option (Trie α)
  | [] => some t
  | s :: ss => (t.steps.follow? s).bind fun n => node? n ss

/-- The value stored under a list of segments. -/
def valueAt? (t : Trie α) (ss : List Segment) : Option α := (t.node? ss).bind (·.value)

/-- The value stored under a path. -/
def get? (t : Trie α) (path : String) : Option α := t.valueAt? (segments path)

/-- Stores a value under a path in the place of the one that was there. -/
def insert (t : Trie α) (path : String) (a : α) : Trie α :=
  t.adjustAt (fun _ => some a) (segments path)

/-- Stores a value under a path if there is none. -/
def insertNew (t : Trie α) (path : String) (a : α) : Trie α :=
  t.adjustAt (fun v => some (v.getD a)) (segments path)

/-- Changes the value under a path if there is one; makes no steps. -/
def modify (t : Trie α) (path : String) (f : α → α) : Trie α :=
  if (t.get? path).isSome then t.adjustAt (·.map f) (segments path) else t

/-- The trie of these paths with their values, the last of a path counting. -/
def ofList (es : List (String × α)) : Trie α := es.foldl (fun t e => t.insert e.1 e.2) empty

/-- The first value accepted on a way that matches the segments, literal steps first, and the segments that
wildcards stood for. -/
def search (accept : α → Bool) : List Segment → Trie α → Option (α × List Segment)
  | [], t => (t.value.filter accept).map fun a => (a, [])
  | s :: ss, t =>
    -- A request may hold the segment `*` itself. Its literal step would be the wildcard, which comes below.
    let literal := if s = wildcard then none else (t.steps.follow? s).bind (search accept ss)
    match literal with
    | some found => some found
    -- Whatever the literal way found out is forgotten; only this way's segments count.
    | none => (t.steps.follow? wildcard).bind fun n =>
      (search accept ss n).map fun found => (found.1, s :: found.2)

/-- The search with one stack for all ways: a wildcard pushes the segment that it stands for, and a way that leads to
nothing pops what it has pushed. -/
def searchOn (accept : α → Bool) : List Segment → Trie α → Array Segment → Option α × Array Segment
  | [], t, stack => (t.value.filter accept, stack)
  | s :: ss, t, stack =>
    let (found, stack) :=
      if s = wildcard then (none, stack)
      else
        match t.steps.follow? s with
        | some n => searchOn accept ss n stack
        | none => (none, stack)
    match found, t.steps.follow? wildcard with
    | some a, _ => (some a, stack)
    | none, none => (none, stack)
    | none, some n =>
      match searchOn accept ss n (stack.push s) with
      | (some a, stack) => (some a, stack)
      | (none, stack) => (none, stack.pop)

/-- The value that a path leads to, among those accepted, and the segments that wildcards stood for. -/
def find (t : Trie α) (path : String) (accept : α → Bool) : Option (α × List Segment) :=
  match searchOn accept (segments path) t #[] with
  | (some a, stack) => some (a, stack.toList)
  | (none, _) => none

/-- Whether the segments lead to any node. -/
def reaches : List Segment → Trie α → Bool
  | [], _ => true
  | s :: ss, t => (t.steps.follow? s).any (reaches ss) || (t.steps.follow? wildcard).any (reaches ss)

/-- Whether a path leads to any node, with a value or without. -/
def contains (t : Trie α) (path : String) : Bool := reaches (segments path) t

/-- How many nodes have no steps. A trie without any counts as one. -/
def size (t : Trie α) : Nat :=
  match t.steps with
  | .none => 1
  | steps => steps.leaves

/-- How many values are stored. -/
def count (t : Trie α) : Nat := (if t.value.isSome then 1 else 0) + t.steps.count

/-- All values with the segments that lead to them, a node before those below it. -/
def entries (t : Trie α) : List (List Segment × α) :=
  (t.value.toList.map fun a => ([], a)) ++ t.steps.entries

/-- The trie with the steps of every node in the order of their names. -/
def sorted (t : Trie α) : Trie α := ⟨t.value, t.steps.sorted⟩

/-! ## Searching -/

/-- One way of a search: what it comes to, and the stack behind it. -/
theorem searchOn_eq (accept : α → Bool) (ss : List Segment) (t : Trie α) (stack : Array Segment) :
    searchOn accept ss t stack =
      match search accept ss t with
      | some (a, ws) => (some a, stack ++ ws.toArray)
      | none => (none, stack) := by
  -- On the segments: a way that fails leaves the stack as it was, so every other one finds its own segments on it.
  induction ss generalizing t stack with
  | nil =>
    rw [searchOn, search]
    cases t.value.filter accept with
    | none => rfl
    | some a => simp
  | cons s ss ih =>
    have hliteral : (if s = wildcard then (none, stack)
        else
          match t.steps.follow? s with
          | some n => searchOn accept ss n stack
          | none => (none, stack)) =
        match if s = wildcard then none else (t.steps.follow? s).bind (search accept ss) with
        | some (a, ws) => (some a, stack ++ ws.toArray)
        | none => (none, stack) := by
      split
      · rfl
      · cases t.steps.follow? s with
        | none => rfl
        | some n => exact ih n stack
    rw [searchOn, hliteral, search]
    cases if s = wildcard then none else (t.steps.follow? s).bind (search accept ss) with
    | some found => rfl
    | none =>
      cases t.steps.follow? wildcard with
      | none => rfl
      | some n =>
        simp only [ih, Option.bind_some]
        cases search accept ss n with
        | none => simp
        | some found => simp

/-- **Nothing of a way that was given up is left on the stack**: what is found with one stack is what each way finds for
itself. -/
theorem find_eq_search (t : Trie α) (path : String) (accept : α → Bool) :
    t.find path accept = search accept (segments path) t := by
  rw [find, searchOn_eq]
  cases search accept (segments path) t with
  | none => rfl
  | some found => simp

/-! ## Counting -/

/-- The size counts the nodes without steps, so it is that of the steps where there are any. -/
theorem size_eq_leaves {t : Trie α} (h : t.steps ≠ .none) : t.size = t.steps.leaves := by
  obtain ⟨v, steps⟩ := t
  cases steps with
  | none => exact absurd rfl h
  | step n w below next => rfl

/-- Nodes without steps are counted step by step. -/
theorem leaves_step (n : Segment) (v : Option α) (below next : Steps α) :
    (Steps.step n v below next).leaves = (⟨v, below⟩ : Trie α).size + next.leaves := by
  cases below <;> rfl

/-- There are as many values as entries. -/
theorem count_eq_length_entries (t : Trie α) : t.count = t.entries.length := by
  have key : ∀ s : Steps α, s.count = s.entries.length := by
    intro s
    induction s with
    | none => rfl
    | step n v below next ihb ihn =>
      have : (if v.isSome then 1 else 0) = v.toList.length := by cases v <;> rfl
      simp only [Steps.count, Steps.entries, List.length_append, List.length_map, ihb, ihn, this]
  cases t with
  | mk v s =>
    have : (if v.isSome then 1 else 0) = v.toList.length := by cases v <;> rfl
    simp only [count, entries, List.length_append, List.length_map, key, this]

end Trie

end HttpService
