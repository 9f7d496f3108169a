/-!
# Tables of characters

A property of characters is written down as a text: words with blanks or line ends between them, one for each
stretch of characters that share it. A word is the number of the first character, a dash and the number of the
last one if there are several, and a colon and what they share. Numbers are hexadecimal, and words are in their
order.

`Table.find?` looks a character up by halving the table; what it finds is an entry of the table that holds the
character (`Table.mem_of_find?`, `Table.holds_of_find?`).
-/

namespace HttpService.Text

/-- The value of a hexadecimal digit in small letters. -/
def hexDigitValue (c : Char) : Nat := if c.isDigit then c.toNat - 48 else c.toNat - 87

/-- The number that hexadecimal digits spell. -/
def hexNumber (ds : List Char) : Nat := ds.foldl (fun n d => n * 16 + hexDigitValue d) 0

/-- The stretches of a text between its blanks and line ends. -/
def words (s : String) : List (List Char) :=
  -- The words that are complete, the last one first, and the letters of the next one, backwards.
  let close (done : List (List Char)) (word : List Char) := if word.isEmpty then done else word.reverse :: done
  let (done, word) := s.toList.foldl
    (fun (done, word) c => if c == ' ' || c == '\n' then (close done word, []) else (done, c :: word)) ([], [])
  (close done word).reverse

/-- The numbers between the plus signs of a word. -/
def hexNumbers (w : List Char) : List Nat :=
  if w.isEmpty then []
  else
    let (done, digits) := w.foldr
      (fun c (done, digits) => if c == '+' then (hexNumber digits :: done, []) else (done, c :: digits)) ([], [])
    hexNumber digits :: done

/-- Characters in a row that share something. -/
structure Stretch (α : Type) where
  first : Nat
  last : Nat
  value : α
deriving DecidableEq, Repr

/-- Whether a character is in the stretch. -/
def Stretch.holds {α : Type} (s : Stretch α) (c : Char) : Bool := s.first ≤ c.toNat && c.toNat ≤ s.last

/-- The stretch that a word spells; `value` reads what the characters share. -/
def Stretch.ofWord {α : Type} (value : List Char → α) (w : List Char) : Stretch α :=
  let key := w.takeWhile (· != ':')
  let first := key.takeWhile (· != '-')
  let last := key.drop (first.length + 1)
  ⟨hexNumber first, hexNumber (if last.isEmpty then first else last), value (w.drop (key.length + 1))⟩

/-- Stretches in their order. -/
abbrev Table (α : Type) := Array (Stretch α)

namespace Table

variable {α : Type}

/-- The table that a text spells. -/
def ofText (value : List Char → α) (s : String) : Table α := ((words s).map (Stretch.ofWord value)).toArray

/-- The entry that holds a character, of those from `low` up to but not with `high`. -/
def search (t : Table α) (c : Char) (low high : Nat) : Option (Stretch α) :=
  if h : low < high ∧ high ≤ t.size then
    let middle := (low + high) / 2
    have : middle < t.size := by omega
    let s := t[middle]
    if c.toNat < s.first then search t c low middle
    else if s.last < c.toNat then search t c (middle + 1) high
    else some s
  else none
termination_by high - low

/-- The entry that holds a character. -/
def find? (t : Table α) (c : Char) : Option (Stretch α) := t.search c 0 t.size

/-- Whether an entry holds a character. -/
def contains (t : Table α) (c : Char) : Bool := (t.find? c).isSome

/-- What is found is a stretch of the table that holds the character. -/
theorem mem_of_search {t : Table α} {c : Char} {low high : Nat} {s : Stretch α}
    (h : t.search c low high = some s) : s ∈ t ∧ s.holds c = true := by
  fun_induction search t c low high with
  | case1 low high _ _ _ _ _ ih => exact ih h
  | case2 low high _ _ _ _ _ _ ih => exact ih h
  | case3 low high _ _ _ _ hf hl =>
    obtain rfl := Option.some.inj h
    exact ⟨Array.getElem_mem _, by simp only [Stretch.holds]; grind⟩
  | case4 => exact absurd h (by simp)

/-- What is found is in the table. -/
theorem mem_of_find? {t : Table α} {c : Char} {s : Stretch α} (h : t.find? c = some s) : s ∈ t :=
  (mem_of_search h).1

/-- What is found holds the character. -/
theorem holds_of_find? {t : Table α} {c : Char} {s : Stretch α} (h : t.find? c = some s) :
    s.holds c = true :=
  (mem_of_search h).2

end Table

end HttpService.Text
