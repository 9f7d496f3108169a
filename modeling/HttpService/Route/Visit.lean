import HttpService.Route.Trie

/-!
# Going through a trie

A visit of a trie tells each value under the spelling of its path. There is one text for all paths: a step adds its
name behind a slash, and when all below it has been told the text is cut off to the octets that it had before.

* `forEach` hands every value to a function, with what has come of those before it.
* `visits` is the list of all that `forEach` tells.
-/

namespace HttpService

variable {α σ : Type}

/-! ## The text of a path -/

/-- The characters in front for which a number of octets has room. -/
def fitting : Nat → List Char → List Char
  | _, [] => []
  | room, c :: cs => if c.utf8Size ≤ room then c :: fitting (room - c.utf8Size) cs else []

/-- A text cut off behind a number of octets. -/
def cutOff (text : String) (room : Nat) : String := String.ofList (fitting room text.toList)

/-- The text of a path with one segment more. A step without a name adds nothing. -/
def extended (path : String) (name : Segment) : String :=
  if name.isEmpty then path else path ++ "/" ++ name

/-- Tells the value of a node, if it has one, under the text of its path; the root's is empty and told as `/`. -/
def tell (f : String → α → σ → σ) (path : String) (value : Option α) (s : σ) : σ :=
  match value with
  | some a => f (if path.isEmpty then "/" else path) a s
  | none => s

/-! ## Walks -/

/-- Tells the values behind steps in their order, a node before those below it, where the text is that of the node
that the steps leave; it is the same again afterwards. -/
def Steps.walk (f : String → α → σ → σ) : Steps α → String × σ → String × σ
  | .none, r => r
  | .step n v below next, (path, s) =>
    let room := path.utf8ByteSize
    let path := extended path n
    let (path, s) := walk f below (path, tell f path v s)
    walk f next (cutOff path room, s)

namespace Trie

/-- Tells every value with the spelling of its path. -/
def forEach (t : Trie α) (f : String → α → σ → σ) (s : σ) : σ :=
  (t.steps.walk f ("", tell f "" t.value s)).2

/-- All values with the spellings of their paths, in the order in which they are told. -/
def visits (t : Trie α) : List (String × α) := (t.forEach (fun path a told => (path, a) :: told) []).reverse

end Trie

/-! ## Cutting off -/

/-- What was added to a text is cut off again. -/
theorem cutOff_append (path more : String) : cutOff (path ++ more) path.utf8ByteSize = path := by
  have hfitting : ∀ cs cs' : List Char, fitting (String.ofList cs).utf8ByteSize (cs ++ cs') = cs := by
    intro cs cs'
    induction cs with
    | nil =>
      cases cs' with
      | nil => rfl
      | cons c cs' =>
        -- There is no room left, and every character takes some.
        have hpos : ¬ c.utf8Size ≤ 0 := Nat.not_le.mpr c.utf8Size_pos
        rw [String.ofList_nil, String.utf8ByteSize_empty, List.nil_append, fitting, if_neg hpos]
    | cons c cs ih =>
      rw [String.ofList_cons, String.utf8ByteSize_append, String.utf8ByteSize_singleton, List.cons_append, fitting,
        if_pos (Nat.le_add_right _ _), Nat.add_sub_cancel_left, ih]
  have hpath := hfitting path.toList more.toList
  rw [String.ofList_toList] at hpath
  rw [cutOff, String.toList_append, hpath, String.ofList_toList]

end HttpService
