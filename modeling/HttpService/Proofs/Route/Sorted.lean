import HttpService.Proofs.Route.Search
import HttpService.Proofs.Route.Shape

/-!
# Sorted tries

Steps keep the order in which they were first made, which tells of the history of a trie and of nothing that it
answers. Sorting takes the history away: every access goes by the name of a step (`Steps.follow?_sorted`), so it finds
in the sorted trie what it finds in the other, and the sorted trie is the same for all histories that leave the same
values.

* `valueAt?_sorted`, `search_sorted`, `reaches_sorted`, `size_sorted`, `count_sorted` — what sorting keeps, of any
  trie.
* `ascending_sorted`, `sorted_eq_self` — the order that it makes, and that it is made once.
* `sorted_canonical` — all of it for tries that grew by updates, with the sorted trie as a canonical form.
-/

namespace HttpService

variable {α : Type}

namespace Steps

/-! ## Placing a step -/

/-- A step is found where it is placed, and the others are found as before. -/
theorem follow?_place (n : Segment) (v : Option α) (below steps : Steps α) (s : Segment) :
    (place n v below steps).follow? s = if n = s then some ⟨v, below⟩ else steps.follow? s := by
  induction steps with
  | none => rfl
  | step m w b next _ ih =>
    rw [place]
    split
    next hlt =>
      rw [follow?, ih, follow?]
      by_cases hm : m = s
      · -- The step that is passed over is smaller, so it has another name.
        have hn : n ≠ s := fun e => lt_irrefl m (by rwa [e, ← hm] at hlt)
        rw [if_pos hm, if_neg hn, if_pos hm]
      · rw [if_neg hm, if_neg hm]
    next => rw [follow?]

theorem mem_names_place (n : Segment) (v : Option α) (below steps : Steps α) (m : Segment) :
    m ∈ (place n v below steps).names ↔ m = n ∨ m ∈ steps.names := by
  induction steps with
  | none => simp [place, names]
  | step k w b next _ ih =>
    rw [place]
    split
    · simp only [names, List.mem_cons, ih]
      exact or_left_comm
    · simp only [names, List.mem_cons]

/-- It adds the nodes of that step, wherever among the others it comes. -/
theorem leaves_place (n : Segment) (v : Option α) (below steps : Steps α) :
    (place n v below steps).leaves = (step n v below steps).leaves := by
  induction steps with
  | none => rfl
  | step m w b next _ ih =>
    rw [place]
    split
    · rw [Trie.leaves_step, ih, Trie.leaves_step, Trie.leaves_step, Trie.leaves_step]
      omega
    · rfl

theorem count_place (n : Segment) (v : Option α) (below steps : Steps α) :
    (place n v below steps).count = (step n v below steps).count := by
  induction steps with
  | none => rfl
  | step m w b next _ ih =>
    rw [place]
    split
    · simp only [count, ih]
      omega
    · rfl

theorem place_ne_none (n : Segment) (v : Option α) (below steps : Steps α) :
    place n v below steps ≠ .none := by
  cases steps with
  | none => nofun
  | step m w b next =>
    unfold place
    split <;> nofun

/-- A new name among ascending ones is placed so that they still ascend. -/
theorem Ascending.place {n : Segment} {v : Option α} {below steps : Steps α} (hbelow : below.Ascending)
    (h : steps.Ascending) (hn : n ∉ steps.names) : (place n v below steps).Ascending := by
  -- Along the steps, up to the first with a greater name.
  induction steps with
  | none => exact ⟨nofun, hbelow, trivial⟩
  | step m w b next _ ih =>
    obtain ⟨hm, hb, hnext⟩ := h
    rw [names, List.mem_cons, not_or] at hn
    rw [Steps.place]
    split
    next hlt =>
      refine ⟨?_, hb, ih hnext hn.2⟩
      intro k hk
      rcases (mem_names_place n v below next k).mp hk with rfl | hk
      · exact hlt
      · exact hm k hk
    next hle =>
      have hlt : n < m := lt_of_le_of_ne (not_lt.mp hle) hn.1
      refine ⟨?_, hbelow, hm, hb, hnext⟩
      intro k hk
      rcases List.mem_cons.mp hk with rfl | hk
      · exact hlt
      · exact lt_trans hlt (hm k hk)

/-- In front of greater names a step stays in front. -/
theorem place_eq_step {n : Segment} {steps : Steps α} (h : ∀ m ∈ steps.names, n < m) (v : Option α)
    (below : Steps α) : place n v below steps = step n v below steps := by
  cases steps with
  | none => rfl
  | step m w b next =>
    have hlt : n < m := h m List.mem_cons_self
    rw [place, if_neg (lt_asymm hlt)]

/-! ## Sorting steps -/

/-- Sorting leaves each name where it led, to the sorted node. -/
theorem follow?_sorted (steps : Steps α) (s : Segment) :
    steps.sorted.follow? s = (steps.follow? s).map Trie.sorted := by
  induction steps with
  | none => rfl
  | step n v below next _ ih =>
    rw [sorted, follow?_place, ih, follow?]
    split <;> rfl

/-- Sorting neither makes steps nor drops them. -/
theorem sorted_eq_none_iff (steps : Steps α) : steps.sorted = .none ↔ steps = .none := by
  cases steps with
  | none => exact Iff.rfl
  | step n v below next => exact iff_of_false (place_ne_none _ _ _ _) nofun

/-- A node is counted by what is below it, so sorting there does not change the count. -/
theorem size_sorted_below {below : Steps α} (h : below.sorted.leaves = below.leaves) (v : Option α) :
    (⟨v, below.sorted⟩ : Trie α).size = (⟨v, below⟩ : Trie α).size := by
  by_cases hnone : below = .none
  · rw [hnone, sorted]
  · have hsorted : below.sorted ≠ .none := mt (sorted_eq_none_iff below).mp hnone
    rw [Trie.size_eq_leaves hsorted, Trie.size_eq_leaves hnone, h]

/-- Sorting keeps the number of nodes without steps. -/
theorem leaves_sorted (steps : Steps α) : steps.sorted.leaves = steps.leaves := by
  induction steps with
  | none => rfl
  | step n v below next ihb ihn =>
    rw [sorted, leaves_place, Trie.leaves_step, size_sorted_below ihb, ihn, Trie.leaves_step]

theorem count_sorted (steps : Steps α) : steps.sorted.count = steps.count := by
  induction steps with
  | none => rfl
  | step n v below next ihb ihn => rw [sorted, count_place, count, ihb, ihn, count]

theorem mem_names_sorted (steps : Steps α) (s : Segment) : s ∈ steps.sorted.names ↔ s ∈ steps.names := by
  induction steps with
  | none => exact Iff.rfl
  | step n v below next _ ih => rw [sorted, mem_names_place, ih, names, List.mem_cons]

/-- Steps of different names are ascending when they are sorted. -/
theorem ascending_sorted {steps : Steps α} (h : steps.Proper) : steps.sorted.Ascending := by
  induction steps with
  | none => exact trivial
  | step n v below next ihb ihn =>
    obtain ⟨-, hfresh, hbelow, hnext⟩ := h
    exact (ihb hbelow).place (ihn hnext) fun hmem => hfresh ((mem_names_sorted next n).mp hmem)

/-- Steps that ascend already are left as they are. -/
theorem Ascending.sorted_eq_self {steps : Steps α} (h : steps.Ascending) : steps.sorted = steps := by
  induction steps with
  | none => rfl
  | step n v below next ihb ihn =>
    rw [sorted, ihb h.2.1, ihn h.2.2, place_eq_step h.1]

/-- A needed step is needed wherever it is placed. -/
theorem Needed.place {n : Segment} {v : Option α} {below steps : Steps α} (hn : v.isSome ∨ below ≠ .none)
    (hbelow : below.Needed) (h : steps.Needed) : (place n v below steps).Needed := by
  induction steps with
  | none => exact ⟨hn, hbelow, trivial⟩
  | step m w b next _ ih =>
    rw [Steps.place]
    split
    · exact ⟨h.1, h.2.1, ih h.2.2⟩
    · exact ⟨hn, hbelow, h⟩

/-- Sorting leaves every step needed. -/
theorem needed_sorted {steps : Steps α} (h : steps.Needed) : steps.sorted.Needed := by
  induction steps with
  | none => exact trivial
  | step n v below next ihb ihn =>
    obtain ⟨hn, hbelow, hnext⟩ := h
    exact .place (hn.imp_right (mt (sorted_eq_none_iff below).mp)) (ihb hbelow) (ihn hnext)

end Steps

namespace Trie

/-! ## What sorting keeps -/

/-- A list leads to the sorted node. -/
theorem node?_sorted (t : Trie α) (p : List Segment) : t.sorted.node? p = (t.node? p).map sorted := by
  induction p generalizing t with
  | nil => rfl
  | cons s ss ih =>
    rw [node?, node?, sorted, Steps.follow?_sorted, Option.bind_map, Option.map_bind]
    congr 1
    funext n
    exact ih n

theorem valueAt?_sorted (t : Trie α) (p : List Segment) : t.sorted.valueAt? p = t.valueAt? p := by
  rw [valueAt?, node?_sorted, Option.bind_map]
  rfl

/-- A search asks for two names at each node, and so finds the same. -/
theorem search_sorted (accept : α → Bool) (q : List Segment) (t : Trie α) :
    search accept q t.sorted = search accept q t := by
  induction q generalizing t with
  | nil => rfl
  | cons s ss ih =>
    -- Both branches follow one name, and sorting moves no name to another trie.
    have hliteral : literal accept s ss t.sorted = literal accept s ss t := by
      rw [literal, literal, sorted, Steps.follow?_sorted, Option.bind_map]
      congr 2
      funext n
      exact ih n
    rw [search_cons, search_cons, hliteral, sorted, Steps.follow?_sorted, Option.bind_map]
    congr 2
    funext n
    exact congrArg _ (ih n)

/-- Putting the steps in order changes nothing of what a path leads to. -/
theorem find_sorted (t : Trie α) (path : String) (accept : α → Bool) :
    t.sorted.find path accept = t.find path accept := by
  rw [find_eq_search, find_eq_search, search_sorted]

/-- A search for a node asks for the same two names. -/
theorem reaches_sorted (q : List Segment) (t : Trie α) : reaches q t.sorted = reaches q t := by
  induction q generalizing t with
  | nil => rfl
  | cons s ss ih =>
    have hways : ∀ name, (t.sorted.steps.follow? name).any (reaches ss) = (t.steps.follow? name).any (reaches ss) := by
      intro name
      rw [sorted, Steps.follow?_sorted, Option.any_map]
      congr 1
      funext n
      exact ih n
    rw [reaches, reaches, hways, hways]

/-- A sorted trie is of the same size. -/
theorem size_sorted (t : Trie α) : t.sorted.size = t.size :=
  Steps.size_sorted_below (Steps.leaves_sorted t.steps) t.value

theorem count_sorted (t : Trie α) : t.sorted.count = t.count := by
  rw [count, sorted, Steps.count_sorted, count]

/-! ## The canonical form -/

/-- In a trie that ascends, every node does. -/
theorem Ascending.of_isNode {t n : Trie α} (h : t.steps.Ascending) (hn : t.IsNode n) : n.steps.Ascending := by
  induction hn with
  | root => exact h
  | behind _ hmem ih => exact ih.of_mem_nodes hmem

/-- Two tries that hold the same, and have no steps but those that are needed, are sorted into the same trie. -/
theorem sorted_eq_of_values {t t' : Trie α} (hp : t.steps.Proper) (hp' : t'.steps.Proper) (hn : t.steps.Needed)
    (hn' : t'.steps.Needed) (hsame : ∀ p, t.valueAt? p = t'.valueAt? p) : t.sorted = t'.sorted := by
  have hvalue : t.value = t'.value := hsame []
  have hsteps : t.steps.sorted = t'.steps.sorted := by
    refine Steps.eq_of_values (Steps.ascending_sorted hp) (Steps.ascending_sorted hp') (Steps.needed_sorted hn)
      (Steps.needed_sorted hn') fun s ss => ?_
    have hheld : t.sorted.valueAt? (s :: ss) = t'.sorted.valueAt? (s :: ss) := by
      rw [valueAt?_sorted, valueAt?_sorted, hsame]
    rwa [valueAt?_cons, valueAt?_cons] at hheld
  rw [sorted, sorted, hvalue, hsteps]

/-- **Sorting gives a canonical form.** Whatever updates a trie grew by, sorting changes nothing that is found in it:
the value of a path, what a search finds with any condition and what it captures, which paths lead to a node, and both
counts. In the sorted trie the steps out of every node ascend, and sorting it again changes nothing. Updates that leave
the same values, in whatever order and however often, are sorted into the same trie. -/
theorem sorted_canonical (us : List (Update α)) :
    (∀ path, (ofUpdates us).sorted.get? path = (ofUpdates us).get? path) ∧
    (∀ path accept, (ofUpdates us).sorted.find path accept = (ofUpdates us).find path accept) ∧
    (∀ path, (ofUpdates us).sorted.contains path = (ofUpdates us).contains path) ∧
    (ofUpdates us).sorted.size = (ofUpdates us).size ∧
    (ofUpdates us).sorted.count = (ofUpdates us).count ∧
    (∀ n, (ofUpdates us).sorted.IsNode n → n.steps.names.Pairwise (· < ·)) ∧
    (ofUpdates us).sorted.sorted = (ofUpdates us).sorted ∧
    (∀ us' : List (Update α), (∀ p, Update.stored us' p = Update.stored us p) →
      (ofUpdates us').sorted = (ofUpdates us).sorted) := by
  have hascending := Steps.ascending_sorted (steps_proper_ofUpdates us)
  refine ⟨fun path => valueAt?_sorted _ _, fun path accept => find_sorted _ path accept,
    fun path => reaches_sorted _ _, size_sorted _, count_sorted _, ?_, ?_, ?_⟩
  · intro n hn
    exact (Ascending.of_isNode hascending hn).pairwise
  · have hsteps := hascending.sorted_eq_self
    rw [sorted, sorted, hsteps]
  · intro us' hsame
    refine sorted_eq_of_values (steps_proper_ofUpdates us') (steps_proper_ofUpdates us) (needed_ofUpdates us')
      (needed_ofUpdates us) fun p => ?_
    rw [valueAt?_ofUpdates, valueAt?_ofUpdates, hsame]

/-- A history with a path stored twice, its beginning stored later and other spellings leaves the same as a short
one. -/
theorem sorted_canonical_again :
    (∀ p, Update.stored [.insert "/c" 3, .insert "/a/b" 7, .insert "/a" 1, .insert "a//b/" 2] p =
      Update.stored [.insert "/a" 1, .insert "/a/b" 2, .insert "/c/" 3] p) ∧
    (ofUpdates [.insert "/c" 3, .insert "/a/b" 7, .insert "/a" 1, .insert "a//b/" 2]).sorted =
      (ofUpdates [.insert "/a" 1, .insert "/a/b" 2, .insert "/c/" 3]).sorted := by
  have hsame : ∀ p, Update.stored [.insert "/c" 3, .insert "/a/b" 7, .insert "/a" 1, .insert "a//b/" 2] p =
      Update.stored [.insert "/a" 1, .insert "/a/b" 2, .insert "/c/" 3] p := by
    intro p
    have hc : segments "/c" = ["c"] ∧ segments "/c/" = ["c"] := by decide
    have ha : segments "/a" = ["a"] := by decide
    have hab : segments "/a/b" = ["a", "b"] ∧ segments "a//b/" = ["a", "b"] := by decide
    by_cases hp : p = ["a"] ∨ p = ["a", "b"] ∨ p = ["c"]
    · rcases hp with rfl | rfl | rfl <;> decide
    · -- No other path is stored.
      simp only [not_or] at hp
      obtain ⟨hpa, hpab, hpc⟩ := hp
      simp [Update.stored, Update.path, hc, ha, hab, Ne.symm hpa, Ne.symm hpab, Ne.symm hpc]
  exact ⟨hsame, (sorted_canonical _).2.2.2.2.2.2.2 _ hsame⟩

end Trie

end HttpService
