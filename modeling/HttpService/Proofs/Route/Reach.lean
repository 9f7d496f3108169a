import Mathlib.Data.Finset.Card
import Mathlib.Data.Finset.Dedup
import HttpService.Proofs.Route.Lookup
import HttpService.Proofs.Route.Visits

/-!
# Which paths lead to a node

A path leads to a node if some way through the trie matches it, whether or not there is a value at its end. What the
search for a node says, and how many nodes have no steps, is read here off the lists of segments that were inserted.

* `reaches_iff` — the search for a node comes back from a literal step to a wildcard and misses no way.
* `reaches_iff_value`, `reaches_of_search` — the ways lead on to values, and all that a search finds is on one.
* `count_marked`, `valueAt?_marked` — the nodes without steps are counted as the values of a trie with marks there.
* `endsAt_iff` — a node has no steps where no longer list holds a value.
* `shape_of_inserted` — all of it for tries that grew by updates.
-/

namespace HttpService

variable {α : Type}

namespace Trie

/-! ## Ways to a node -/

/-- **A path leads to a node if a pattern of steps matches it.** The induction follows the path: each step has its
segment for a name or is a wildcard, and both are tried, also where the segment is the wildcard itself. -/
theorem reaches_iff (q : List Segment) (t : Trie α) :
    reaches q t = true ↔ ∃ p, Matches p q ∧ (t.node? p).isSome := by
  induction q generalizing t with
  | nil => exact iff_of_true rfl ⟨[], List.Forall₂.nil, rfl⟩
  | cons x q ih =>
    have hstep : ∀ s, (t.steps.follow? s).any (reaches q) = true ↔
        ∃ p, Matches p q ∧ (t.node? (s :: p)).isSome := by
      intro s
      cases hn : t.steps.follow? s with
      | none => simp [node?, hn]
      | some n => simp [node?, hn, ih]
    rw [reaches, Bool.or_eq_true, hstep, hstep]
    constructor
    · rintro (⟨p, hm, hn⟩ | ⟨p, hm, hn⟩)
      · exact ⟨x :: p, List.Forall₂.cons (.inl rfl) hm, hn⟩
      · exact ⟨wildcard :: p, List.Forall₂.cons (.inr rfl) hm, hn⟩
    · rintro ⟨p, hm, hn⟩
      -- A pattern that matches begins with the segment or with a wildcard, so one of the two ways is its own.
      obtain ⟨s, p', hs, hm', rfl⟩ := matches_cons_iff.mp hm
      rcases hs with rfl | rfl
      · exact .inl ⟨p', hm', hn⟩
      · exact .inr ⟨p', hm', hn⟩

/-- Where every step is needed, the ways are the beginnings of the lists that hold a value. -/
theorem reaches_iff_value {t : Trie α} (h : t.steps.Needed) (q : List Segment) :
    reaches q t = true ↔
      q = [] ∨ ∃ p, (t.valueAt? p).isSome ∧ q.length ≤ p.length ∧ Matches (p.take q.length) q := by
  rw [reaches_iff]
  constructor
  · rintro ⟨p, hm, hn⟩
    have hlength : p.length = q.length := hm.length_eq
    rcases (isSome_node?_iff h p).mp hn with rfl | ⟨rest, hvalue⟩
    · exact .inl (List.length_eq_zero_iff.mp hlength.symm)
    · -- The way is as long as the path, and the list that holds the value goes on from its end.
      refine .inr ⟨p ++ rest, hvalue, ?_, ?_⟩
      · rw [List.length_append]
        omega
      · rwa [← hlength, List.take_left]
  · rintro (rfl | ⟨p, hvalue, -, hm⟩)
    · exact ⟨[], List.Forall₂.nil, rfl⟩
    · refine ⟨p.take q.length, hm, (isSome_node?_iff h _).mpr (.inr ⟨p.drop q.length, ?_⟩)⟩
      rwa [List.take_append_drop]

/-- A path that a search resolves leads to a node. -/
theorem reaches_of_search {accept : α → Bool} {q : List Segment} {t : Trie α}
    (h : (search accept q t).isSome) : reaches q t = true := by
  obtain ⟨⟨a, ws⟩, hfound⟩ := Option.isSome_iff_exists.mp h
  obtain ⟨p, hp, -⟩ := exists_isFirst_of_search hfound
  have hvalue : (t.valueAt? p).isSome := by
    rw [hp.holds]
    rfl
  exact (reaches_iff q t).mpr ⟨p, hp.matches, Option.isSome_of_isSome_bind hvalue⟩

end Trie

/-- Where a handler is found there is a node. -/
theorem Router.contains_of_lookup {η : Type} {r : Router η} {m : Method} {path : String}
    (h : (r.lookup m path).isSome) : r.contains path = true := by
  rw [lookup_eq] at h
  exact Trie.reaches_of_search (Option.isSome_of_isSome_bind h)

/-! ## Marks at the ends -/

namespace Steps

/-- The mark of a node with these steps, which only a node without any has. -/
def mark : Steps α → Option Unit
  | .none => some ()
  | .step _ _ _ _ => .none

/-- The same steps with a mark at each node without steps, and no other values. -/
def marked : Steps α → Steps Unit
  | .none => .none
  | .step n _ below next => .step n below.mark below.marked next.marked

theorem mark_eq_some_iff {steps : Steps α} {u : Unit} : steps.mark = some u ↔ steps = .none := by
  cases steps with
  | none => exact iff_of_true rfl rfl
  | step n v below next => exact iff_of_false nofun nofun

theorem names_marked (steps : Steps α) : steps.marked.names = steps.names := by
  induction steps with
  | none => rfl
  | step n v below next _ ih => rw [marked, names, names, ih]

theorem Proper.marked {steps : Steps α} (h : steps.Proper) : steps.marked.Proper := by
  induction steps with
  | none => exact trivial
  | step n v below next ihb ihn =>
    obtain ⟨hne, hfresh, hbelow, hnext⟩ := h
    exact ⟨hne, by rwa [names_marked], ihb hbelow, ihn hnext⟩

end Steps

/-- The trie with a mark at each node without steps, and no other values. -/
def Trie.marked (t : Trie α) : Trie Unit := ⟨t.steps.mark, t.steps.marked⟩

/-- Behind a step of the marked trie is the marked node. -/
theorem Steps.follow?_marked (steps : Steps α) (s : Segment) :
    steps.marked.follow? s = (steps.follow? s).map Trie.marked := by
  induction steps with
  | none => rfl
  | step n v below next _ ih =>
    rw [marked, follow?, follow?, ih]
    split <;> rfl

namespace Trie

/-- The marks are as many as the nodes without steps. -/
theorem count_marked (t : Trie α) : t.marked.count = t.size := by
  -- A node is counted with its own mark where it has no steps, and with those below where it has some.
  have hnode : ∀ (v : Option α) (steps : Steps α), steps.marked.count = steps.leaves →
      (⟨v, steps⟩ : Trie α).marked.count = (⟨v, steps⟩ : Trie α).size := by
    intro v steps hsteps
    cases steps with
    | none => rfl
    | step n w below next =>
      have hleaves : (⟨v, .step n w below next⟩ : Trie α).size = (Steps.step n w below next).leaves := rfl
      rw [hleaves, ← hsteps]
      exact Nat.zero_add _
  refine hnode t.value t.steps ?_
  induction t.steps with
  | none => rfl
  | step n v below next ihb ihn =>
    rw [leaves_step, ← hnode v below ihb, ← ihn]
    rfl

/-- The list leads to a node without steps. -/
def EndsAt (t : Trie α) (p : List Segment) : Prop := ∃ n, t.node? p = some n ∧ n.steps = .none

/-- What a list leads to in the marked trie is whether it leads to a node without steps. -/
theorem valueAt?_marked (t : Trie α) (p : List Segment) :
    t.marked.valueAt? p = (t.node? p).bind (·.steps.mark) := by
  induction p generalizing t with
  | nil => rfl
  | cons s ss ih =>
    rw [valueAt?_cons, node?, marked, Steps.follow?_marked, Option.bind_map, Option.bind_assoc]
    congr 1
    funext n
    exact ih n

/-- The lists that lead to nodes without steps are listed as the entries of their marks. -/
theorem mem_ends_iff {t : Trie α} (h : t.steps.Proper) (p : List Segment) :
    p ∈ t.marked.entries.map (·.1) ↔ t.EndsAt p := by
  have hentry : p ∈ t.marked.entries.map (·.1) ↔ (p, ()) ∈ t.marked.entries := by
    rw [List.mem_map]
    constructor
    · rintro ⟨e, he, rfl⟩
      exact he
    · intro he
      exact ⟨(p, ()), he, rfl⟩
  rw [hentry, mem_entries_iff h.marked, valueAt?_marked, Option.bind_eq_some_iff]
  simp only [Steps.mark_eq_some_iff]
  rfl

/-- **No longer list holds a value where a trie ends**, if it holds any. -/
theorem endsAt_iff {t : Trie α} (h : t.steps.Needed) (hheld : ∃ q, (t.valueAt? q).isSome) (p : List Segment) :
    t.EndsAt p ↔ (t.valueAt? p).isSome ∧ ∀ q, (t.valueAt? q).isSome → p <+: q → q = p := by
  -- Behind a node without steps nothing is found.
  have hbehind : ∀ n : Trie α, n.steps = .none → ∀ ss, (n.valueAt? ss).isSome → ss = [] := by
    intro n hsteps ss hvalue
    cases ss with
    | nil => rfl
    | cons s ss =>
      rw [valueAt?_cons, hsteps] at hvalue
      cases hvalue
  constructor
  · rintro ⟨n, hn, hsteps⟩
    refine ⟨?_, ?_⟩
    · by_cases hp : p = []
      · -- The root is all there is, so the value is its own.
        subst hp
        obtain rfl := Option.some.inj hn
        obtain ⟨q, hq⟩ := hheld
        rwa [hbehind t hsteps q hq] at hq
      · rw [valueAt?, hn]
        exact (value_or_steps_of_node? h hp hn).resolve_right fun hne => hne hsteps
    · rintro _ hq ⟨rest, rfl⟩
      rw [valueAt?_append, hn, Option.bind_some] at hq
      rw [hbehind n hsteps rest hq, List.append_nil]
  · rintro ⟨hvalue, hlast⟩
    obtain ⟨n, hn⟩ := Option.isSome_iff_exists.mp (Option.isSome_of_isSome_bind hvalue)
    refine ⟨n, hn, ?_⟩
    by_contra hsteps
    obtain ⟨s, ss, hq⟩ := exists_value_behind h hn hsteps
    have hlonger := hlast _ hq (List.prefix_append p (s :: ss))
    simp at hlonger

/-- A trie without values is a single node, where every step is needed. -/
theorem size_eq_one {t : Trie α} (h : t.steps.Needed) (hnothing : ∀ q, t.valueAt? q = none) : t.size = 1 := by
  have hsteps : t.steps = .none := by
    refine h.eq_none fun s ss => ?_
    rw [← valueAt?_cons, hnothing]
  rw [size, hsteps]

/-! ## Tries that grew by updates -/

/-- **The shape of a trie is that of the lists inserted.** After any updates a path leads to a node exactly when it has
no segments or some inserted list is at least as long and has, in each place of the path, its segment or a wildcard; so
every path that a search or a router resolves leads to a node. The nodes without steps are as many as the inserted lists
with which no longer one begins, and one if nothing was inserted. -/
theorem shape_of_inserted (us : List (Update α)) :
    (∀ path, (ofUpdates us).contains path = true ↔
      segments path = [] ∨ ∃ p ∈ Update.inserted us, (segments path).length ≤ p.length ∧
        Matches (p.take (segments path).length) (segments path)) ∧
    (∀ path accept, ((ofUpdates us).find path accept).isSome → (ofUpdates us).contains path = true) ∧
    (∀ (η : Type) (r : Router η) m path, (r.lookup m path).isSome → r.contains path = true) ∧
    (ofUpdates us).size =
      if Update.inserted us = ∅ then 1
      else ((Update.inserted us).filter fun p => ∀ q ∈ Update.inserted us, p <+: q → q = p).card := by
  have hproper := steps_proper_ofUpdates us
  have hneeded := needed_ofUpdates us
  have hheld : ∀ p, ((ofUpdates us).valueAt? p).isSome ↔ p ∈ Update.inserted us := by
    intro p
    rw [valueAt?_ofUpdates, Update.isSome_stored_iff]
  refine ⟨?_, fun path accept hfound => reaches_of_search (find_eq_search _ path accept ▸ hfound),
    fun η r m path => Router.contains_of_lookup, ?_⟩
  · intro path
    rw [contains, reaches_iff_value hneeded]
    simp only [hheld]
  · split
    next hnothing =>
      refine size_eq_one hneeded fun q => ?_
      rw [← Option.not_isSome_iff_eq_none, hheld, hnothing]
      exact Finset.notMem_empty q
    next hsome =>
      obtain ⟨p₀, hp₀⟩ := Finset.nonempty_iff_ne_empty.mpr hsome
      -- The marks are listed once for each node without steps, so their number is that of these lists.
      have hends : (Update.inserted us).filter (fun p => ∀ q ∈ Update.inserted us, p <+: q → q = p) =
          ((ofUpdates us).marked.entries.map (·.1)).toFinset := by
        ext p
        rw [List.mem_toFinset, mem_ends_iff hproper, endsAt_iff hneeded ⟨p₀, (hheld p₀).mpr hp₀⟩, Finset.mem_filter]
        simp only [hheld]
      rw [hends, List.toFinset_card_of_nodup (nodup_entries hproper.marked), List.length_map,
        ← count_eq_length_entries, count_marked]

/-- A literal step without a value hides no wildcard, and a list inside of a longer one is no end. -/
theorem shape_of_inserted_files :
    ((ofUpdates [.insert "/files/latest/raw" 1, .insert "files//*" 2, .insert "/files" 3]).find "/files/latest"
      fun _ => true).isSome ∧
    (ofUpdates [.insert "/files/latest/raw" 1, .insert "files//*" 2, .insert "/files" 3]).contains
      "/files/latest" = true ∧
    ((Router.ofInsertions [⟨"/files/*", .get, 1⟩]).lookup .get "/files/latest").isSome ∧
    (Router.ofInsertions [⟨"/files/*", .get, 1⟩]).contains "/files/latest" = true ∧
    (ofUpdates [.insert "/files/latest/raw" 1, .insert "files//*" 2, .insert "/files" 3]).size = 2 := by
  have hfound : ((ofUpdates [.insert "/files/latest/raw" 1, .insert "files//*" 2, .insert "/files" 3]).find
      "/files/latest" fun _ => true).isSome := by decide +kernel
  have hrouted : ((Router.ofInsertions [⟨"/files/*", .get, 1⟩]).lookup .get "/files/latest").isSome := by
    decide +kernel
  obtain ⟨-, hfind, hlookup, hsize⟩ :=
    shape_of_inserted [.insert "/files/latest/raw" 1, .insert "files//*" 2, .insert "/files" 3]
  exact ⟨hfound, hfind _ _ hfound, hrouted, hlookup _ _ _ _ hrouted, hsize.trans (by decide +kernel)⟩

end Trie

end HttpService
