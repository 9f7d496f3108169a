import Mathlib.Data.List.Induction
import HttpService.Route.Router
import HttpService.Proofs.Route.Search

/-!
# Which handler a router finds

A router is built by a list of insertions. What it answers is compared here with the list alone: the final routes
are the handlers inserted last for each pair of a pattern's segments and a method (`lastHandler?`), and a lookup
asks for the first matching pattern that has the method among them (`IsFirstRoute`).

* `handlerAt?_ofInsertions` — the router holds the final routes and nothing else.
* `lookup_ofInsertions` — a lookup finds nothing exactly when no final route matches; otherwise it finds the
  handler of the first one with the segments under its wildcards. Neither depends on the order in which different
  pairs were inserted.
-/

namespace HttpService

/-! ## Handlers of one pattern -/

/-- Setting a method's handler changes that method alone. -/
theorem MethodTable.lookup_set {η : Type} (ms : MethodTable η) (m : Method) (h : η) (m' : Method) :
    (ms.set m h).lookup m' = if m' = m then some h else ms.lookup m' := by
  -- Taking out the method's old handler hides no other.
  have hothers : (ms.filter fun e => e.1 != m).lookup m' = if m' = m then none else ms.lookup m' := by
    induction ms with
    | nil => simp
    | cons e es ih =>
      obtain ⟨k, v⟩ := e
      by_cases hk : k = m
      · subst hk
        rw [List.filter_cons_of_neg (by simp), ih]
        by_cases hm : m' = k
        · rw [if_pos hm, if_pos hm]
        · rw [if_neg hm, if_neg hm, List.lookup_cons, beq_eq_false_iff_ne.mpr hm]
      · rw [List.filter_cons_of_pos (by simpa using hk), List.lookup_cons, List.lookup_cons, ih]
        by_cases hm : m' = k
        · subst hm
          simp [hk]
        · rw [beq_eq_false_iff_ne.mpr hm]
  rw [MethodTable.set, List.lookup_append, hothers]
  by_cases hm : m' = m
  · subst hm
    simp
  · rw [if_neg hm, if_neg hm, List.lookup_cons, beq_eq_false_iff_ne.mpr hm]
    simp

namespace Router

variable {η : Type}

/-! ## Insertions -/

/-- One call that routes a method and a path pattern to a handler. -/
structure Insertion (η : Type) where
  pattern : String
  method : Method
  handler : η

/-- Whether the insertion is for this pair of segments and a method. -/
def Insertion.isFor (e : Insertion η) (p : List Segment) (m : Method) : Bool :=
  segments e.pattern = p ∧ e.method = m

/-- The router that some insertions make, one after the other. -/
def ofInsertions (es : List (Insertion η)) : Router η :=
  es.foldl (fun r e => (r.insert e.pattern e.method e.handler).1) empty

theorem ofInsertions_append_singleton (es : List (Insertion η)) (e : Insertion η) :
    ofInsertions (es ++ [e]) = ((ofInsertions es).insert e.pattern e.method e.handler).1 := by
  rw [ofInsertions, List.foldl_append]
  rfl

/-- The handler inserted last for a pattern's segments and a method: the final route of that pair. -/
def lastHandler? (es : List (Insertion η)) (p : List Segment) (m : Method) : Option η :=
  (es.filter fun e => e.isFor p m).getLast?.map (·.handler)

/-- The handler stored under a pattern's segments and a method. -/
def handlerAt? (r : Router η) (p : List Segment) (m : Method) : Option η :=
  (r.routes.valueAt? p).bind fun t => t.lookup m

/-- An insertion sets one handler, for its own method at its own pattern, and leaves all others. -/
theorem handlerAt?_insert (r : Router η) (pattern : String) (m : Method) (h : η) (p : List Segment)
    (m' : Method) :
    (r.insert pattern m h).1.handlerAt? p m' =
      if segments pattern = p ∧ m = m' then some h else r.handlerAt? p m' := by
  simp only [handlerAt?, insert]
  rw [Trie.valueAt?_adjustAt]
  by_cases hp : p = segments pattern
  · subst hp
    rw [if_pos rfl, Option.bind_some, MethodTable.lookup_set]
    -- A pattern without a table has a handler for no method, as under an empty table.
    have hold : ((r.routes.valueAt? (segments pattern)).getD []).lookup m' =
        (r.routes.valueAt? (segments pattern)).bind fun t => t.lookup m' := by
      cases r.routes.valueAt? (segments pattern) with
      | none => rfl
      | some t => rfl
    rw [hold]
    by_cases hm : m' = m
    · rw [if_pos hm, if_pos ⟨rfl, hm.symm⟩]
    · rw [if_neg hm, if_neg fun c => hm c.2.symm]
  · rw [if_neg hp, if_neg fun c => hp c.1.symm]

/-- **The router holds the final routes.** One insertion changes the route of its own pair, so after a run of them
each pair has the handler of its last insertion. -/
theorem handlerAt?_ofInsertions (es : List (Insertion η)) (p : List Segment) (m : Method) :
    (ofInsertions es).handlerAt? p m = lastHandler? es p m := by
  induction es using List.reverseRecOn with
  | nil =>
    show (Trie.empty.valueAt? p).bind _ = _
    rw [Trie.valueAt?_empty]
    rfl
  | append_singleton es e ih =>
    -- The insertion at the end is the last step, and wins over all before it.
    rw [ofInsertions_append_singleton, handlerAt?_insert, ih, lastHandler?, lastHandler?, List.filter_append]
    by_cases he : segments e.pattern = p ∧ e.method = m
    · have hfor : e.isFor p m = true := by simpa [Insertion.isFor] using he
      rw [if_pos he]
      simp [hfor]
    · have hfor : ¬ e.isFor p m = true := by simpa [Insertion.isFor] using he
      rw [if_neg he]
      simp [hfor]

/-! ## Lookups -/

/-- The pattern is the first that matches a path and has a final route for the method. -/
structure IsFirstRoute (es : List (Insertion η)) (m : Method) (q p : List Segment) : Prop where
  «matches» : Matches p q
  routed : (lastHandler? es p m).isSome
  first : ∀ p', Matches p' q → (lastHandler? es p' m).isSome → p' = p ∨ Precedes p p'

/-- A lookup is a search for a node that has a route for the method. -/
theorem lookup_eq (r : Router η) (m : Method) (path : String) :
    r.lookup m path =
      (Trie.search (fun t => (t.lookup m).isSome) (segments path) r.routes).bind fun f =>
        (f.1.lookup m).map fun h => ⟨h, f.2⟩ := by
  rw [lookup, Trie.find_eq_search]
  cases Trie.search (fun t : MethodTable η => (t.lookup m).isSome) (segments path) r.routes with
  | none => rfl
  | some f =>
    obtain ⟨t, ws⟩ := f
    show (t.lookup m).bind _ = (t.lookup m).map _
    cases t.lookup m with
    | none => rfl
    | some h => rfl

/-- A pattern holds a table with the method exactly when it has a handler for it. -/
theorem handlerAt?_eq_some_iff {r : Router η} {p : List Segment} {m : Method} {h : η} :
    r.handlerAt? p m = some h ↔ ∃ t, r.routes.valueAt? p = some t ∧ t.lookup m = some h :=
  Option.bind_eq_some_iff

/-- A path is not routed exactly where no pattern that matches it has the method. -/
theorem lookup_eq_none_iff (r : Router η) (m : Method) (path : String) :
    r.lookup m path = none ↔ ∀ p, Matches p (segments path) → r.handlerAt? p m = none := by
  rw [lookup_eq]
  constructor
  · intro h p hm
    rw [Option.eq_none_iff_forall_ne_some]
    intro g hg
    obtain ⟨t, ht, hl⟩ := handlerAt?_eq_some_iff.mp hg
    cases hsearch : Trie.search (fun t => (t.lookup m).isSome) (segments path) r.routes with
    | none =>
      -- The table would have been accepted.
      have hrej := (Trie.search_eq_none_iff _ _ _).mp hsearch p t hm ht
      simp [hl] at hrej
    | some f =>
      obtain ⟨t', ws⟩ := f
      obtain ⟨_, hp', _⟩ := (Trie.search_eq_some_iff _ _ _ _ _).mp hsearch
      -- A table that was accepted has the method, so a match would have been returned.
      obtain ⟨g', hg'⟩ := Option.isSome_iff_exists.mp hp'.accepted
      rw [hsearch, Option.bind_some, hg'] at h
      cases h
  · intro h
    rw [Option.bind_eq_none_iff]
    intro f hsearch
    obtain ⟨t, ws⟩ := f
    obtain ⟨p, hp, _⟩ := (Trie.search_eq_some_iff _ _ _ _ _).mp hsearch
    have hnone := h p hp.matches
    rw [handlerAt?, hp.holds, Option.bind_some] at hnone
    rw [hnone]
    rfl

/-- A lookup finds the handler of the first pattern that matches and has the method. -/
theorem lookup_eq_some_iff (r : Router η) (m : Method) (path : String) (found : RouteMatch η) :
    r.lookup m path = some found ↔
      ∃ p, Matches p (segments path) ∧ r.handlerAt? p m = some found.handler ∧
        (∀ p', Matches p' (segments path) → (r.handlerAt? p' m).isSome → p' = p ∨ Precedes p p') ∧
        found.wildcards = captured p (segments path) := by
  -- The search accepts a node by its table, so the first pattern that has a route for the method is the one it finds.
  rw [lookup_eq, Option.bind_eq_some_iff]
  constructor
  · rintro ⟨⟨t, ws⟩, hsearch, hmap⟩
    obtain ⟨h, hh, rfl⟩ := Option.map_eq_some_iff.mp hmap
    obtain ⟨p, hp, hws⟩ := (Trie.search_eq_some_iff _ _ _ _ _).mp hsearch
    refine ⟨p, hp.matches, handlerAt?_eq_some_iff.mpr ⟨t, hp.holds, hh⟩, ?_, hws⟩
    intro p' hm' hsome
    obtain ⟨h', hh'⟩ := Option.isSome_iff_exists.mp hsome
    obtain ⟨t', ht', hl'⟩ := handlerAt?_eq_some_iff.mp hh'
    exact hp.first p' t' hm' ht' (by simp [hl'])
  · rintro ⟨p, hm, hh, hfirst, hws⟩
    obtain ⟨t, ht, hl⟩ := handlerAt?_eq_some_iff.mp hh
    refine ⟨⟨t, captured p (segments path)⟩, ?_, ?_⟩
    · rw [Trie.search_eq_some_iff]
      refine ⟨p, ⟨hm, ht, by simp [hl], ?_⟩, rfl⟩
      intro p' t' hm' ht' hacc
      obtain ⟨h', hh'⟩ := Option.isSome_iff_exists.mp hacc
      have hat : r.handlerAt? p' m = some h' := handlerAt?_eq_some_iff.mpr ⟨t', ht', hh'⟩
      exact hfirst p' hm' (by rw [hat]; rfl)
    · rw [hl, ← hws]
      rfl

/-- Two routers with the same handlers under every pattern answer every lookup alike. -/
theorem lookup_congr {r r' : Router η} (h : ∀ p m, r.handlerAt? p m = r'.handlerAt? p m) (m : Method)
    (path : String) : r.lookup m path = r'.lookup m path := by
  apply Option.ext
  intro found
  rw [lookup_eq_some_iff, lookup_eq_some_iff]
  simp only [h]

/-- What a lookup finds was inserted. -/
theorem exists_insertion_of_lookup {es : List (Insertion η)} {m : Method} {path : String} {found : RouteMatch η}
    (h : (ofInsertions es).lookup m path = some found) : ∃ e ∈ es, e.handler = found.handler := by
  obtain ⟨p, -, hhandler, -⟩ := (lookup_eq_some_iff _ _ _ _).mp h
  rw [handlerAt?_ofInsertions] at hhandler
  obtain ⟨e, hlast, he⟩ := Option.map_eq_some_iff.mp hhandler
  exact ⟨e, List.mem_of_mem_filter (List.mem_of_getLast? hlast), he⟩

/-- With one route, whatever is found is its handler. -/
theorem handler_of_lookup_singleton {e : Insertion η} {m : Method} {path : String} {found : RouteMatch η}
    (h : (ofInsertions [e]).lookup m path = some found) : found.handler = e.handler := by
  obtain ⟨e', he', hhandler⟩ := exists_insertion_of_lookup h
  rw [← hhandler, List.mem_singleton.mp he']

/-- Neighbours that are for different pairs may change places without changing any final route. -/
theorem lastHandler?_swap {e e' : Insertion η}
    (hne : segments e.pattern ≠ segments e'.pattern ∨ e.method ≠ e'.method)
    (front back : List (Insertion η)) (p : List Segment) (m : Method) :
    lastHandler? (front ++ e' :: e :: back) p m = lastHandler? (front ++ e :: e' :: back) p m := by
  simp only [lastHandler?, List.filter_append, List.filter_cons]
  by_cases he : e.isFor p m = true
  · by_cases he' : e'.isFor p m = true
    · simp only [Insertion.isFor, Bool.decide_and, Bool.and_eq_true, decide_eq_true_eq] at he he'
      rcases hne with hne | hne
      · exact absurd (he.1.trans he'.1.symm) hne
      · exact absurd (he.2.trans he'.2.symm) hne
    · simp [he']
  · simp [he]

/-- **A lookup answers from the final routes.** It finds nothing exactly when no pattern that matches the path has
a final route for the method; it finds a handler exactly when that is the final route of the first such pattern,
and then the wildcards are the path's segments under the pattern's wildcards. So insertions that leave the same
final routes give the same answers, in particular when two neighbours for different pairs change places. -/
theorem lookup_ofInsertions (es : List (Insertion η)) (m : Method) (path : String) :
    ((ofInsertions es).lookup m path = none ↔
      ∀ p, Matches p (segments path) → lastHandler? es p m = none) ∧
    (∀ found : RouteMatch η, (ofInsertions es).lookup m path = some found ↔
      ∃ p, IsFirstRoute es m (segments path) p ∧ lastHandler? es p m = some found.handler ∧
        found.wildcards = captured p (segments path)) ∧
    (∀ es' : List (Insertion η), (∀ p m, lastHandler? es' p m = lastHandler? es p m) →
      (ofInsertions es').lookup m path = (ofInsertions es).lookup m path) ∧
    (∀ (front : List (Insertion η)) (e e' : Insertion η) (back : List (Insertion η)),
      es = front ++ e :: e' :: back →
      segments e.pattern ≠ segments e'.pattern ∨ e.method ≠ e'.method →
      (ofInsertions (front ++ e' :: e :: back)).lookup m path = (ofInsertions es).lookup m path) := by
  have hsame : ∀ es' : List (Insertion η), (∀ p m, lastHandler? es' p m = lastHandler? es p m) →
      (ofInsertions es').lookup m path = (ofInsertions es).lookup m path := by
    intro es' h
    refine lookup_congr (fun p m => ?_) m path
    rw [handlerAt?_ofInsertions, handlerAt?_ofInsertions, h]
  refine ⟨?_, ?_, hsame, ?_⟩
  · rw [lookup_eq_none_iff]
    simp only [handlerAt?_ofInsertions]
  · intro found
    rw [lookup_eq_some_iff]
    simp only [handlerAt?_ofInsertions]
    constructor
    · rintro ⟨p, hm, hh, hfirst, hws⟩
      exact ⟨p, ⟨hm, by rw [hh]; rfl, hfirst⟩, hh, hws⟩
    · rintro ⟨p, hp, hh, hws⟩
      exact ⟨p, hp.matches, hh, hp.first, hws⟩
  · rintro front e e' back rfl hne
    exact hsame _ (lastHandler?_swap hne front back)

/-- A wildcard may be inserted before or after the word that it also matches. -/
theorem lookup_files_latest_swap :
    segments "/files/*" ≠ segments "/files/latest" ∧
      (ofInsertions [⟨"/files/latest", .get, 2⟩, ⟨"/files/*", .get, 1⟩]).lookup .get "/files/latest" =
        (ofInsertions [⟨"/files/*", .get, 1⟩, ⟨"/files/latest", .get, 2⟩]).lookup .get "/files/latest" := by
  have hne : segments "/files/*" ≠ segments "/files/latest" := by decide
  exact ⟨hne, (lookup_ofInsertions [⟨"/files/*", .get, 1⟩, ⟨"/files/latest", .get, 2⟩] .get "/files/latest").2.2.2
    [] _ _ [] rfl (.inl hne)⟩

end Router

end HttpService
