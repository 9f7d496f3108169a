import HttpService.Proofs.Route.Lookup

/-!
# Which methods a path allows

A lookup asks for the first matching pattern that has its own method; the methods that a path allows are those of the
first matching pattern that has any. The two searches may stop at different patterns, and still agree on what a client
is told: a method that is allowed is routed, and no method is allowed only where none is routed.

* `mem_allowedMethods_iff` — the methods that are allowed stand together in one table that the search accepts.
* `lookup_isSome_of_mem_allowedMethods` — what is allowed is routed.
* `allowedMethods_eq_nil_iff` — nothing is allowed exactly where nothing is routed.
* `pairwise_allowedMethods`, `nodup_allowedMethods` — the methods are in order and none stands twice.
-/

namespace HttpService

/-! ## The methods of one pattern -/

namespace MethodTable

variable {η : Type}

/-- A method has a handler exactly when it is one of the table's. -/
theorem isSome_lookup_iff (ms : MethodTable η) (m : Method) : (ms.lookup m).isSome ↔ m ∈ ms.map (·.1) := by
  induction ms with
  | nil => simp
  | cons e es ih =>
    rw [List.map_cons, List.mem_cons, List.lookup_cons]
    by_cases hm : m = e.1
    · simp [hm]
    · rw [beq_eq_false_iff_ne.mpr hm]
      simpa only [hm, false_or] using ih

/-- An empty table is one in which no method is found, so a node without routes is not accepted for any. -/
theorem eq_nil_iff (ms : MethodTable η) : ms = [] ↔ ∀ m, ms.lookup m = none := by
  constructor
  · rintro rfl m
    rfl
  · intro h
    rw [List.eq_nil_iff_forall_not_mem]
    intro e he
    have hsome := (isSome_lookup_iff ms e.1).mpr (List.mem_map_of_mem he)
    rw [h] at hsome
    cases hsome

/-- Setting a method's handler leaves every method once. -/
theorem nodup_set {ms : MethodTable η} (h : (ms.map (·.1)).Nodup) (m : Method) (g : η) :
    ((ms.set m g).map (·.1)).Nodup := by
  have hkept : ((ms.filter fun e => e.1 != m).map (·.1)).Nodup :=
    h.sublist (List.filter_sublist.map _)
  rw [set, List.map_append, List.map_singleton, List.nodup_append]
  refine ⟨hkept, by simp, ?_⟩
  -- The old entry of the method has been taken out.
  rintro _ hold _ hnew rfl
  obtain ⟨e, he, rfl⟩ := List.mem_map.mp hold
  have hne := (List.mem_filter.mp he).2
  simp [List.mem_singleton.mp hnew] at hne

end MethodTable

namespace Router

variable {η : Type}

/-- No pattern of a router that insertions made has a method twice. -/
theorem nodup_of_valueAt? {es : List (Insertion η)} {p : List Segment} {t : MethodTable η}
    (h : (ofInsertions es).routes.valueAt? p = some t) : (t.map (·.1)).Nodup := by
  -- Over the insertions, the last one changing the table of its own pattern only.
  induction es using List.reverseRecOn generalizing p t with
  | nil =>
    rw [show (ofInsertions ([] : List (Insertion η))).routes = Trie.empty from rfl, Trie.valueAt?_empty] at h
    cases h
  | append_singleton es e ih =>
    rw [ofInsertions_append_singleton, insert, Trie.valueAt?_adjustAt] at h
    by_cases hp : p = segments e.pattern
    · subst hp
      rw [if_pos rfl, Option.some.injEq] at h
      subst h
      cases hold : (ofInsertions es).routes.valueAt? (segments e.pattern) with
      | none => simp [MethodTable.set]
      | some old => exact MethodTable.nodup_set (ih hold) _ _
    · rw [if_neg hp] at h
      exact ih h

/-! ## The methods of a path -/

/-- The methods of a path are those at the first pattern that has any. -/
theorem allowedMethods_eq (r : Router η) (path : String) :
    r.allowedMethods path =
      match Trie.search (fun t => !t.isEmpty) (segments path) r.routes with
      | some (t, _) => (t.map (·.1)).mergeSort fun a b => decide (a.text ≤ b.text)
      | none => [] := by
  rw [← Trie.find_eq_search]
  rfl

/-- The methods that are allowed are those of the first matching pattern that has any. -/
theorem mem_allowedMethods_iff (r : Router η) (path : String) (m : Method) :
    m ∈ r.allowedMethods path ↔
      ∃ p t, Trie.IsFirst (fun t => !t.isEmpty) r.routes (segments path) p t ∧ (t.lookup m).isSome := by
  rw [allowedMethods_eq]
  constructor
  · intro h
    cases hsearch : Trie.search (fun t : MethodTable η => !t.isEmpty) (segments path) r.routes with
    | none =>
      rw [hsearch] at h
      cases h
    | some f =>
      obtain ⟨t, ws⟩ := f
      rw [hsearch] at h
      obtain ⟨p, hp, -⟩ := (Trie.search_eq_some_iff _ _ _ _ _).mp hsearch
      exact ⟨p, t, hp, (MethodTable.isSome_lookup_iff t m).mpr (List.mem_mergeSort.mp h)⟩
  · rintro ⟨p, t, hp, hsome⟩
    have hsearch := (Trie.search_eq_some_iff _ _ _ t (captured p (segments path))).mpr ⟨p, hp, rfl⟩
    rw [hsearch]
    exact List.mem_mergeSort.mpr ((MethodTable.isSome_lookup_iff t m).mp hsome)

/-- What is allowed is routed, though perhaps at an earlier pattern than the one it was read from. -/
theorem lookup_isSome_of_mem_allowedMethods {r : Router η} {path : String} {m : Method}
    (h : m ∈ r.allowedMethods path) : (r.lookup m path).isSome := by
  obtain ⟨p, t, hp, hsome⟩ := (mem_allowedMethods_iff r path m).mp h
  rw [← Option.ne_none_iff_isSome]
  intro hnone
  have hat := (lookup_eq_none_iff r m path).mp hnone p hp.matches
  rw [handlerAt?, hp.holds, Option.bind_some] at hat
  rw [hat] at hsome
  cases hsome

/-- **Nothing is allowed exactly where nothing is routed.** -/
theorem allowedMethods_eq_nil_iff (r : Router η) (path : String) :
    r.allowedMethods path = [] ↔ ∀ m, r.lookup m path = none := by
  constructor
  · intro h m
    rw [lookup_eq_none_iff]
    intro p hmatches
    cases hsearch : Trie.search (fun t : MethodTable η => !t.isEmpty) (segments path) r.routes with
    | none =>
      -- Every table that matches is empty.
      cases ht : r.routes.valueAt? p with
      | none => rw [handlerAt?, ht, Option.bind_none]
      | some t =>
        have hempty := (Trie.search_eq_none_iff _ _ _).mp hsearch p t hmatches ht
        rw [handlerAt?, ht, Option.bind_some]
        exact (MethodTable.eq_nil_iff t).mp (by simpa using hempty) m
    | some f =>
      -- The table found has a method, which would be allowed.
      obtain ⟨t, ws⟩ := f
      obtain ⟨p', hp', -⟩ := (Trie.search_eq_some_iff _ _ _ _ _).mp hsearch
      obtain ⟨e, es, rfl⟩ := List.exists_cons_of_ne_nil (l := t) (by simpa using hp'.accepted)
      have hmem := (mem_allowedMethods_iff r path e.1).mpr ⟨p', _, hp', by simp⟩
      rw [h] at hmem
      cases hmem
  · intro h
    rw [List.eq_nil_iff_forall_not_mem]
    intro m hm
    have hsome := lookup_isSome_of_mem_allowedMethods hm
    rw [h] at hsome
    cases hsome

/-- They are told in the order of their names, and not in that of the routes. -/
theorem pairwise_allowedMethods (r : Router η) (path : String) :
    (r.allowedMethods path).Pairwise fun a b => a.text ≤ b.text := by
  rw [allowedMethods_eq]
  split
  next t _ _ =>
    have hsorted := @List.pairwise_mergeSort Method (fun a b => decide (a.text ≤ b.text))
      (fun a b c hab hbc => decide_eq_true (String.le_trans (of_decide_eq_true hab) (of_decide_eq_true hbc)))
      (fun a b => by simpa using String.le_total a.text b.text) (t.map (·.1))
    simpa using hsorted
  next => exact List.Pairwise.nil

/-- A method that is routed twice is told once. -/
theorem nodup_allowedMethods (es : List (Insertion η)) (path : String) :
    ((ofInsertions es).allowedMethods path).Nodup := by
  rw [allowedMethods_eq]
  split
  next t ws hsearch =>
    obtain ⟨p, hp, -⟩ := (Trie.search_eq_some_iff _ _ _ _ _).mp hsearch
    exact (List.mergeSort_perm _ _).nodup_iff.mpr (nodup_of_valueAt? hp.holds)
  next => exact List.nodup_nil

end Router

end HttpService
