import Mathlib.Data.Finset.Card
import Mathlib.Data.Finset.Dedup
import HttpService.Proofs.Route.Allowed
import HttpService.Proofs.Route.Templates
import HttpService.Proofs.Route.Visits

/-!
# Routers made of tables

A table is read from the front: the first entry at fault is told and no router is made, and otherwise the last entry
of each pair of a verb and a path counts. Verbs are compared in capitals and paths by their segments, so entries of
different texts may be of one pair.

* `RouteEntry.pair`, `RouteEntry.fault?` — what an entry is for, and what is wrong with it by itself.
* `addEntries_eq_error_iff` — a table fails with the fault of its first entry that has one.
* `count_ofInsertions` — what is counted node by node are the pairs that were inserted.
* `lastHandler?_of_last`, `exists_lookup` — the last handler of a pair is the final one, and found by the pattern
  itself.
* `ofEntries_decided` — all of it for every table.
-/

namespace HttpService

/-! ## Entries by themselves -/

namespace RouteEntry

/-- What an entry is for: its verb in capitals and the segments of its path. -/
def pair (e : RouteEntry) : String × List Segment := (capitals e.verb, segments e.path)

/-- The verb in capitals is a token. -/
def HasMethod (e : RouteEntry) : Prop := (octets (capitals e.verb)).isToken = true

instance (e : RouteEntry) : Decidable e.HasMethod := inferInstanceAs (Decidable (_ = true))

/-- What is wrong with an entry: its verb, or else its handler. -/
def fault? {η : Type} (registry : Registry η) (e : RouteEntry) : Option Error :=
  if ¬ e.HasMethod then some (.invalidRoute (.badVerb e.verb e.path))
  else if registry.get? e.handler = none then some (.unknownHandler e.handler)
  else none

/-- A verb is good if its capitals are the name of a method. -/
theorem method_eq_ok_iff {e : RouteEntry} {m : Method} : e.method = .ok m ↔ m.token = octets (capitals e.verb) := by
  rw [← Method.ofOctets?_eq_some_iff, ← Method.ofText?, method]
  cases Method.ofText? (capitals e.verb) <;> simp

theorem method_eq_ok {e : RouteEntry} (h : e.HasMethod) : e.method = .ok ⟨octets (capitals e.verb), h⟩ :=
  method_eq_ok_iff.mpr rfl

/-- Otherwise the fault tells the verb as it was written, and the path. -/
theorem method_eq_error {e : RouteEntry} (h : ¬ e.HasMethod) :
    e.method = .error (.invalidRoute (.badVerb e.verb e.path)) := by
  have hnone : Method.ofText? (capitals e.verb) = none := dif_neg h
  rw [method, hnone]

/-- An entry without fault has a good verb and a known handler. -/
theorem fault?_eq_none_iff {η : Type} {registry : Registry η} {e : RouteEntry} :
    e.fault? registry = none ↔ e.HasMethod ∧ (registry.get? e.handler).isSome := by
  rw [fault?, Option.isSome_iff_ne_none]
  split
  next h => exact iff_of_false nofun fun good => h good.1
  next h =>
    rw [not_not] at h
    split
    next hnone => exact iff_of_false nofun fun good => good.2 hnone
    next hsome => exact iff_of_true rfl ⟨h, hsome⟩

end RouteEntry

/-! ## Patterns that match a pattern -/

/-- Of all patterns that match a pattern's own text, the pattern itself is the first. -/
theorem Matches.eq_or_precedes {p q : List Segment} (h : Matches p q) : p = q ∨ Precedes q p := by
  induction h with
  | nil => exact .inl rfl
  | @cons s x p q hs _ ih =>
    by_cases hsx : s = x
    · subst hsx
      rcases ih with rfl | hpre
      · exact .inl rfl
      · exact .inr (precedes_cons hpre s)
    · -- The first place where they differ has a wildcard in the one that matches.
      obtain rfl := hs.resolve_left hsx
      exact .inr (precedes_head (Ne.symm hsx) q p)

namespace Router

variable {η : Type} {registry : Registry η}

/-! ## The first fault -/

/-- The first entry with a fault is the last that is looked at. -/
theorem addEntries_of_fault {e : RouteEntry} {err : Error} (h : e.fault? registry = some err) (es : List RouteEntry)
    (r : Router η) : (addEntries registry (e :: es) r).2 = .error err := by
  rw [RouteEntry.fault?] at h
  split at h
  next hverb =>
    obtain rfl := Option.some.inj h
    rw [addEntries, RouteEntry.method_eq_error hverb]
  next hverb =>
    split at h
    next hhandler =>
      obtain rfl := Option.some.inj h
      rw [addEntries, RouteEntry.method_eq_ok (not_not.mp hverb), hhandler]
    next => cases h

/-- An entry without fault stands for an insertion. -/
theorem insertion?_of_fault?_eq_none {e : RouteEntry} (h : e.fault? registry = none) :
    (insertion? registry e).isSome := by
  obtain ⟨hverb, hhandler⟩ := RouteEntry.fault?_eq_none_iff.mp h
  obtain ⟨g, hg⟩ := Option.isSome_iff_exists.mp hhandler
  rw [insertion?, RouteEntry.method_eq_ok hverb, hg]
  rfl

/-- An entry without a fault is passed, whatever it changes in the router. -/
theorem exists_addEntries {e : RouteEntry} (h : e.fault? registry = none) (es : List RouteEntry) (r : Router η) :
    ∃ r', (addEntries registry (e :: es) r).2 = (addEntries registry es r').2 := by
  obtain ⟨i, hi⟩ := Option.isSome_iff_exists.mp (insertion?_of_fault?_eq_none h)
  obtain ⟨hmethod, hhandler, -⟩ := insertion?_eq_some_iff.mp hi
  refine ⟨(r.insert e.path i.method i.handler).1, ?_⟩
  rw [addEntries, hmethod, hhandler]

/-- **A table fails with its first fault**, whatever router it is added to. -/
theorem addEntries_eq_error_iff (es : List RouteEntry) (r : Router η) (err : Error) :
    (addEntries registry es r).2 = .error err ↔ es.findSome? (RouteEntry.fault? registry) = some err := by
  -- What is in the router has no say in whether an entry is at fault, so the induction is for all routers.
  induction es generalizing r with
  | nil => exact iff_of_false nofun nofun
  | cons e es ih =>
    rw [List.findSome?_cons]
    cases hfault : e.fault? registry with
    | none =>
      obtain ⟨r', hrest⟩ := exists_addEntries hfault es r
      rw [hrest, ih]
    | some fault =>
      rw [addEntries_of_fault hfault]
      simp

/-! ## Routes that are counted -/

/-- A router that insertions made grew by asking for the table of each pattern. -/
theorem routes_ofInsertions (is : List (Insertion η)) :
    (ofInsertions is).routes =
      Trie.ofUpdates (is.map fun i => .ensure i.pattern [] fun t => MethodTable.set t i.method i.handler) := by
  induction is using List.reverseRecOn with
  | nil => rfl
  | append_singleton is i ih =>
    rw [ofInsertions_append_singleton, List.map_append, List.map_singleton, Trie.ofUpdates_append_singleton, ← ih,
      Trie.perform_ensure]
    rfl

/-- Patterns are inserted by their segments, of which none is empty. -/
theorem steps_proper_ofInsertions (is : List (Insertion η)) : (ofInsertions is).routes.steps.Proper := by
  rw [routes_ofInsertions]
  exact Trie.steps_proper_ofUpdates _

/-- The methods and patterns that are routed, node by node. -/
def pairs (r : Router η) : List (Method × List Segment) :=
  r.routes.entries.flatMap fun e => e.2.map fun route => (route.1, e.1)

/-- Counting goes node by node and so counts the pairs. -/
theorem count_eq_length_pairs {r : Router η} (h : r.routes.steps.Proper) : r.count = r.pairs.length := by
  -- The visit adds up from the left, so the sum may start at any number.
  have hsum : ∀ (es : List (List Segment × MethodTable η)) (n : Nat),
      es.foldl (fun n e => n + e.2.length) n =
        n + (es.flatMap fun e => e.2.map fun route => (route.1, e.1)).length := by
    intro es
    induction es with
    | nil => exact fun n => rfl
    | cons e es ih =>
      intro n
      rw [List.foldl_cons, ih, List.flatMap_cons, List.length_append, List.length_map]
      omega
  rw [count, Trie.forEach_eq h, hsum, Nat.zero_add, pairs]

/-- The pairs are those of a method and a pattern that have a handler. -/
theorem mem_pairs_iff {r : Router η} (h : r.routes.steps.Proper) (m : Method) (p : List Segment) :
    (m, p) ∈ r.pairs ↔ (r.handlerAt? p m).isSome := by
  rw [pairs, List.mem_flatMap]
  constructor
  · rintro ⟨⟨p', t⟩, he, hm⟩
    obtain ⟨route, hroute, heq⟩ := List.mem_map.mp hm
    obtain ⟨rfl, rfl⟩ := Prod.mk.inj heq
    rw [handlerAt?, (Trie.mem_entries_iff h p' t).mp he]
    exact (MethodTable.isSome_lookup_iff t route.1).mpr (List.mem_map_of_mem hroute)
  · intro hsome
    obtain ⟨g, hg⟩ := Option.isSome_iff_exists.mp hsome
    obtain ⟨t, ht, hlookup⟩ := handlerAt?_eq_some_iff.mp hg
    have hm := (MethodTable.isSome_lookup_iff t m).mp (Option.isSome_of_eq_some hlookup)
    obtain ⟨route, hroute, rfl⟩ := List.mem_map.mp hm
    exact ⟨(p, t), (Trie.mem_entries_iff h p t).mpr ht, List.mem_map_of_mem hroute⟩

/-- No pattern is routed twice for one method: a node has its pattern alone, and in its table every method once. -/
theorem nodup_pairs (is : List (Insertion η)) : (ofInsertions is).pairs.Nodup := by
  have hproper := steps_proper_ofInsertions is
  rw [pairs, List.nodup_flatMap]
  constructor
  -- Within one table the methods are different, and the tables are of different lists.
  · intro e he
    have htable := nodup_of_valueAt? ((Trie.mem_entries_iff hproper e.1 e.2).mp he)
    have hmap : e.2.map (fun route => (route.1, e.1)) = (e.2.map (·.1)).map fun m => (m, e.1) := by
      rw [List.map_map]
      rfl
    rw [hmap]
    exact htable.map (Prod.mk_left_injective e.1)
  · refine (List.pairwise_map.mp (Trie.nodup_entries hproper)).imp fun hne => ?_
    intro x hx hx'
    obtain ⟨_, -, rfl⟩ := List.mem_map.mp hx
    obtain ⟨_, -, heq⟩ := List.mem_map.mp hx'
    exact hne (Prod.mk.inj heq).2.symm

/-- **What is counted are the pairs that were inserted.** -/
theorem count_ofInsertions (is : List (Insertion η)) :
    (ofInsertions is).count = (is.map fun i => (i.method, segments i.pattern)).toFinset.card := by
  have hproper := steps_proper_ofInsertions is
  rw [count_eq_length_pairs hproper, ← List.toFinset_card_of_nodup (nodup_pairs is)]
  -- The pairs that are stored are those that were put in.
  congr 1
  ext ⟨m, p⟩
  rw [List.mem_toFinset, List.mem_toFinset, mem_pairs_iff hproper, List.mem_map]
  constructor
  · intro hsome
    obtain ⟨g, hg⟩ := Option.isSome_iff_exists.mp hsome
    obtain ⟨i, hi, rfl, rfl, -⟩ := exists_insertion_of_handlerAt? hg
    exact ⟨i, hi, rfl⟩
  · rintro ⟨i, hi, heq⟩
    obtain ⟨rfl, rfl⟩ := Prod.mk.inj heq
    exact isSome_handlerAt? hi

/-! ## The last entry of a pair -/

/-- An insertion that no later one is for the same pair as has the last word. -/
theorem lastHandler?_of_last {front back : List (Insertion η)} {i : Insertion η}
    (h : ∀ i' ∈ back, ¬ i'.isFor (segments i.pattern) i.method = true) :
    lastHandler? (front ++ i :: back) (segments i.pattern) i.method = some i.handler := by
  have hown : i.isFor (segments i.pattern) i.method = true := decide_eq_true ⟨rfl, rfl⟩
  have hback := List.filter_eq_nil_iff.mpr h
  rw [lastHandler?, List.filter_append, List.filter_cons, if_pos hown, hback, List.getLast?_append]
  rfl

/-- A pattern that has a handler for a method resolves its own text to it. -/
theorem exists_lookup {r : Router η} {path : String} {m : Method} {g : η}
    (h : r.handlerAt? (segments path) m = some g) : ∃ found, r.lookup m path = some found ∧ found.handler = g := by
  refine ⟨⟨g, captured (segments path) (segments path)⟩, ?_, rfl⟩
  rw [lookup_eq_some_iff]
  refine ⟨segments path, matches_self _, h, ?_, rfl⟩
  intro p' hm _
  exact hm.eq_or_precedes

/-! ## Tables -/

/-- An insertion is for the pair of its entry, but for the way in which the verb is written down. -/
theorem pair_of_insertion? {e : RouteEntry} {i : Insertion η} (h : insertion? registry e = some i) :
    Prod.map Method.token id (i.method, segments i.pattern) = Prod.map octets id e.pair := by
  obtain ⟨hmethod, -, hpath⟩ := insertion?_eq_some_iff.mp h
  rw [RouteEntry.pair, Prod.map_apply, Prod.map_apply, RouteEntry.method_eq_ok_iff.mp hmethod, hpath]

/-- A method is told from its name, so pairs may be counted by names. -/
theorem injective_token : Function.Injective (Prod.map Method.token id : Method × List Segment → _) := by
  rintro ⟨⟨token, _⟩, p⟩ ⟨⟨token', _⟩, p'⟩ heq
  obtain ⟨rfl, rfl⟩ := Prod.mk.inj heq
  rfl

/-- Text is told from its octets, so names may be counted as text. -/
theorem injective_octets : Function.Injective (Prod.map octets id : String × List Segment → _) :=
  Function.Injective.prodMap (fun _ _ h => octets_inj.mp h) Function.injective_id

/-- Two entries are for one pair where their insertions are. -/
theorem pair_eq_of_isFor {e e' : RouteEntry} {i i' : Insertion η} (h : insertion? registry e = some i)
    (h' : insertion? registry e' = some i') (hfor : i'.isFor (segments i.pattern) i.method = true) :
    e'.pair = e.pair := by
  obtain ⟨hpath, hmethod⟩ := of_decide_eq_true hfor
  refine injective_octets ?_
  rw [← pair_of_insertion? h', ← pair_of_insertion? h, hpath, hmethod]

/-- Entries without faults are for as many pairs as their insertions. -/
theorem card_pairs {es : List RouteEntry} (h : ∀ e ∈ es, (insertion? registry e).isSome) :
    ((es.filterMap (insertion? registry)).map fun i => (i.method, segments i.pattern)).toFinset.card =
      (es.map RouteEntry.pair).toFinset.card := by
  -- A method is its token and a verb its octets, so both kinds of pairs are counted as octets with segments.
  rw [← Finset.card_image_of_injective _ injective_token, ← Finset.card_image_of_injective _ injective_octets]
  congr 1
  ext x
  simp only [Finset.mem_image, List.mem_toFinset, List.mem_map, List.mem_filterMap, exists_exists_and_eq_and]
  constructor
  · rintro ⟨i, ⟨e, he, hi⟩, rfl⟩
    exact ⟨e, he, (pair_of_insertion? hi).symm⟩
  · rintro ⟨e, he, rfl⟩
    obtain ⟨i, hi⟩ := Option.isSome_iff_exists.mp (h e he)
    exact ⟨i, ⟨e, he, hi⟩, pair_of_insertion? hi⟩

/-- The entry that is the last of its pair has the pattern's handler. -/
theorem handlerAt?_of_last {front back : List RouteEntry} {e : RouteEntry}
    (h : ∀ e' ∈ front ++ e :: back, (insertion? registry e').isSome) (hlast : ∀ e' ∈ back, e'.pair ≠ e.pair)
    {m : Method} (hm : m.token = octets (capitals e.verb)) :
    (ofInsertions ((front ++ e :: back).filterMap (insertion? registry))).handlerAt? (segments e.path) m =
      registry.get? e.handler := by
  obtain ⟨i, hi⟩ := Option.isSome_iff_exists.mp (h e (by simp))
  obtain ⟨hmethod, hhandler, hpath⟩ := insertion?_eq_some_iff.mp hi
  obtain rfl : i.method = m := by
    rw [RouteEntry.method_eq_ok_iff.mpr hm] at hmethod
    exact (Except.ok.inj hmethod).symm
  rw [handlerAt?_ofInsertions, List.filterMap_append, List.filterMap_cons_some hi, hpath, hhandler]
  -- A later insertion for the same method and pattern would be that of a later entry of the pair.
  refine lastHandler?_of_last fun i' hi' hfor => ?_
  obtain ⟨e', he', hi'⟩ := List.mem_filterMap.mp hi'
  exact hlast e' he' (pair_eq_of_isFor hi hi' hfor)

/-- **A table makes a router or tells its first fault.** It fails exactly when some entry has a verb that is no token in
capitals or a handler that the registry lacks, and then with the fault of the first such entry, its verb's if it has
both. Otherwise the router has a route for each pair of a verb in capitals and a path by its segments, and the last
entry of the pair has its handler: it stands under the pattern, and the pattern's path, however it is spelled, is
resolved to it. -/
theorem ofEntries_decided (registry : Registry η) (es : List RouteEntry) :
    ((∃ err, (ofEntries registry es).2 = .error err) ↔
      ∃ e ∈ es, ¬ e.HasMethod ∨ registry.get? e.handler = none) ∧
    (∀ err, (ofEntries registry es).2 = .error err ↔
      ∃ front e back, es = front ++ e :: back ∧ (∀ e' ∈ front, e'.HasMethod ∧ (registry.get? e'.handler).isSome) ∧
        (¬ e.HasMethod ∧ err = .invalidRoute (.badVerb e.verb e.path) ∨
          e.HasMethod ∧ registry.get? e.handler = none ∧ err = .unknownHandler e.handler)) ∧
    ((∀ e ∈ es, e.HasMethod ∧ (registry.get? e.handler).isSome) →
      ∃ r, (ofEntries registry es).2 = .ok r ∧ r.count = (es.map RouteEntry.pair).toFinset.card ∧
        ∀ front e back, es = front ++ e :: back → (∀ e' ∈ back, e'.pair ≠ e.pair) →
          ∀ m, m.token = octets (capitals e.verb) → r.handlerAt? (segments e.path) m = registry.get? e.handler ∧
            ∀ path, segments path = segments e.path →
              ∃ found, r.lookup m path = some found ∧ registry.get? e.handler = some found.handler) := by
  -- The verb is looked at first, so its fault hides that of the handler.
  have hfault : ∀ (e : RouteEntry) err, e.fault? registry = some err ↔
      (¬ e.HasMethod ∧ err = .invalidRoute (.badVerb e.verb e.path) ∨
        e.HasMethod ∧ registry.get? e.handler = none ∧ err = .unknownHandler e.handler) := by
    intro e err
    by_cases hverb : e.HasMethod
    · by_cases hhandler : registry.get? e.handler = none <;> simp [RouteEntry.fault?, hverb, hhandler, eq_comm]
    · simp [RouteEntry.fault?, hverb, eq_comm]
  refine ⟨?_, ?_, ?_⟩
  · simp only [ofEntries, addEntries_eq_error_iff]
    rw [← Option.isSome_iff_exists, List.findSome?_isSome_iff]
    refine exists_congr fun e => and_congr_right fun _ => ?_
    rw [← not_iff_not, Bool.not_eq_true, Option.isSome_eq_false_iff, Option.isNone_iff_eq_none,
      RouteEntry.fault?_eq_none_iff, not_or, not_not, Option.isSome_iff_ne_none]
  · intro err
    rw [ofEntries, addEntries_eq_error_iff, List.findSome?_eq_some_iff]
    simp only [hfault, RouteEntry.fault?_eq_none_iff]
    constructor
    · rintro ⟨front, e, back, hes, herr, hfront⟩
      exact ⟨front, e, back, hes, hfront, herr⟩
    · rintro ⟨front, e, back, hes, hfront, herr⟩
      exact ⟨front, e, back, hes, herr, hfront⟩
  · intro hgood
    have hinsertion : ∀ e ∈ es, (insertion? registry e).isSome := by
      intro e he
      exact insertion?_of_fault?_eq_none (RouteEntry.fault?_eq_none_iff.mpr (hgood e he))
    refine ⟨_, ofEntries_eq_ok hinsertion, ?_, ?_⟩
    · rw [count_ofInsertions, card_pairs hinsertion]
    · rintro front e back rfl hlast m hm
      have hat := handlerAt?_of_last hinsertion hlast hm
      refine ⟨hat, fun path hpath => ?_⟩
      obtain ⟨g, hg⟩ := Option.isSome_iff_exists.mp (hgood e (by simp)).2
      rw [← hpath, hg] at hat
      obtain ⟨found, hfound, hhandler⟩ := exists_lookup hat
      exact ⟨found, hfound, by rw [hg, hhandler]⟩

/-- Three spellings of two pairs. -/
def respelled : List RouteEntry :=
  [⟨"/v1/echo", "get", "first"⟩, ⟨"/v1/*", "post", "first"⟩, ⟨"v1//echo/", "Get", "second"⟩]

def twoHandlers : Registry Nat := ⟨[("first", 1), ("second", 2)]⟩

/-- The later spelling of a pair takes the place of the earlier one, and is found by either. -/
theorem ofEntries_decided_respelled :
    (∀ e ∈ respelled, e.HasMethod ∧ (twoHandlers.get? e.handler).isSome) ∧
    ∃ r found, (ofEntries twoHandlers respelled).2 = .ok r ∧ r.count = 2 ∧
      r.lookup .get "/v1/echo" = some found ∧ found.handler = 2 := by
  have hgood : ∀ e ∈ respelled, e.HasMethod ∧ (twoHandlers.get? e.handler).isSome := by decide
  obtain ⟨r, hr, hcount, hlast⟩ := (ofEntries_decided twoHandlers respelled).2.2 hgood
  have hpair : (respelled.map RouteEntry.pair).toFinset.card = 2 := by decide
  obtain ⟨-, hresolved⟩ := hlast (respelled.take 2) ⟨"v1//echo/", "Get", "second"⟩ [] rfl nofun .get (by decide)
  obtain ⟨found, hfound, hhandler⟩ := hresolved "/v1/echo" (by decide)
  exact ⟨hgood, r, found, hr, hcount.trans hpair, hfound, (Option.some.inj hhandler).symm⟩

end Router

end HttpService
