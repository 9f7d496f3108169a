import HttpService.Route.OpenApi
import HttpService.Proofs.Json.Ordered

/-!
# What becomes of the operations of an API description

The operations of a document (`OpenApi.IsOperation`) are what its path items hold under the verbs. Each of them has one
outcome: an entry if it names a handler (`OpenApi.Names`), a notice if it does not.

* `OpenApi.handlerName?_eq_some_iff` — the handler that an operation names.
* `OpenApi.mem_operations_iff`, `OpenApi.pairwise_operations` — the operations of a document, in their order.
* `OpenApi.entries_settled` — the entries and notices of a document are the outcomes of its operations.
-/

namespace HttpService.OpenApi

/-! ## Handlers -/

/-- How an operation names its handler: by the text under the first of the handler keys that have a text, or if there
is no such key by its identifier. -/
inductive Names : JsonValue → String → Prop where
  | extension {members : List (String × JsonValue)} {key handler : String} (hkey : (key, .string handler) ∈ members)
      (hnames : namesHandler key = true)
      (hfirst : ∀ key' text, (key', .string text) ∈ members → namesHandler key' = true → key ≤ key') :
      Names (.object members) handler
  | identifier {members : List (String × JsonValue)} {handler : String}
      (hnone : ∀ key text, (key, .string text) ∈ members → namesHandler key = false)
      (hid : ("operationId", .string handler) ∈ members) : Names (.object members) handler

theorem text?_eq_some_iff {v : JsonValue} {s : String} : v.text? = some s ↔ v = .string s := by
  cases v <;> simp [JsonValue.text?]

/-- The text under a handler key. -/
def named? (m : String × JsonValue) : Option String := if namesHandler m.1 then m.2.text? else none

/-- A key that names no handler names none, whatever is under it. -/
theorem named?_eq_some_iff {m : String × JsonValue} {s : String} :
    named? m = some s ↔ namesHandler m.1 = true ∧ m.2 = .string s := by
  unfold named?
  split <;> simp [*, text?_eq_some_iff]

/-- Of members in order the first that has something is the one with the least name. -/
theorem findSome?_eq_some_iff_of_sorted {ms : List (String × JsonValue)} (h : ms.Pairwise fun m n => m.1 < n.1)
    {f : String × JsonValue → Option String} {s : String} :
    ms.findSome? f = some s ↔ ∃ m ∈ ms, f m = some s ∧ ∀ n ∈ ms, (f n).isSome → m.1 ≤ n.1 := by
  rw [List.findSome?_eq_some_iff]
  constructor
  -- In an ordered list the first one that answers is the least of those that answer.
  · rintro ⟨front, m, back, rfl, hm, hfront⟩
    refine ⟨m, by simp, hm, fun n hn hsome => ?_⟩
    obtain ⟨-, hback, -⟩ := List.pairwise_append.mp h
    rcases List.mem_append.mp hn with hn | hn
    · rw [hfront n hn] at hsome
      cases hsome
    · rcases List.mem_cons.mp hn with rfl | hn
      · exact le_refl _
      · exact le_of_lt ((List.pairwise_cons.mp hback).1 n hn)
  · rintro ⟨m, hm, hs, hleast⟩
    obtain ⟨front, back, rfl⟩ := List.append_of_mem hm
    refine ⟨front, m, back, rfl, hs, fun n hn => Option.not_isSome_iff_eq_none.mp fun hsome => ?_⟩
    have hlt : n.1 < m.1 := (List.pairwise_append.mp h).2.2 n hn m List.mem_cons_self
    exact absurd hlt (not_lt.mpr (hleast n (List.mem_append_left _ hn) hsome))

/-- **The handler of an operation** is the one that it names. -/
theorem handlerName?_eq_some_iff {body : JsonValue} (hbody : body.Ordered) {handler : String} :
    handlerName? body = some handler ↔ Names body handler := by
  cases hbody with
  | @object members hsorted _ =>
    have hext : members.findSome? named? = some handler ↔ ∃ key, (key, .string handler) ∈ members ∧
        namesHandler key = true ∧
        ∀ key' text, (key', .string text) ∈ members → namesHandler key' = true → key ≤ key' := by
      simp only [findSome?_eq_some_iff_of_sorted hsorted, Option.isSome_iff_exists, named?_eq_some_iff]
      constructor
      · rintro ⟨⟨key, _⟩, hmem, ⟨hnames, rfl⟩, hleast⟩
        exact ⟨key, hmem, hnames, fun key' text hmem' hnames' => hleast _ hmem' ⟨text, hnames', rfl⟩⟩
      · rintro ⟨key, hmem, hnames, hfirst⟩
        refine ⟨(key, .string handler), hmem, ⟨hnames, rfl⟩, ?_⟩
        rintro ⟨key', _⟩ hmem' ⟨text, hnames', rfl⟩
        exact hfirst key' text hmem' hnames'
    have hnone : members.findSome? named? = none ↔
        ∀ key text, (key, .string text) ∈ members → namesHandler key = false := by
      rw [List.findSome?_eq_none_iff]
      simp only [Option.eq_none_iff_forall_ne_some, ne_eq, named?_eq_some_iff, not_and]
      constructor
      · exact fun h key text hmem => Bool.eq_false_iff.mpr fun hnames => h _ hmem text hnames rfl
      · rintro h ⟨key, _⟩ hmem text hnames rfl
        exact absurd hnames (Bool.eq_false_iff.mp (h key text hmem))
    have hid : (members.lookup "operationId").bind (·.text?) = some handler ↔
        ("operationId", .string handler) ∈ members := by
      simp only [Option.bind_eq_some_iff, text?_eq_some_iff, exists_eq_right,
        JsonValue.lookup_eq_some_iff_mem hsorted]
    show (members.findSome? named? <|> (members.lookup "operationId").bind (·.text?)) = some handler ↔ _
    rw [Option.orElse_eq_orElse, Option.orElse_eq_or, Option.or_eq_some_iff, hext, hnone, hid]
    constructor
    · rintro (⟨key, hmem, hnames, hfirst⟩ | ⟨hnot, hmem⟩)
      · exact .extension hmem hnames hfirst
      · exact .identifier hnot hmem
    · rintro (⟨hmem, hnames, hfirst⟩ | ⟨hnot, hmem⟩)
      · exact .inl ⟨_, hmem, hnames, hfirst⟩
      · exact .inr ⟨hnot, hmem⟩
  | _ =>
    -- What is no object names nothing.
    constructor
    · rintro ⟨⟩
    · rintro ⟨⟩

/-! ## Operations -/

/-- An operation of a document: the template of its path, its verb and what stands under the verb. -/
structure Operation where
  template : String
  verb : String
  body : JsonValue

/-- The operations of a document are what the objects among its path items hold under the verbs. -/
def IsOperation (doc : JsonValue) (op : Operation) : Prop :=
  ∃ paths members, doc.get? "paths" = some (.object paths) ∧ (op.template, .object members) ∈ paths ∧
    op.verb ∈ verbs ∧ (op.verb, op.body) ∈ members

/-- Operations come in the order of their templates, and those of one template in the order of the verbs. -/
def Operation.Before (op op' : Operation) : Prop :=
  op.template < op'.template ∨ op.template = op'.template ∧ verbs.idxOf op.verb < verbs.idxOf op'.verb

/-- The operations of a path item. -/
def itemOperations (template : String) (item : JsonValue) : List Operation :=
  match item.members? with
  | some members => verbs.filterMap fun verb => (members.lookup verb).map (⟨template, verb, ·⟩)
  | none => []

/-- The operations under some templates. -/
def operations (paths : List (String × JsonValue)) : List Operation := paths.flatMap fun p => itemOperations p.1 p.2

/-- A path item has an operation for each verb among its names, and for no other name. -/
theorem mem_itemOperations_iff {template : String} {item : JsonValue} (hitem : item.Ordered) {op : Operation} :
    op ∈ itemOperations template item ↔ op.template = template ∧
      ∃ members, item = .object members ∧ op.verb ∈ verbs ∧ (op.verb, op.body) ∈ members := by
  cases hitem with
  | @object members hsorted _ =>
    simp only [itemOperations, JsonValue.members?, List.mem_filterMap, Option.map_eq_some_iff,
      JsonValue.lookup_eq_some_iff_mem hsorted, JsonValue.object.injEq]
    constructor
    · rintro ⟨verb, hverb, body, hmem, rfl⟩
      exact ⟨rfl, members, rfl, hverb, hmem⟩
    · rintro ⟨rfl, _, rfl, hverb, hmem⟩
      exact ⟨op.verb, hverb, op.body, hmem, rfl⟩
  | _ => simp [itemOperations, JsonValue.members?]

/-- The operations that are gone through are those of the document. -/
theorem mem_operations_iff {doc : JsonValue} (hdoc : doc.Ordered) {paths : List (String × JsonValue)}
    (hpaths : doc.get? "paths" = some (.object paths)) {op : Operation} :
    op ∈ operations paths ↔ IsOperation doc op := by
  have hitems := (JsonValue.ordered_object_iff.mp (hdoc.of_get? hpaths)).2
  rw [operations, List.mem_flatMap]
  constructor
  · rintro ⟨⟨template, item⟩, hmem, hop⟩
    obtain ⟨rfl, members, rfl, hverb, hbody⟩ := (mem_itemOperations_iff (hitems _ hmem)).mp hop
    exact ⟨paths, members, hpaths, hmem, hverb, hbody⟩
  · rintro ⟨paths', members, hpaths', hmem, hverb, hbody⟩
    obtain rfl : paths = paths' := JsonValue.object.inj (Option.some.inj (hpaths.symm.trans hpaths'))
    exact ⟨_, hmem, (mem_itemOperations_iff (hitems _ hmem)).mpr ⟨rfl, members, rfl, hverb, hbody⟩⟩

/-- Verbs are gone through in one order, in which each comes once. -/
theorem pairwise_verbs : verbs.Pairwise fun v w => verbs.idxOf v < verbs.idxOf w := by decide

/-- So are the operations of a path item. -/
theorem pairwise_itemOperations (template : String) (item : JsonValue) :
    (itemOperations template item).Pairwise Operation.Before := by
  unfold itemOperations
  cases item.members? with
  | none => exact List.Pairwise.nil
  | some members =>
    refine List.pairwise_filterMap.mpr (pairwise_verbs.imp fun hlt op hop op' hop' => ?_)
    obtain ⟨body, -, rfl⟩ := Option.map_eq_some_iff.mp hop
    obtain ⟨body', -, rfl⟩ := Option.map_eq_some_iff.mp hop'
    exact .inr ⟨rfl, hlt⟩

/-- The operations of a path item are all under its template. -/
theorem template_of_mem_itemOperations {template : String} {item : JsonValue} {op : Operation}
    (h : op ∈ itemOperations template item) : op.template = template := by
  unfold itemOperations at h
  split at h
  · obtain ⟨verb, -, hop⟩ := List.mem_filterMap.mp h
    obtain ⟨body, -, rfl⟩ := Option.map_eq_some_iff.mp hop
    rfl
  · cases h

/-- Operations come by templates first and then by verbs, so none comes twice. -/
theorem pairwise_operations {paths : List (String × JsonValue)} (h : paths.Pairwise fun m n => m.1 < n.1) :
    (operations paths).Pairwise Operation.Before := by
  refine List.pairwise_flatMap.mpr ⟨fun p _ => pairwise_itemOperations p.1 p.2, h.imp fun hlt op hop op' hop' => ?_⟩
  rw [Operation.Before, template_of_mem_itemOperations hop, template_of_mem_itemOperations hop']
  exact .inl hlt

/-- What is under a verb of an ordered document is ordered as well. -/
theorem IsOperation.ordered_body {doc : JsonValue} {op : Operation} (h : IsOperation doc op) (hdoc : doc.Ordered) :
    op.body.Ordered := by
  obtain ⟨paths, members, hpaths, hmem, -, hbody⟩ := h
  have hitem := (JsonValue.ordered_object_iff.mp (hdoc.of_get? hpaths)).2 _ hmem
  exact (JsonValue.ordered_object_iff.mp hitem).2 _ hbody

/-! ## Outcomes -/

/-- What becomes of an operation: an entry for the handler that it names, with its verb in capitals, or a notice if it
names none. -/
inductive Settles (base : String) (op : Operation) : Outcome → Prop where
  | entry {handler : String} (h : Names op.body handler) :
      Settles base op (.entry ⟨base ++ pattern op.template, capitals op.verb, handler⟩)
  | skipped (h : ∀ handler, ¬ Names op.body handler) :
      Settles base op (.skipped (.operationWithoutHandler op.template op.verb))

/-- What is made of an operation is the outcome that it should have. -/
theorem settles_outcome (base : String) {op : Operation} (hbody : op.body.Ordered) :
    Settles base op (outcome base op.template op.verb op.body) := by
  unfold outcome
  split
  next handler h => exact .entry ((handlerName?_eq_some_iff hbody).mp h)
  next h =>
    refine .skipped fun handler hnames => ?_
    rw [(handlerName?_eq_some_iff hbody).mpr hnames] at h
    cases h

/-- What is told of a document is told operation by operation. -/
theorem outcomes_eq (base : String) (paths : List (String × JsonValue)) :
    (paths.flatMap fun p => pathOutcomes base p.1 p.2) =
      (operations paths).map fun op => outcome base op.template op.verb op.body := by
  rw [operations, List.map_flatMap]
  congr 1
  funext p
  unfold pathOutcomes itemOperations
  cases p.2.members? with
  | none => rfl
  | some members =>
    simp only [List.map_filterMap, Option.map_map]
    rfl

/-- **No operation is lost.** A document is refused exactly if it has no object of paths. Otherwise its operations, in
the order of their templates and verbs, have one outcome each, which is an entry or a notice; the entries and the
notices of the document are these in their order, and there are no others. -/
theorem entries_settled {doc : JsonValue} (hdoc : doc.Ordered) :
    (∀ e, (entries doc).2 = .error e ↔
      (¬ ∃ paths, doc.get? "paths" = some (.object paths)) ∧ e = .invalidRoute .noPaths) ∧
    ((∃ paths, doc.get? "paths" = some (.object paths)) →
      ∃ ops outcomes, (∀ op, op ∈ ops ↔ IsOperation doc op) ∧ ops.Pairwise Operation.Before ∧
        List.Forall₂ (Settles (basePath doc)) ops outcomes ∧
        entries doc = (outcomes.filterMap (·.notice?), .ok (outcomes.filterMap (·.added?)))) := by
  -- With a path object there are outcomes, one for each operation.
  have houtcomes : ∀ paths, doc.get? "paths" = some (.object paths) →
      outcomes? doc = some ((operations paths).map fun op => outcome (basePath doc) op.template op.verb op.body) := by
    intro paths hpaths
    rw [← outcomes_eq, outcomes?, hpaths]
    rfl
  refine ⟨fun e => ?_, ?_⟩
  · by_cases hpaths : ∃ paths, doc.get? "paths" = some (.object paths)
    · obtain ⟨paths, hpaths⟩ := hpaths
      simp [entries, houtcomes paths hpaths, hpaths]
    -- Without one there is nothing to go through, and that is the one error.
    · have hnone : outcomes? doc = none := by
        refine Option.eq_none_iff_forall_ne_some.mpr fun os hos => hpaths ?_
        obtain ⟨v, hv, hos⟩ := Option.bind_eq_some_iff.mp hos
        obtain ⟨paths, hmembers, -⟩ := Option.bind_eq_some_iff.mp hos
        cases v with
        | object members => exact ⟨members, hv⟩
        | _ => cases hmembers
      simp [entries, hnone, hpaths, eq_comm]
  · rintro ⟨paths, hpaths⟩
    refine ⟨operations paths, (operations paths).map fun op => outcome (basePath doc) op.template op.verb op.body,
      fun op => mem_operations_iff hdoc hpaths, ?_, ?_, ?_⟩
    · exact pairwise_operations (JsonValue.ordered_object_iff.mp (hdoc.of_get? hpaths)).1
    · refine List.forall₂_map_right_iff.mpr (List.forall₂_same.mpr fun op hop => ?_)
      exact settles_outcome (basePath doc) (((mem_operations_iff hdoc hpaths).mp hop).ordered_body hdoc)
    · rw [entries, houtcomes paths hpaths]

/-- A path with four operations, of which one is no object, one has a number for its identifier and one has several
handler keys, and a path without operations. -/
def crowded : JsonValue :=
  .object [("paths", .object [
    ("/a/{id}", .object [
      ("delete", .object [("operationId", .string "id"), ("x-handler", .bool true), ("x-handler-1", .string "one"),
        ("x-handler-2", .string "two")]),
      ("get", .null),
      ("parameters", .object [("operationId", .string "none")]),
      ("post", .object [("operationId", .number (.int 7))]),
      ("put", .object [("operationId", .string "put")])]),
    ("/b", .string "get")])]

/-- Two of the operations have entries and two have notices, in the order of the verbs. -/
theorem entries_settled_crowded :
    crowded.Ordered ∧ ∃ ops outcomes, (∀ op, op ∈ ops ↔ IsOperation crowded op) ∧ ops.Pairwise Operation.Before ∧
      List.Forall₂ (Settles (basePath crowded)) ops outcomes ∧
      outcomes.filterMap (·.added?) = [⟨"/a/*", "PUT", "put"⟩, ⟨"/a/*", "DELETE", "one"⟩] ∧
      outcomes.filterMap (·.notice?) =
        [.operationWithoutHandler "/a/{id}" "get", .operationWithoutHandler "/a/{id}" "post"] := by
  have hordered : crowded.Ordered := by
    simp only [crowded, JsonValue.ordered_object_iff, List.forall_mem_cons, List.not_mem_nil, IsEmpty.forall_iff,
      implies_true, JsonValue.Ordered.string, JsonValue.Ordered.null, JsonValue.Ordered.bool, JsonValue.Ordered.number]
    decide
  obtain ⟨ops, outcomes, hops, hpairwise, hsettles, hentries⟩ := (entries_settled hordered).2 ⟨_, rfl⟩
  have hall : entries crowded = ([.operationWithoutHandler "/a/{id}" "get", .operationWithoutHandler "/a/{id}" "post"],
      .ok [⟨"/a/*", "PUT", "put"⟩, ⟨"/a/*", "DELETE", "one"⟩]) := by
    rfl
  obtain ⟨hnotices, hadded⟩ := Prod.mk.inj (hentries.symm.trans hall)
  exact ⟨hordered, ops, outcomes, hops, hpairwise, hsettles, Except.ok.inj hadded, hnotices⟩

end HttpService.OpenApi
