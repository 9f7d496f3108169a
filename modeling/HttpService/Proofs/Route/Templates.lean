import Mathlib.Data.List.Nodup
import Mathlib.Data.String.Basic
import HttpService.Route.OpenApi
import HttpService.Proofs.Json.Ordered
import HttpService.Proofs.Route.Lookup

/-!
# From path templates to handlers

The routes of an API description, followed from the document to the lookup. An operation is described by a path template
and a verb (`OpenApi.Describes`); values for the parameters of a template make it a path (`OpenApi.expanded`).

* `Router.ofEntries_eq_ok` — a table whose verbs and handlers are all good makes the router of its insertions.
* `OpenApi.exists_entries` — the table of a document has an entry for each operation that names a handler, and no other.
* `OpenApi.matches_expanded`, `OpenApi.captured_expanded` — the pattern of a template matches every path the template
  makes, and finds the values in it.
* `OpenApi.lookup_expanded` — the path that a template makes is looked up with success, whatever other templates there
  are; if none of them matches it, it leads to the operation it was made for and gives back the values.
-/

namespace HttpService

/-! ## Patterns and what they match -/

/-- A path is matched by itself, taken for a pattern. -/
theorem matches_self (path : List Segment) : Matches path path :=
  List.forall₂_same.mpr fun _ _ => .inl rfl

/-- Patterns one after the other match paths one after the other. -/
theorem Matches.append {p p' q q' : List Segment} (h : Matches p q) (h' : Matches p' q') :
    Matches (p ++ p') (q ++ q') :=
  List.rel_append h h'

/-- Segments that both begin with, none of them a wildcard, are captured by nothing. -/
theorem captured_append_of_not_mem {front : List Segment} (h : wildcard ∉ front) (p q : List Segment) :
    captured (front ++ p) (front ++ q) = captured p q := by
  induction front with
  | nil => rfl
  | cons s front ih =>
    rw [List.mem_cons, not_or] at h
    rw [List.cons_append, List.cons_append, captured_cons_literal (Ne.symm h.1), ih h.2]

/-! ## Tables -/

namespace Router

variable {η : Type}

/-- The insertion that an entry stands for, if its verb is good and its handler known. -/
def insertion? (registry : Registry η) (e : RouteEntry) : Option (Insertion η) :=
  match e.method, registry.get? e.handler with
  | .ok m, some h => some ⟨e.path, m, h⟩
  | _, _ => none

/-- What an entry stands for keeps its path and has its method and handler. -/
theorem insertion?_eq_some_iff {registry : Registry η} {e : RouteEntry} {i : Insertion η} :
    insertion? registry e = some i ↔
      e.method = .ok i.method ∧ registry.get? e.handler = some i.handler ∧ e.path = i.pattern := by
  obtain ⟨pattern, method, handler⟩ := i
  unfold insertion?
  cases e.method with
  | error err => simp
  | ok m =>
    cases registry.get? e.handler with
    | none => simp
    | some h =>
      simp only [Option.some.injEq, Insertion.mk.injEq, Except.ok.injEq]
      constructor
      · rintro ⟨hpath, hm, hh⟩
        exact ⟨hm, hh, hpath⟩
      · rintro ⟨hm, hh, hpath⟩
        exact ⟨hpath, hm, hh⟩

/-- Entries that all stand for insertions are inserted in their order. -/
theorem addEntries_eq_ok {registry : Registry η} {es : List RouteEntry}
    (h : ∀ e ∈ es, (insertion? registry e).isSome) (before : List (Insertion η)) :
    (addEntries registry es (ofInsertions before)).2 =
      .ok (ofInsertions (before ++ es.filterMap (insertion? registry))) := by
  induction es generalizing before with
  | nil =>
    rw [List.filterMap_nil, List.append_nil]
    rfl
  | cons e es ih =>
    obtain ⟨i, hi⟩ := Option.isSome_iff_exists.mp (h e List.mem_cons_self)
    obtain ⟨hmethod, hhandler, hpath⟩ := insertion?_eq_some_iff.mp hi
    have hrest := ih (fun e' he' => h e' (List.mem_cons_of_mem e he')) (before ++ [i])
    rw [List.filterMap_cons_some hi, List.append_cons, ← hrest, ofInsertions_append_singleton, addEntries]
    simp only [hmethod, hhandler, hpath]

/-- A table without a bad verb or an unknown handler makes the router of its insertions. -/
theorem ofEntries_eq_ok {registry : Registry η} {es : List RouteEntry}
    (h : ∀ e ∈ es, (insertion? registry e).isSome) :
    (ofEntries registry es).2 = .ok (ofInsertions (es.filterMap (insertion? registry))) :=
  addEntries_eq_ok h []

/-- What stands under a pattern was inserted there. -/
theorem exists_insertion_of_handlerAt? {is : List (Insertion η)} {p : List Segment} {m : Method} {h : η}
    (hat : (ofInsertions is).handlerAt? p m = some h) :
    ∃ i ∈ is, segments i.pattern = p ∧ i.method = m ∧ i.handler = h := by
  rw [handlerAt?_ofInsertions] at hat
  obtain ⟨i, hlast, hi⟩ := Option.map_eq_some_iff.mp hat
  obtain ⟨hmem, hfor⟩ := List.mem_filter.mp (List.mem_of_getLast? hlast)
  obtain ⟨hp, hm⟩ := of_decide_eq_true hfor
  exact ⟨i, hmem, hp, hm, hi⟩

/-- Something stands under every pattern of an insertion. -/
theorem isSome_handlerAt? {is : List (Insertion η)} {i : Insertion η} (hi : i ∈ is) :
    ((ofInsertions is).handlerAt? (segments i.pattern) i.method).isSome := by
  rw [handlerAt?_ofInsertions, lastHandler?, Option.isSome_map, List.getLast?_isSome]
  refine List.ne_nil_of_mem (List.mem_filter.mpr ⟨hi, ?_⟩)
  exact decide_eq_true ⟨rfl, rfl⟩

end Router

namespace OpenApi

/-! ## Operations of a document -/

/-- The path items of a document by their templates. -/
def paths? (doc : JsonValue) : Option (List (String × JsonValue)) := (doc.get? "paths").bind (·.members?)

/-- The operation that a path item has under a verb. -/
def operation? (item : JsonValue) (verb : String) : Option JsonValue := item.members?.bind (·.lookup verb)

/-- A document has an operation for a template and a verb that names this handler. -/
def Describes (doc : JsonValue) (template verb name : String) : Prop :=
  verb ∈ verbs ∧ ∃ paths item operation, paths? doc = some paths ∧ (template, item) ∈ paths ∧
    operation? item verb = some operation ∧ handlerName? operation = some name

/-- The entry of an operation. -/
def entryOf (doc : JsonValue) (template verb name : String) : RouteEntry :=
  ⟨basePath doc ++ pattern template, capitals verb, name⟩

/-- A path item gives an entry for each of its operations that names a handler. -/
theorem entry_mem_pathOutcomes_iff {base template : String} {item : JsonValue} {e : RouteEntry} :
    .entry e ∈ pathOutcomes base template item ↔
      ∃ verb ∈ verbs, ∃ operation name, operation? item verb = some operation ∧
        handlerName? operation = some name ∧ e = ⟨base ++ pattern template, capitals verb, name⟩ := by
  -- An operation comes to an entry where it names its handler, and to a notice otherwise.
  have houtcome : ∀ verb operation, outcome base template verb operation = .entry e ↔
      ∃ name, handlerName? operation = some name ∧ e = ⟨base ++ pattern template, capitals verb, name⟩ := by
    intro verb operation
    unfold outcome
    cases handlerName? operation with
    | none => simp
    | some name => simp [eq_comm]
  unfold pathOutcomes operation?
  cases item.members? with
  | none => simp
  | some members =>
    simp only [List.mem_filterMap, Option.map_eq_some_iff, houtcome, Option.bind_some]
    constructor
    · rintro ⟨verb, hverb, operation, hop, name, hname, he⟩
      exact ⟨verb, hverb, operation, name, hop, hname, he⟩
    · rintro ⟨verb, hverb, operation, name, hop, hname, he⟩
      exact ⟨verb, hverb, operation, hop, name, hname, he⟩

/-- **The table of a document.** It has the entries of the operations that name a handler. -/
theorem exists_entries {doc : JsonValue} {paths : List (String × JsonValue)} (hpaths : paths? doc = some paths) :
    ∃ es, (entries doc).2 = .ok es ∧
      ∀ e, e ∈ es ↔ ∃ template verb name, Describes doc template verb name ∧ e = entryOf doc template verb name := by
  have houtcomes : outcomes? doc = some (paths.flatMap fun p => pathOutcomes (basePath doc) p.1 p.2) := by
    obtain ⟨v, hv, hmembers⟩ := Option.bind_eq_some_iff.mp hpaths
    simp only [outcomes?, hv, hmembers, Option.bind_eq_bind, Option.bind_some]
    rfl
  refine ⟨_, by rw [entries, houtcomes], fun e => ?_⟩
  -- An outcome is an entry or a notice, so the entries are told apart by what they add.
  have hadded : ∀ o : Outcome, o.added? = some e ↔ o = .entry e := by
    intro o
    cases o with
    | entry e' => simp [Outcome.added?]
    | skipped n => simp [Outcome.added?]
  simp only [List.mem_filterMap, hadded, exists_eq_right, List.mem_flatMap, entry_mem_pathOutcomes_iff]
  constructor
  · rintro ⟨p, hp, verb, hverb, operation, name, hop, hname, rfl⟩
    exact ⟨p.1, verb, name, ⟨hverb, paths, p.2, operation, hpaths, hp, hop, hname⟩, rfl⟩
  · rintro ⟨template, verb, name, ⟨hverb, paths', item, operation, hpaths', hp, hop, hname⟩, rfl⟩
    obtain rfl := Option.some.inj (hpaths.symm.trans hpaths')
    exact ⟨(template, item), hp, verb, hverb, operation, name, hop, hname, rfl⟩

/-- The verbs of operations are those of methods, each of its own. -/
theorem exists_method_of_verb {verb : String} (h : verb ∈ verbs) :
    ∃ m, Method.ofText? (capitals verb) = some m ∧ Method.ofText? (capitals (capitals verb)) = some m := by
  have hall : ∀ verb ∈ verbs, (Method.ofText? (capitals verb)).isSome ∧
      Method.ofText? (capitals (capitals verb)) = Method.ofText? (capitals verb) := by decide
  obtain ⟨hsome, hsame⟩ := hall verb h
  obtain ⟨m, hm⟩ := Option.isSome_iff_exists.mp hsome
  exact ⟨m, hm, hsame.trans hm⟩

/-- Different verbs are of different methods. -/
theorem verb_eq_of_method {verb verb' : String} (h : verb ∈ verbs) (h' : verb' ∈ verbs)
    (hsame : Method.ofText? (capitals verb) = Method.ofText? (capitals verb')) : verb = verb' := by
  have hall : ∀ verb ∈ verbs, ∀ verb' ∈ verbs,
      Method.ofText? (capitals verb) = Method.ofText? (capitals verb') → verb = verb' := by decide
  exact hall verb h verb' h' hsame

/-- The entry of an operation is for the method of its verb. -/
theorem method_entryOf (doc : JsonValue) (template : String) {verb : String} (name : String) {m : Method}
    (hm : Method.ofText? (capitals (capitals verb)) = some m) :
    (entryOf doc template verb name).method = .ok m := by
  rw [RouteEntry.method, entryOf, hm]

/-! ## Templates and the paths they make -/

/-- The parameters of a template. -/
def parameters (template : String) : List (List Char) := (pieces '/' template.toList).filter isParameter

/-- The pieces of a template with values in the place of its parameters. -/
def fill : List (List Char) → List String → List (List Char)
  | [], _ => []
  | p :: ps, values =>
    if isParameter p then
      match values with
      | [] => p :: fill ps []
      | value :: values => value.toList :: fill ps values
    else p :: fill ps values

theorem fill_parameter {p : List Char} (hp : isParameter p) (ps : List (List Char)) (value : String)
    (values : List String) : fill (p :: ps) (value :: values) = value.toList :: fill ps values := by
  simp only [fill, hp, if_true]

theorem fill_literal {p : List Char} (hp : ¬ isParameter p) (ps : List (List Char)) (values : List String) :
    fill (p :: ps) values = p :: fill ps values := by
  simp only [fill, hp, Bool.false_eq_true, if_false]

/-- The path that a template makes of some values. -/
def expanded (template : String) (values : List String) : String :=
  String.ofList (join '/' (fill (pieces '/' template.toList) values))

/-- What may stand in a path for a parameter. -/
def IsValue (value : String) : Prop := value ≠ "" ∧ '/' ∉ value.toList

/-- What a piece of a template becomes in its pattern. -/
def rewritten (piece : List Char) : List Char := if isParameter piece then wildcard.toList else piece

theorem pattern_eq (template : String) :
    pattern template = String.ofList (join '/' ((pieces '/' template.toList).map rewritten)) := rfl

/-- The segments that pieces make. -/
def kept (ps : List (List Char)) : List Segment := (ps.filter fun p => !p.isEmpty).map String.ofList

theorem kept_cons_nil (ps : List (List Char)) : kept ([] :: ps) = kept ps := rfl

theorem kept_cons {p : List Char} (hp : p ≠ []) (ps : List (List Char)) :
    kept (p :: ps) = String.ofList p :: kept ps := by
  rw [kept, List.filter_cons_of_pos (by simpa using hp)]
  rfl

/-- The segments of a path are made of the pieces between its slashes. -/
theorem segments_eq_kept (path : String) : segments path = kept (pieces '/' path.toList) := rfl

/-- A path in front of pieces that begin with a slash. -/
theorem segments_append_join (base : String) {ps : List (List Char)} (hne : ps ≠ []) (h : ∀ p ∈ ps, '/' ∉ p) :
    segments (base ++ String.ofList (join '/' ([] :: ps))) = segments base ++ kept ps := by
  have hslash : String.ofList (join '/' ([] :: ps)) = "/" ++ String.ofList (join '/' ps) := by
    cases ps with
    | nil => exact absurd rfl hne
    | cons p ps =>
      rw [← String.toList_inj]
      simp [join]
  have hrest : segments (String.ofList (join '/' ps)) = kept ps := by
    rw [segments_eq_kept, String.toList_ofList, pieces_join hne h]
  rw [hslash, ← String.append_assoc, segments_joined, hrest]

/-- Rewriting a piece brings no slash into it. -/
theorem not_slash_rewritten {p : List Char} (h : '/' ∉ p) : '/' ∉ rewritten p := by
  unfold rewritten
  split
  · decide
  · exact h

/-- Filling in drops no piece. -/
theorem fill_eq_nil_iff {ps : List (List Char)} {values : List String} : fill ps values = [] ↔ ps = [] := by
  cases ps with
  | nil => exact iff_of_true rfl rfl
  | cons p ps =>
    refine iff_of_false ?_ (List.cons_ne_nil _ _)
    unfold fill
    split
    · cases values with
      | nil => exact List.cons_ne_nil _ _
      | cons value values => exact List.cons_ne_nil _ _
    · exact List.cons_ne_nil _ _

/-- Values without slashes keep the pieces what they are. -/
theorem not_slash_fill {ps : List (List Char)} {values : List String} (hps : ∀ p ∈ ps, '/' ∉ p)
    (hvalues : ∀ value ∈ values, IsValue value) : ∀ p ∈ fill ps values, '/' ∉ p := by
  induction ps generalizing values with
  | nil =>
    intro p hp
    cases hp
  | cons q ps ih =>
    obtain ⟨hq, hps⟩ := List.forall_mem_cons.mp hps
    unfold fill
    split
    · cases values with
      | nil => exact List.forall_mem_cons.mpr ⟨hq, ih hps hvalues⟩
      | cons value values =>
        obtain ⟨hvalue, hvalues⟩ := List.forall_mem_cons.mp hvalues
        exact List.forall_mem_cons.mpr ⟨hvalue.2, ih hps hvalues⟩
    · exact List.forall_mem_cons.mpr ⟨hq, ih hps hvalues⟩

/-- Every piece that is not a parameter stands in both, and every parameter's value under a wildcard. -/
theorem matches_fill {ps : List (List Char)} {values : List String}
    (hcount : values.length = (ps.filter isParameter).length) (hvalues : ∀ value ∈ values, IsValue value) :
    Matches (kept (ps.map rewritten)) (kept (fill ps values)) := by
  induction ps generalizing values with
  | nil => exact List.Forall₂.nil
  | cons p ps ih =>
    -- A parameter stands under a wildcard, and any other piece is a segment of its own unless it is empty.
    by_cases hp : isParameter p
    · rw [List.filter_cons_of_pos hp, List.length_cons] at hcount
      cases values with
      | nil => cases hcount
      | cons value values =>
        obtain ⟨hvalue, hvalues⟩ := List.forall_mem_cons.mp hvalues
        have hne : value.toList ≠ [] := by simpa using hvalue.1
        rw [List.map_cons, rewritten, if_pos hp, fill_parameter hp, kept_cons (by decide), kept_cons hne]
        exact .cons (.inr rfl) (ih (Nat.succ.inj hcount) hvalues)
    · rw [List.filter_cons_of_neg hp] at hcount
      have hrest := ih hcount hvalues
      rw [List.map_cons, rewritten, if_neg hp, fill_literal hp]
      by_cases hempty : p = []
      · rwa [hempty, kept_cons_nil, kept_cons_nil]
      · rw [kept_cons hempty, kept_cons hempty]
        exact .cons (.inl rfl) hrest

/-- Only parameters become wildcards, so what is captured are their values. -/
theorem captured_fill {ps : List (List Char)} {values : List String}
    (hcount : values.length = (ps.filter isParameter).length) (hvalues : ∀ value ∈ values, IsValue value)
    (hliteral : wildcard ∉ kept ps) : captured (kept (ps.map rewritten)) (kept (fill ps values)) = values := by
  induction ps generalizing values with
  | nil =>
    rw [List.filter_nil, List.length_nil, List.length_eq_zero_iff] at hcount
    rw [hcount]
    rfl
  | cons p ps ih =>
    -- A literal piece must not be the wildcard, or its own text would be captured.
    have hrest : wildcard ∉ kept ps := by
      intro hmem
      by_cases hempty : p = []
      · rw [hempty, kept_cons_nil] at hliteral
        exact hliteral hmem
      · rw [kept_cons hempty] at hliteral
        exact hliteral (List.mem_cons_of_mem _ hmem)
    by_cases hp : isParameter p
    · rw [List.filter_cons_of_pos hp, List.length_cons] at hcount
      cases values with
      | nil => cases hcount
      | cons value values =>
        -- A parameter stands under a wildcard, and its value is a segment.
        obtain ⟨hvalue, hvalues⟩ := List.forall_mem_cons.mp hvalues
        have hne : value.toList ≠ [] := by simpa using hvalue.1
        rw [List.map_cons, rewritten, if_pos hp, fill_parameter hp, kept_cons (by decide), kept_cons hne,
          String.ofList_toList, String.ofList_toList, captured_cons_wildcard,
          ih (Nat.succ.inj hcount) hvalues hrest]
    · rw [List.filter_cons_of_neg hp] at hcount
      rw [List.map_cons, rewritten, if_neg hp, fill_literal hp]
      by_cases hempty : p = []
      · rw [hempty, kept_cons_nil, kept_cons_nil, ih hcount hvalues hrest]
      · rw [kept_cons hempty] at hliteral
        have hnot : String.ofList p ≠ wildcard := fun heq => hliteral (heq ▸ List.mem_cons_self)
        rw [kept_cons hempty, kept_cons hempty, captured_cons_literal hnot, ih hcount hvalues hrest]

/-- A template that begins with a slash, by its pieces behind the slash: its own segments, and those of its pattern and
of the paths it makes behind a base. -/
theorem exists_pieces_of_slash (base : String) {template : String} (h : template.toList.head? = some '/') :
    ∃ ps, parameters template = ps.filter isParameter ∧ segments template = kept ps ∧
      segments (base ++ pattern template) = segments base ++ kept (ps.map rewritten) ∧
      ∀ values, (∀ value ∈ values, IsValue value) →
        segments (base ++ expanded template values) = segments base ++ kept (fill ps values) := by
  obtain ⟨rest, hrest⟩ := List.head?_eq_some_iff.mp h
  -- The slash at the front leaves an empty piece, and the others are those of the rest.
  have hps : pieces '/' template.toList = [] :: pieces '/' rest := by rw [hrest, pieces, if_pos rfl]
  have hne : pieces '/' rest ≠ [] := pieces_ne_nil '/' rest
  have hnot : ∀ p ∈ pieces '/' rest, '/' ∉ p := fun p hp => not_mem_of_mem_pieces hp
  refine ⟨pieces '/' rest, ?_, ?_, ?_, fun values hvalues => ?_⟩
  · rw [parameters, hps, List.filter_cons_of_neg (by decide)]
  · rw [segments_eq_kept, hps, kept_cons_nil]
  · rw [pattern_eq, hps]
    refine segments_append_join base (by simpa using hne) fun q hq => ?_
    obtain ⟨p, hp, rfl⟩ := List.mem_map.mp hq
    exact not_slash_rewritten (hnot p hp)
  · rw [expanded, hps, fill_literal (by decide)]
    exact segments_append_join base (mt fill_eq_nil_iff.mp hne) (not_slash_fill hnot hvalues)

/-- **A template's pattern matches the paths it makes.** -/
theorem matches_expanded (base : String) {template : String} (hslash : template.toList.head? = some '/')
    {values : List String} (hcount : values.length = (parameters template).length)
    (hvalues : ∀ value ∈ values, IsValue value) :
    Matches (segments (base ++ pattern template)) (segments (base ++ expanded template values)) := by
  obtain ⟨ps, hps, -, hpattern, hpath⟩ := exists_pieces_of_slash base hslash
  rw [hps] at hcount
  rw [hpattern, hpath values hvalues]
  exact (matches_self _).append (matches_fill hcount hvalues)

/-- The pattern finds the values again, in their order. -/
theorem captured_expanded {base template : String} (hslash : template.toList.head? = some '/')
    {values : List String} (hcount : values.length = (parameters template).length)
    (hvalues : ∀ value ∈ values, IsValue value) (hbase : wildcard ∉ segments base)
    (hliteral : wildcard ∉ segments template) :
    captured (segments (base ++ pattern template)) (segments (base ++ expanded template values)) = values := by
  obtain ⟨ps, hps, hkept, hpattern, hpath⟩ := exists_pieces_of_slash base hslash
  rw [hps] at hcount
  rw [hkept] at hliteral
  rw [hpattern, hpath values hvalues, captured_append_of_not_mem hbase, captured_fill hcount hvalues hliteral]

/-! ## From the document to the handler -/

/-- No two path items have the same template. -/
def DistinctTemplates (doc : JsonValue) : Prop := ∀ paths, paths? doc = some paths → (paths.map (·.1)).Nodup

/-- So it is in every document that has been read, since of several members of one name only the last is kept. -/
theorem distinctTemplates_of_get? {doc : JsonValue} {ms : List (String × JsonValue)}
    (h : doc.get? "paths" = some (.ofMembers ms)) : DistinctTemplates doc := by
  obtain ⟨members, hmembers, hnodup⟩ := JsonValue.nodup_ofMembers ms
  intro paths hpaths
  rw [paths?, h, hmembers] at hpaths
  obtain rfl : members = paths := Option.some.inj hpaths
  exact hnodup

/-- An operation names one handler, where no template comes twice. -/
theorem Describes.name_eq {doc : JsonValue} (hdistinct : DistinctTemplates doc) {template verb name name' : String}
    (h : Describes doc template verb name) (h' : Describes doc template verb name') : name = name' := by
  obtain ⟨-, paths, item, operation, hpaths, hmem, hop, hname⟩ := h
  obtain ⟨-, paths', item', operation', hpaths', hmem', hop', hname'⟩ := h'
  obtain rfl := Option.some.inj (hpaths.symm.trans hpaths')
  obtain rfl : item = item' := by
    have hsame := List.inj_on_of_nodup_map (hdistinct paths hpaths) hmem hmem' rfl
    exact (Prod.mk.inj hsame).2
  obtain rfl := Option.some.inj (hop.symm.trans hop')
  exact Option.some.inj (hname.symm.trans hname')

/-- A registry that knows every handler that a document names. -/
def Knows {η : Type} (registry : Registry η) (doc : JsonValue) : Prop :=
  ∀ template verb name, Describes doc template verb name → (registry.get? name).isSome

/-- The router of a document has an insertion for each operation that names a handler, and no other. -/
theorem exists_router {η : Type} {doc : JsonValue} {registry : Registry η} (hknows : Knows registry doc)
    {paths : List (String × JsonValue)} (hpaths : paths? doc = some paths) :
    ∃ es is, (entries doc).2 = .ok es ∧ (Router.ofEntries registry es).2 = .ok (Router.ofInsertions is) ∧
      ∀ i, i ∈ is ↔ ∃ template verb name, Describes doc template verb name ∧
        i.pattern = basePath doc ++ pattern template ∧ Method.ofText? (capitals verb) = some i.method ∧
        registry.get? name = some i.handler := by
  obtain ⟨es, hes, hmem⟩ := exists_entries hpaths
  -- The entry of an operation stands for an insertion at its pattern, whatever its verb and handler are.
  have hinsertion : ∀ template verb name, Describes doc template verb name → ∀ i,
      Router.insertion? registry (entryOf doc template verb name) = some i ↔
        i.pattern = basePath doc ++ pattern template ∧ Method.ofText? (capitals verb) = some i.method ∧
          registry.get? name = some i.handler := by
    intro template verb name hd i
    obtain ⟨m, hm, hm'⟩ := exists_method_of_verb hd.1
    rw [Router.insertion?_eq_some_iff, method_entryOf doc template name hm', hm]
    simp only [entryOf, Except.ok.injEq, Option.some.injEq]
    constructor
    · rintro ⟨hmethod, hhandler, hpattern⟩
      exact ⟨hpattern.symm, hmethod, hhandler⟩
    · rintro ⟨hpattern, hmethod, hhandler⟩
      exact ⟨hmethod, hhandler, hpattern.symm⟩
  refine ⟨es, es.filterMap (Router.insertion? registry), hes, Router.ofEntries_eq_ok fun e he => ?_, fun i => ?_⟩
  · obtain ⟨template, verb, name, hd, rfl⟩ := (hmem e).mp he
    obtain ⟨m, hm, -⟩ := exists_method_of_verb hd.1
    -- A verb is always that of a method, so only the handler could be missing.
    obtain ⟨h, hh⟩ := Option.isSome_iff_exists.mp (hknows template verb name hd)
    rw [(hinsertion template verb name hd ⟨basePath doc ++ pattern template, m, h⟩).mpr ⟨rfl, hm, hh⟩]
    rfl
  · rw [List.mem_filterMap]
    constructor
    · rintro ⟨e, he, hi⟩
      obtain ⟨template, verb, name, hd, rfl⟩ := (hmem e).mp he
      exact ⟨template, verb, name, hd, (hinsertion template verb name hd i).mp hi⟩
    · rintro ⟨template, verb, name, hd, hi⟩
      exact ⟨_, (hmem _).mpr ⟨template, verb, name, hd, rfl⟩, (hinsertion template verb name hd i).mpr hi⟩

/-- **From the document to the lookup.** Let a document have an operation whose template begins with a slash, and let a
registry know every handler that the document names. Then its table and its router are made without fault, and the
path that the template makes of any values is looked up with success under the operation's verb: with the handler of
an operation of the same verb whose pattern matches the path. If no other template of such an operation matches, the
handler is that of the operation itself; and where neither the base nor the template has a `*` of its own, the
segments found under the wildcards are the values in their order. -/
theorem lookup_expanded {η : Type} {doc : JsonValue} {registry : Registry η} (hknows : Knows registry doc)
    {template verb name : String} (hdescribes : Describes doc template verb name)
    (hslash : template.toList.head? = some '/') {values : List String}
    (hcount : values.length = (parameters template).length) (hvalues : ∀ value ∈ values, IsValue value) :
    let path := basePath doc ++ expanded template values
    ∃ es router m found, (entries doc).2 = .ok es ∧ (Router.ofEntries registry es).2 = .ok router ∧
      Method.ofText? (capitals verb) = some m ∧ router.lookup m path = some found ∧
      (∃ t n, Describes doc t verb n ∧ Matches (segments (basePath doc ++ pattern t)) (segments path) ∧
        registry.get? n = some found.handler) ∧
      (DistinctTemplates doc →
        (∀ t n, Describes doc t verb n → Matches (segments (basePath doc ++ pattern t)) (segments path) →
          t = template) →
        registry.get? name = some found.handler ∧
          (wildcard ∉ segments (basePath doc) → wildcard ∉ segments template → found.wildcards = values)) := by
  intro path
  obtain ⟨-, paths, -, -, hpaths, -⟩ := id hdescribes
  obtain ⟨es, is, hes, hrouter, his⟩ := exists_router hknows hpaths
  obtain ⟨m, hm, -⟩ := exists_method_of_verb hdescribes.1
  have hmatches := matches_expanded (basePath doc) hslash hcount hvalues
  -- The operation's own insertion is there, so something is found.
  have hsome : ((Router.ofInsertions is).lookup m path).isSome := by
    obtain ⟨h, hh⟩ := Option.isSome_iff_exists.mp (hknows template verb name hdescribes)
    have hown : (⟨basePath doc ++ pattern template, m, h⟩ : Router.Insertion η) ∈ is :=
      (his _).mpr ⟨template, verb, name, hdescribes, rfl, hm, hh⟩
    rw [Option.isSome_iff_ne_none]
    intro hnone
    have hat := (Router.lookup_eq_none_iff _ m path).mp hnone _ hmatches
    have hsome := Router.isSome_handlerAt? hown
    rw [hat] at hsome
    cases hsome
  obtain ⟨found, hfound⟩ := Option.isSome_iff_exists.mp hsome
  -- What is found stands under a pattern of the same verb.
  obtain ⟨p, hp, hhandler, -, hwildcards⟩ := (Router.lookup_eq_some_iff _ m path found).mp hfound
  obtain ⟨i, hi, rfl, hmethod, hsame⟩ := Router.exists_insertion_of_handlerAt? hhandler
  obtain ⟨t, v, n, hd, hpattern, hverb, hn⟩ := (his i).mp hi
  obtain rfl : v = verb := verb_eq_of_method hd.1 hdescribes.1 (by rw [hverb, hm, hmethod])
  rw [hpattern] at hp hwildcards
  rw [hsame] at hn
  refine ⟨es, _, m, found, hes, hrouter, hm, hfound, ⟨t, n, hd, hp, hn⟩, fun hdistinct hunique => ?_⟩
  obtain rfl : t = template := hunique t n hd hp
  obtain rfl := hd.name_eq hdistinct hdescribes
  refine ⟨hn, fun hbase hliteral => ?_⟩
  rw [hwildcards, captured_expanded hslash hcount hvalues hbase hliteral]

/-- An operation with nothing but an identifier is handled by that. -/
theorem handlerName?_operationId (name : String) :
    handlerName? (.ofMembers [("operationId", .string name)]) = some name := by
  have hnot : namesHandler "operationId" = false := by decide
  simp [handlerName?, JsonValue.ofMembers, JsonValue.place, JsonValue.members?, JsonValue.text?, hnot]

/-- A path item with one operation, under `get`. -/
def getItem (name : String) : JsonValue := .ofMembers [("get", .ofMembers [("operationId", .string name)])]

def petItems : List (String × JsonValue) := [("/pets/{id}/", getItem "pet"), ("/{kind}/mine", getItem "mine")]

/-- Two templates that both make `/pets/mine`. -/
def petStore : JsonValue :=
  .ofMembers [("servers", .array [.ofMembers [("url", .string "api:/v4/")]]), ("paths", .ofMembers petItems)]

def petHandlers : Registry Nat := ⟨[("pet", 1), ("mine", 2)]⟩

theorem paths?_petStore : paths? petStore = some petItems := rfl

/-- Its operations are these two. -/
theorem Describes.of_petStore {template verb name : String} (h : Describes petStore template verb name) :
    (template = "/pets/{id}/" ∧ name = "pet") ∨ (template = "/{kind}/mine" ∧ name = "mine") := by
  obtain ⟨-, paths, item, operation, hpaths, hmem, hop, hname⟩ := h
  obtain rfl := Option.some.inj (paths?_petStore.symm.trans hpaths)
  -- Both items hold one operation, under the verb get.
  have hnamed : ∀ n, operation? (getItem n) verb = some operation → name = n := by
    intro n hn
    by_cases hverb : verb = "get"
    · subst hverb
      obtain rfl := Option.some.inj hn
      exact Option.some.inj (hname.symm.trans (handlerName?_operationId n))
    · change [("get", _)].lookup verb = some operation at hn
      rw [List.lookup_cons, beq_eq_false_iff_ne.mpr hverb] at hn
      cases hn
  rcases List.mem_cons.mp hmem with heq | hmem
  · obtain ⟨rfl, rfl⟩ := Prod.mk.inj heq
    exact .inl ⟨rfl, hnamed "pet" hop⟩
  · obtain ⟨rfl, rfl⟩ := Prod.mk.inj (List.mem_singleton.mp hmem)
    exact .inr ⟨rfl, hnamed "mine" hop⟩

/-- Both have handlers. -/
theorem knows_petHandlers : Knows petHandlers petStore := by
  intro template verb name h
  rcases h.of_petStore with ⟨-, rfl⟩ | ⟨-, rfl⟩
  · rfl
  · rfl

/-- A number leads to one pet only. -/
theorem lookup_expanded_pet :
    ∃ es router m found, (entries petStore).2 = .ok es ∧ (Router.ofEntries petHandlers es).2 = .ok router ∧
      Method.ofText? "GET" = some m ∧ router.lookup m "/v4/pets/7/" = some found ∧ found.handler = 1 ∧
      found.wildcards = ["7"] := by
  have hdescribes : Describes petStore "/pets/{id}/" "get" "pet" :=
    ⟨by decide, petItems, getItem "pet", .ofMembers [("operationId", .string "pet")], rfl, List.mem_cons_self, rfl, rfl⟩
  have hdistinct : DistinctTemplates petStore := distinctTemplates_of_get? rfl
  have hbase : basePath petStore = "/v4" := by decide
  have hpath : "/v4" ++ expanded "/pets/{id}/" ["7"] = "/v4/pets/7/" := by decide
  have hsegments : segments "/v4/pets/7/" = ["v4", "pets", "7"] := by decide
  have hvalues : ∀ value ∈ ["7"], IsValue value := by
    intro value hvalue
    obtain rfl := List.mem_singleton.mp hvalue
    exact ⟨by decide, by decide⟩
  have hcount : ["7"].length = (parameters "/pets/{id}/").length := by decide
  obtain ⟨es, router, m, found, hes, hrouter, hm, hfound, -, hown⟩ :=
    lookup_expanded knows_petHandlers hdescribes (by decide) hcount hvalues
  rw [hbase, hpath] at hfound
  have hunique : ∀ t n, Describes petStore t "get" n →
      Matches (segments (basePath petStore ++ pattern t))
        (segments (basePath petStore ++ expanded "/pets/{id}/" ["7"])) → t = "/pets/{id}/" := by
    intro t n hd hmatches
    rcases hd.of_petStore with ⟨rfl, -⟩ | ⟨rfl, -⟩
    · rfl
    · -- The other template has another word at its end.
      have hother : segments ("/v4" ++ pattern "/{kind}/mine") = ["v4", "*", "mine"] := by decide
      rw [hbase, hpath, hsegments, hother] at hmatches
      simp [Matches, wildcard] at hmatches
  obtain ⟨hhandler, hwildcards⟩ := hown hdistinct hunique
  have hone : found.handler = 1 := (Option.some.inj hhandler).symm
  exact ⟨es, router, m, found, hes, hrouter, hm, hfound, hone,
    hwildcards (by rw [hbase]; decide) (by decide)⟩

end OpenApi

end HttpService
