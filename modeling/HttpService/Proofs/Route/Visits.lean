import Mathlib.Data.List.Nodup
import HttpService.Route.Visit
import HttpService.Proofs.Route.Sorted

/-!
# What a visit of a trie tells

A visit goes down and up again with one text, and what it tells is compared here with the content of the trie: one
entry for each list of segments that holds a value.

* `Steps.walk_eq` — a walk tells every value under its own path and leaves the text as it was.
* `mem_entries_iff`, `nodup_entries` — the entries are the values by their paths, none twice.
* `valueAt?_ofList_visits` — what was told makes a trie with the same values again, in any order.
* `visits_collected` — all of it for tries that grew by updates.
-/

namespace HttpService

variable {α σ : Type}

namespace Steps

/-! ## Walks -/

/-- A name is put behind the path and a slash. -/
theorem extended_eq {name : Segment} (h : name ≠ "") (path : String) : extended path name = path ++ "/" ++ name := by
  rw [extended, String.isEmpty_eq_false_iff.mpr h]
  rfl

/-- A node without a value is passed over in silence. -/
theorem tell_eq (f : String → α → σ → σ) {path : String} (h : path ≠ "") (v : Option α) (s : σ) :
    tell f path v s = v.toList.foldl (fun s a => f path a s) s := by
  cases v with
  | none => rfl
  | some a =>
    rw [tell, String.isEmpty_eq_false_iff.mpr h]
    rfl

/-- **A walk tells every value under its own path**, and afterwards the text is what it was. The induction goes along
the steps: what is told below a step is behind the step's name, and is cut off for the steps that follow. -/
theorem walk_eq (f : String → α → σ → σ) {steps : Steps α} (h : steps.Proper) (path : String) (s : σ) :
    steps.walk f (path, s) = (path, steps.entries.foldl (fun s e => f (path ++ trail e.1) e.2 s) s) := by
  induction steps generalizing path s with
  | none => rfl
  | step n v below next ihb ihn =>
    obtain ⟨hne, -, hbelow, hnext⟩ := h
    have hpath : path ++ "/" ++ n ≠ "" := by
      intro he
      have hlist := congrArg String.toList he
      simp at hlist
    -- Behind the lists below it the buffer is cut back to where the step found it.
    have hcut : cutOff (path ++ "/" ++ n) path.utf8ByteSize = path := by
      rw [String.append_assoc, cutOff_append]
    rw [walk]
    simp only [extended_eq hne, tell_eq f hpath, ihb hbelow, hcut, ihn hnext]
    rw [entries, List.foldl_append, List.foldl_append, List.foldl_map, List.foldl_map]
    simp only [trail_cons, trail_nil, String.append_empty, String.append_assoc]

/-! ## Entries -/

/-- What is below the root is under a list that is not empty. -/
theorem ne_nil_of_mem_entries {steps : Steps α} {e : List Segment × α} (h : e ∈ steps.entries) : e.1 ≠ [] := by
  induction steps with
  | none => cases h
  | step n v below next _ ih =>
    rw [entries, List.mem_append, List.mem_append, List.mem_map, List.mem_map] at h
    rcases h with (⟨a, -, rfl⟩ | ⟨e', -, rfl⟩) | h
    · exact List.cons_ne_nil _ _
    · exact List.cons_ne_nil _ _
    · exact ih h

/-- Entries are the values behind the steps. -/
theorem cons_mem_entries_iff {steps : Steps α} (h : steps.Proper) (s : Segment) (ss : List Segment) (a : α) :
    (s :: ss, a) ∈ steps.entries ↔ (steps.follow? s).bind (·.valueAt? ss) = some a := by
  induction steps generalizing s ss with
  | none => exact iff_of_false List.not_mem_nil nofun
  | step n v below next ihb ihn =>
    obtain ⟨-, hfresh, hbelow, hnext⟩ := h
    -- A step tells its own value, those below it with its name in front, and those of the steps behind it.
    have hmem : (s :: ss, a) ∈ (Steps.step n v below next).entries ↔
        (n = s ∧ (⟨v, below⟩ : Trie α).valueAt? ss = some a) ∨ (s :: ss, a) ∈ next.entries := by
      rw [entries, List.mem_append, List.mem_append]
      refine or_congr_left ?_
      cases ss with
      | nil =>
        have hbelow' : ([s], a) ∉ below.entries.map fun e => (n :: e.1, e.2) := by
          intro hm
          obtain ⟨e, he, heq⟩ := List.mem_map.mp hm
          exact ne_nil_of_mem_entries he (List.cons.inj (Prod.mk.inj heq).1).2
        have hvalue : (⟨v, below⟩ : Trie α).valueAt? [] = v := rfl
        rw [or_iff_left hbelow', hvalue]
        simp [and_comm]
      | cons s' ss =>
        have hhere : (s :: s' :: ss, a) ∉ v.toList.map fun a => ([n], a) := by simp
        rw [or_iff_right hhere, Trie.valueAt?_cons, ← ihb hbelow]
        simp [and_comm]
    rw [hmem, ihn hnext, follow?]
    -- A name stands at one step only, so what is behind that step is under other names.
    by_cases hn : n = s
    · subst hn
      rw [if_pos rfl, Option.bind_some, follow?_eq_none hfresh]
      simp
    · rw [if_neg hn]
      simp [hn]

/-- The keys of a step: its own, those below it with its name in front, and those of the steps behind it. -/
theorem keys_step (n : Segment) (v : Option α) (below next : Steps α) :
    (Steps.step n v below next).entries.map (·.1) =
      v.toList.map (fun _ => [n]) ++ (below.entries.map (·.1)).map (n :: ·) ++ next.entries.map (·.1) := by
  simp [entries, Function.comp_def]

/-- No list of segments has two entries. -/
theorem nodup_entries {steps : Steps α} (h : steps.Proper) : (steps.entries.map (·.1)).Nodup := by
  induction steps with
  | none => exact List.nodup_nil
  | step n v below next ihb ihn =>
    obtain ⟨-, hfresh, hbelow, hnext⟩ := h
    have hhere : (v.toList.map fun _ => [n]).Nodup := by cases v <;> simp
    rw [keys_step, List.nodup_append, List.nodup_append]
    refine ⟨⟨hhere, List.Nodup.map List.cons_injective (ihb hbelow), ?_⟩, ihn hnext, ?_⟩
    -- The step's own list is shorter than any below it.
    · rintro _ hp _ hq rfl
      obtain ⟨_, -, rfl⟩ := List.mem_map.mp hp
      obtain ⟨q, hq, heq⟩ := List.mem_map.mp hq
      obtain ⟨e, he, rfl⟩ := List.mem_map.mp hq
      exact ne_nil_of_mem_entries he (List.cons.inj heq).2
    · -- What stands here and below has the name of the step in front, which no later step has.
      have hnot : ∀ ss, n :: ss ∉ next.entries.map (·.1) := by
        intro ss hm
        obtain ⟨⟨p, a⟩, he, rfl⟩ := List.mem_map.mp hm
        rw [cons_mem_entries_iff hnext, follow?_eq_none hfresh] at he
        cases he
      rintro _ hp _ hq rfl
      rcases List.mem_append.mp hp with hp | hp
      · obtain ⟨_, -, rfl⟩ := List.mem_map.mp hp
        exact hnot [] hq
      · obtain ⟨p, -, rfl⟩ := List.mem_map.mp hp
        exact hnot p hq

end Steps

namespace Trie

/-! ## The values of a trie -/

/-- A visit tells the values of a trie one after the other. -/
theorem forEach_eq {t : Trie α} (h : t.steps.Proper) (f : String → α → σ → σ) (s : σ) :
    t.forEach f s = t.entries.foldl (fun s e => f (spell e.1) e.2 s) s := by
  have hroot : tell f "" t.value s =
      (t.value.toList.map fun a => ([], a)).foldl (fun s e => f (spell e.1) e.2 s) s := by
    cases t.value <;> rfl
  rw [forEach, Steps.walk_eq f h, hroot, entries, List.foldl_append]
  refine List.foldl_ext _ _ _ fun s e he => ?_
  rw [String.empty_append, spell_of_ne_nil (Steps.ne_nil_of_mem_entries he)]

/-- What is told are the entries, with their lists spelled as paths. -/
theorem visits_eq {t : Trie α} (h : t.steps.Proper) : t.visits = t.entries.map fun e => (spell e.1, e.2) := by
  rw [visits, forEach_eq h, List.foldl_flip_cons_eq_append, List.append_nil, List.reverse_reverse]

/-- The entries are the content of the trie. -/
theorem mem_entries_iff {t : Trie α} (h : t.steps.Proper) (p : List Segment) (a : α) :
    (p, a) ∈ t.entries ↔ t.valueAt? p = some a := by
  rw [entries, List.mem_append]
  cases p with
  | nil =>
    have hbelow : ([], a) ∉ t.steps.entries := fun he => Steps.ne_nil_of_mem_entries he rfl
    have hvalue : t.valueAt? [] = t.value := rfl
    rw [or_iff_left hbelow, hvalue]
    simp
  | cons s ss =>
    have hroot : (s :: ss, a) ∉ t.value.toList.map fun a => ([], a) := by simp
    rw [or_iff_right hroot, Steps.cons_mem_entries_iff h, valueAt?_cons]

/-- No list is entered twice, since the steps of a node have different names. -/
theorem nodup_entries {t : Trie α} (h : t.steps.Proper) : (t.entries.map (·.1)).Nodup := by
  rw [entries, List.map_append, List.nodup_append]
  refine ⟨by cases t.value <;> simp, Steps.nodup_entries h, ?_⟩
  -- Only the root stands under no segments.
  rintro _ hp _ hq rfl
  obtain ⟨e, he, rfl⟩ := List.mem_map.mp hp
  obtain ⟨_, -, rfl⟩ := List.mem_map.mp he
  obtain ⟨e', he', hnil⟩ := List.mem_map.mp hq
  exact Steps.ne_nil_of_mem_entries he' hnil

/-! ## Making a trie of what was told -/

namespace Update

/-- Of insertions of different paths, each one counts. -/
theorem stored_inserts_iff {es : List (String × α)} (h : (es.map fun e => segments e.1).Nodup) (p : List Segment)
    (a : α) : stored (es.map fun e => .insert e.1 e.2) p = some a ↔ ∃ e ∈ es, segments e.1 = p ∧ e.2 = a := by
  rw [stored_inserts]
  constructor
  · intro hlast
    obtain ⟨e, he, hea⟩ := Option.map_eq_some_iff.mp hlast
    obtain ⟨hmem, hpath⟩ := List.mem_filter.mp (List.mem_of_getLast? he)
    exact ⟨e, hmem, of_decide_eq_true hpath, hea⟩
  · rintro ⟨e, he, rfl, rfl⟩
    have hown : e ∈ es.filter fun e' => segments e'.1 = segments e.1 := List.mem_filter.mpr ⟨he, decide_eq_true rfl⟩
    cases hlast : (es.filter fun e' => segments e'.1 = segments e.1).getLast? with
    | none =>
      rw [List.getLast?_eq_none_iff] at hlast
      exact absurd hown (hlast ▸ List.not_mem_nil)
    | some e' =>
      -- The last one of the path is the only one.
      obtain ⟨he', hpath⟩ := List.mem_filter.mp (List.mem_of_getLast? hlast)
      have hsame : e' = e := List.inj_on_of_nodup_map h he' he (of_decide_eq_true hpath)
      rw [hsame, Option.map_some]

end Update

/-- A spelled path has the segments that it was spelled from. -/
theorem segments_of_mem_entries {us : List (Update α)} {e : List Segment × α} (h : e ∈ (ofUpdates us).entries) :
    segments (spell e.1) = e.1 := by
  have hheld := (mem_entries_iff (steps_proper_ofUpdates us) e.1 e.2).mp h
  rw [valueAt?_ofUpdates] at hheld
  have hinserted := (Update.isSome_stored_iff us e.1).mp (Option.isSome_of_eq_some hheld)
  obtain ⟨u, -, -, hpath⟩ := (Update.mem_inserted_iff us e.1).mp hinserted
  rw [← hpath]
  exact segments_spell fun s hs => segment_of_mem hs

/-- **What was told makes the same values again**, in whatever order it is stored. -/
theorem valueAt?_ofList_visits {us : List (Update α)} {es : List (String × α)} (h : es.Perm (ofUpdates us).visits)
    (p : List Segment) : (ofList es).valueAt? p = (ofUpdates us).valueAt? p := by
  have hproper := steps_proper_ofUpdates us
  have hpaths : (ofUpdates us).visits.map (fun e => segments e.1) = (ofUpdates us).entries.map (·.1) := by
    rw [visits_eq hproper, List.map_map]
    exact List.map_congr_left fun e he => segments_of_mem_entries he
  -- No two visits are of one list, so collecting them overwrites nothing, in whatever order.
  have hnodup : (es.map fun e => segments e.1).Nodup := by
    rw [(h.map fun e => segments e.1).nodup_iff, hpaths]
    exact nodup_entries hproper
  refine Option.ext fun a => ?_
  rw [← ofUpdates_inserts, valueAt?_ofUpdates, Update.stored_inserts_iff hnodup, ← mem_entries_iff hproper]
  simp only [h.mem_iff, visits_eq hproper, List.mem_map]
  constructor
  · rintro ⟨_, ⟨e, he, rfl⟩, rfl, rfl⟩
    rwa [segments_of_mem_entries he]
  · intro he
    exact ⟨_, ⟨(p, a), he, rfl⟩, segments_of_mem_entries he, rfl⟩

/-- **A visit tells the content of a trie.** After any updates there is one entry for each list of segments that holds
a value, and a visit tells the values of the entries, each under a slash and its segments with a slash between each
two; `count` is their number. What was told makes a trie again, in any order, in which every path has the same value,
every search finds and captures the same, the same paths lead to a node and as many nodes have no steps. -/
theorem visits_collected (us : List (Update α)) :
    ((ofUpdates us).entries.map (·.1)).Nodup ∧
    (∀ p a, (p, a) ∈ (ofUpdates us).entries ↔ Update.stored us p = some a) ∧
    (∀ (σ : Type) (f : String → α → σ → σ) (s : σ), (ofUpdates us).forEach f s =
      (ofUpdates us).entries.foldl (fun s e => f ("/" ++ "/".intercalate e.1) e.2 s) s) ∧
    (ofUpdates us).visits = (ofUpdates us).entries.map (fun e => ("/" ++ "/".intercalate e.1, e.2)) ∧
    (ofUpdates us).count = (ofUpdates us).visits.length ∧
    (∀ es : List (String × α), es.Perm (ofUpdates us).visits →
      (∀ path, (ofList es).get? path = (ofUpdates us).get? path) ∧
      (∀ path accept, (ofList es).find path accept = (ofUpdates us).find path accept) ∧
      (∀ path, (ofList es).contains path = (ofUpdates us).contains path) ∧
      (ofList es).size = (ofUpdates us).size) := by
  have hproper := steps_proper_ofUpdates us
  refine ⟨nodup_entries hproper, ?_, ?_, ?_, ?_, ?_⟩
  · intro p a
    rw [mem_entries_iff hproper, valueAt?_ofUpdates]
  · intro σ f s
    simp only [forEach_eq hproper, spell_eq_intercalate]
  · simp only [visits_eq hproper, spell_eq_intercalate]
  · rw [visits_eq hproper, List.length_map, count_eq_length_entries]
  · intro es hperm
    have hsame := valueAt?_ofList_visits hperm
    -- Both tries are sorted into one, and sorting keeps all that is asked for.
    have hsorted : (ofList es).sorted = (ofUpdates us).sorted := by
      refine sorted_eq_of_values ?_ hproper ?_ (needed_ofUpdates us) hsame
      · rw [← ofUpdates_inserts]
        exact steps_proper_ofUpdates _
      · rw [← ofUpdates_inserts]
        exact needed_ofUpdates _
    refine ⟨fun path => hsame _, fun path accept => ?_, fun path => ?_, ?_⟩
    · rw [← find_sorted, hsorted, find_sorted]
    · rw [contains, contains, ← reaches_sorted, hsorted, reaches_sorted]
    · rw [← size_sorted, hsorted, size_sorted]

/-- A path inside of others, the root and a wildcard are told, and stored again from the last to the first. -/
theorem visits_collected_backwards :
    List.Perm [("/a/*", 4), ("/a/b/c", 2), ("/a/b", 1), ("/", 3)]
      (ofUpdates [.insert "a//b" 1, .insert "/a/b/c/" 2, .insert "/" 3, .insert "/a/*" 4]).visits ∧
    ∀ path accept, (ofList [("/a/*", 4), ("/a/b/c", 2), ("/a/b", 1), ("/", 3)]).find path accept =
      (ofUpdates [.insert "a//b" 1, .insert "/a/b/c/" 2, .insert "/" 3, .insert "/a/*" 4]).find path accept := by
  have hvisits : (ofUpdates [.insert "a//b" 1, .insert "/a/b/c/" 2, .insert "/" 3, .insert "/a/*" 4]).visits =
      [("/", 3), ("/a/b", 1), ("/a/b/c", 2), ("/a/*", 4)] := by decide +kernel
  have hperm : List.Perm [("/a/*", 4), ("/a/b/c", 2), ("/a/b", 1), ("/", 3)]
      (ofUpdates [.insert "a//b" 1, .insert "/a/b/c/" 2, .insert "/" 3, .insert "/a/*" 4]).visits := by
    rw [hvisits]
    decide
  exact ⟨hperm, ((visits_collected _).2.2.2.2.2 _ hperm).2.1⟩

end Trie

end HttpService
