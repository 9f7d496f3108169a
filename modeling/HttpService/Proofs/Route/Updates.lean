import Mathlib.Data.Finset.Dedup
import Mathlib.Data.List.Induction
import HttpService.Proofs.Route.Content
import HttpService.Route.Update

/-!
# A trie under updates is a map

A trie that grows by updates is compared here with the list of them alone: under a list of segments it holds
what the updates of that list leave (`Update.stored`). The walk of an update that makes the steps on its way is
the change `adjust` of the trie (`visit_snd`), so what is known of changes holds of updates.

* `proper_ofUpdates` — in whatever order paths overlap, the steps out of a node have different names, and none
  is empty.
* `perform_insert`, `perform_ensure`, `perform_modify` — what an update does, in the words of `get?`, `insert`,
  `insertNew` and `modify`.
* `Update.isSome_stored_iff` — a value is left under each list that was inserted, and under no other.
* `map_of_updates` — values, answers and other paths, after any run of updates.
-/

namespace HttpService

variable {α β : Type}

/-! ## Walks -/

namespace Steps

/-- Steps that are built as they are needed are those of a path. -/
theorem build_snd (use : Option α → β × Option α) (s : Segment) (ss : List Segment) :
    (build use s ss).2 = path (use .none).2 s ss := by
  induction ss generalizing s with
  | nil => rfl
  | cons s' ss ih => simp only [build, path, ih]

theorem build_fst (use : Option α → β × Option α) (s : Segment) (ss : List Segment) :
    (build use s ss).1 = (use .none).1 := by
  induction ss generalizing s with
  | nil => rfl
  | cons s' ss ih => simp only [build, ih]

/-- A visit changes the steps as `adjust` does. -/
theorem visit_snd (use : Option α → β × Option α) (s : Segment) (ss : List Segment) (steps : Steps α) :
    (steps.visit use s ss).2 = steps.adjust (fun v => (use v).2) s ss := by
  induction steps generalizing s ss with
  | none => exact build_snd use s ss
  | step n v below next ihb ihn =>
    by_cases hn : n = s
    · cases ss with
      | nil => simp only [visit, adjust, if_pos hn]
      | cons s' ss => simp only [visit, adjust, if_pos hn, ihb]
    · simp only [visit, adjust, if_neg hn, ihn]

/-- A visit uses the value of the node it goes to, which a missing node does not have. -/
theorem visit_fst (use : Option α → β × Option α) (s : Segment) (ss : List Segment) (steps : Steps α) :
    (steps.visit use s ss).1 = (use ((steps.follow? s).bind (·.valueAt? ss))).1 := by
  induction steps generalizing s ss with
  | none => exact build_fst use s ss
  | step n v below next ihb ihn =>
    by_cases hn : n = s
    · cases ss with
      | nil =>
        -- The value stands in the step itself.
        simp only [visit, follow?, if_pos hn, Option.bind_some]
        rfl
      | cons s' ss =>
        simp only [visit, follow?, if_pos hn, ihb, Option.bind_some]
        rw [Trie.valueAt?_cons]
    · simp only [visit, follow?, if_neg hn, ihn]

/-- Steps are reached if there is a value under their path, and then they change as `adjust` changes them. -/
theorem reach?_eq (f : α → α) (s : Segment) (ss : List Segment) (steps : Steps α) :
    steps.reach? f s ss =
      ((steps.follow? s).bind (·.valueAt? ss)).map fun a => (a, steps.adjust (·.map f) s ss) := by
  induction steps generalizing s ss with
  | none => rfl
  | step n v below next ihb ihn =>
    by_cases hn : n = s
    · cases ss with
      | nil =>
        -- The value stands in the step itself.
        have hhere : (⟨v, below⟩ : Trie α).valueAt? [] = v := rfl
        cases v with
        | none => simp only [reach?, follow?, if_pos hn, Option.bind_some, hhere, Option.map_none]
        | some a =>
          simp only [reach?, follow?, adjust, if_pos hn, Option.bind_some, hhere, Option.map_some]
      | cons s' ss =>
        simp only [reach?, follow?, adjust, if_pos hn, Option.bind_some, ihb, Option.map_map]
        rw [Trie.valueAt?_cons]
        rfl
    · simp only [reach?, follow?, adjust, if_neg hn, ihn, Option.map_map]
      rfl

end Steps

namespace Trie

/-- A walk that uses the value under a list answers by it and changes it, as two functions that go there separately
would. -/
theorem visitAt_eq (t : Trie α) (use : Option α → β × Option α) (p : List Segment) :
    t.visitAt use p = ((use (t.valueAt? p)).1, t.adjustAt (fun v => (use v).2) p) := by
  cases p with
  | nil => rfl
  | cons s ss =>
    have hfst := Steps.visit_fst use s ss t.steps
    have hsnd := Steps.visit_snd use s ss t.steps
    rw [valueAt?_cons, ← hfst, adjustAt, ← hsnd]
    rfl

/-- One that only goes along existing steps changes a value that is there, and nothing else. -/
theorem reachAt?_eq (t : Trie α) (f : α → α) (p : List Segment) :
    t.reachAt? f p = (t.valueAt? p).map fun a => (a, t.adjustAt (·.map f) p) := by
  cases p with
  | nil =>
    cases t with
    | mk v steps => cases v <;> rfl
  | cons s ss =>
    rw [reachAt?, Steps.reach?_eq, valueAt?_cons, Option.map_map]
    rfl

/-! ## Updates as changes -/

/-- Storing a value says which one gave way to it. -/
theorem perform_insert (t : Trie α) (path : String) (a : α) :
    t.perform (.insert path a) = (.previous (t.get? path), t.insert path a) := by
  simp only [perform, visitAt_eq]
  rfl

/-- Asking for a value gives it, or the default where there is none. -/
theorem perform_ensure (t : Trie α) (path : String) (default : α) (f : α → α) :
    t.perform (.ensure path default f) =
      (.given ((t.get? path).getD default) (t.get? path).isNone,
        t.adjustAt (fun v => some (f (v.getD default))) (segments path)) := by
  have hgive : ∀ v, giveOr default f v = ((v.getD default, v.isNone), some (f (v.getD default))) := by
    intro v
    cases v <;> rfl
  simp only [perform, visitAt_eq, hgive]
  rfl

/-- A change of a value says which one it reached, the one that `get?` finds. -/
theorem perform_modify (t : Trie α) (path : String) (f : α → α) :
    t.perform (.modify path f) = (.reached (t.get? path), t.modify path f) := by
  simp only [perform, reachAt?_eq]
  rw [modify, get?]
  cases t.valueAt? (segments path) with
  | none => rfl
  | some a => rfl

/-- What an update does to the value under a list of segments: its own list gets what it leaves there. -/
theorem valueAt?_perform (t : Trie α) (u : Update α) (p : List Segment) :
    (t.perform u).2.valueAt? p =
      if p = segments u.path then u.leaves (t.valueAt? p) else t.valueAt? p := by
  -- All three updates change the value of one list of segments.
  have hchange : ∀ f : Option α → Option α, (t.adjustAt f (segments u.path)).valueAt? p =
      if p = segments u.path then f (t.valueAt? p) else t.valueAt? p := by
    intro f
    rw [valueAt?_adjustAt]
    by_cases h : p = segments u.path
    · rw [if_pos h, if_pos h, h]
    · rw [if_neg h, if_neg h]
  cases u with
  | insert q a =>
    rw [perform_insert]
    exact hchange fun _ => some a
  | ensure q default f =>
    rw [perform_ensure]
    exact hchange fun v => some (f (v.getD default))
  | modify q f =>
    rw [perform_modify, modify]
    split
    · exact hchange (·.map f)
    next hnone =>
      have hq : t.valueAt? (segments q) = none := by simpa [get?] using hnone
      by_cases h : p = segments q
      · rw [Update.path, if_pos h, h, hq]
        rfl
      · rw [Update.path, if_neg h]

/-- An update changes what is under its own segments, and leaves what is under others. -/
theorem get?_perform (t : Trie α) (u : Update α) (path : String) :
    (t.perform u).2.get? path =
      if segments path = segments u.path then u.leaves (t.get? path) else t.get? path :=
  valueAt?_perform t u (segments path)

/-- It answers by what it finds there. -/
theorem perform_fst (t : Trie α) (u : Update α) : (t.perform u).1 = u.answer (t.get? u.path) := by
  cases u with
  | insert q a => rw [perform_insert]; rfl
  | ensure q default f => rw [perform_ensure]; rfl
  | modify q f => rw [perform_modify]; rfl

end Trie

/-! ## Names of steps -/

namespace Steps

/-- The names of the steps, in their order. -/
def names : Steps α → List Segment
  | .none => []
  | .step n _ _ next => n :: names next

/-- The nodes that the steps lead to, also one that `follow?` does not find behind another of its name. -/
def nodes : Steps α → List (Trie α)
  | .none => []
  | .step _ v below next => ⟨v, below⟩ :: nodes next

/-- Here and below, the steps have different names, and none is empty. -/
def Proper : Steps α → Prop
  | .none => True
  | .step n _ below next => n ≠ "" ∧ n ∉ next.names ∧ below.Proper ∧ next.Proper

/-- A change makes at most one step here, behind the others. -/
theorem names_adjust (f : Option α → Option α) (s : Segment) (ss : List Segment) (steps : Steps α) :
    (steps.adjust f s ss).names = if s ∈ steps.names then steps.names else steps.names ++ [s] := by
  induction steps with
  | none => cases ss <;> rfl
  | step n v below next _ ih =>
    -- The name is that of this step, or it is looked for behind it.
    by_cases hn : n = s
    · have hmem : s ∈ (Steps.step n v below next).names := by simp [names, hn]
      rw [if_pos hmem]
      cases ss <;> simp only [adjust, if_pos hn, names]
    · have hmem : s ∈ (Steps.step n v below next).names ↔ s ∈ next.names := by
        simp [names, Ne.symm hn]
      simp only [hmem]
      simp only [adjust, if_neg hn, names, ih]
      split <;> rfl

/-- New steps are named by segments, which are not empty. -/
theorem Proper.path (v : Option α) {s : Segment} {ss : List Segment} (hs : ∀ s' ∈ s :: ss, s' ≠ "") :
    (path v s ss).Proper := by
  induction ss generalizing s with
  | nil => exact ⟨hs s List.mem_cons_self, List.not_mem_nil, trivial, trivial⟩
  | cons s' ss ih =>
    have hbelow := ih fun s'' h => hs s'' (List.mem_cons_of_mem s h)
    exact ⟨hs s List.mem_cons_self, List.not_mem_nil, hbelow, trivial⟩

/-- A change under names that are not empty keeps the steps proper. -/
theorem Proper.adjust {steps : Steps α} (h : steps.Proper) (f : Option α → Option α) {s : Segment}
    {ss : List Segment} (hs : ∀ s' ∈ s :: ss, s' ≠ "") : (steps.adjust f s ss).Proper := by
  induction steps generalizing s ss with
  | none => exact Proper.path _ hs
  | step n v below next ihb ihn =>
    obtain ⟨hne, hfresh, hbelow, hnext⟩ := h
    -- By whether the step is on the way of the list.
    by_cases hn : n = s
    · cases ss with
      | nil => simpa only [Steps.adjust, if_pos hn] using ⟨hne, hfresh, hbelow, hnext⟩
      | cons s' ss =>
        have hbelow' := ihb hbelow fun s'' h => hs s'' (List.mem_cons_of_mem s h)
        simpa only [Steps.adjust, if_pos hn] using ⟨hne, hfresh, hbelow', hnext⟩
    · -- The linear search went past this step, so a step that is made behind it has another name.
      have hfresh' : n ∉ (next.adjust f s ss).names := by
        rw [names_adjust]
        split
        · exact hfresh
        · simp [hfresh, hn]
      simpa only [Steps.adjust, if_neg hn] using ⟨hne, hfresh', hbelow, ihn hnext hs⟩

/-- Names that are proper are different. -/
theorem Proper.nodup {steps : Steps α} (h : steps.Proper) : steps.names.Nodup := by
  induction steps with
  | none => exact List.nodup_nil
  | step n v below next _ ihn => exact List.nodup_cons.mpr ⟨h.2.1, ihn h.2.2.2⟩

/-- None of them is empty. -/
theorem Proper.named {steps : Steps α} (h : steps.Proper) : "" ∉ steps.names := by
  induction steps with
  | none => exact List.not_mem_nil
  | step n v below next _ ihn =>
    intro hmem
    rcases List.mem_cons.mp hmem with hn | hmem
    · exact h.1 hn.symm
    · exact ihn h.2.2.2 hmem

/-- So it is at every node below. -/
theorem Proper.of_mem_nodes {steps : Steps α} (h : steps.Proper) {n : Trie α} (hn : n ∈ steps.nodes) :
    n.steps.Proper := by
  induction steps with
  | none => exact absurd hn List.not_mem_nil
  | step m v below next _ ihn =>
    rcases List.mem_cons.mp hn with rfl | hn
    · exact h.2.2.1
    · exact ihn h.2.2.2 hn

end Steps

namespace Trie

/-- The nodes of a trie: its root and what the steps out of a node lead to. -/
inductive IsNode (t : Trie α) : Trie α → Prop
  | root : IsNode t t
  | behind {n n' : Trie α} (h : IsNode t n) (h' : n' ∈ n.steps.nodes) : IsNode t n'

/-- At every node the steps have different names, and none is empty. -/
structure Proper (t : Trie α) : Prop where
  distinct : ∀ n, t.IsNode n → n.steps.names.Nodup
  named : ∀ n, t.IsNode n → "" ∉ n.steps.names

/-- What the steps of the root say of all below, a trie says of all its nodes. -/
theorem Proper.of_steps {t : Trie α} (h : t.steps.Proper) : t.Proper := by
  have hnodes : ∀ n, t.IsNode n → n.steps.Proper := by
    intro n hn
    induction hn with
    | root => exact h
    | behind _ hmem ih => exact ih.of_mem_nodes hmem
  exact ⟨fun n hn => (hnodes n hn).nodup, fun n hn => (hnodes n hn).named⟩

/-- A change makes a step only where none of that name is. -/
theorem steps_proper_adjustAt {t : Trie α} (h : t.steps.Proper) (f : Option α → Option α) (path : String) :
    (t.adjustAt f (segments path)).steps.Proper := by
  have hne : ∀ s ∈ segments path, s ≠ "" := fun s hs => (segment_of_mem hs).1
  cases hp : segments path with
  | nil => exact h
  | cons s ss =>
    rw [hp] at hne
    exact h.adjust f hne

/-- So does an update, whichever it is. -/
theorem steps_proper_perform {t : Trie α} (h : t.steps.Proper) (u : Update α) :
    (t.perform u).2.steps.Proper := by
  cases u with
  | insert q a =>
    rw [perform_insert]
    exact steps_proper_adjustAt h _ q
  | ensure q default f =>
    rw [perform_ensure]
    exact steps_proper_adjustAt h _ q
  | modify q f =>
    rw [perform_modify, modify]
    split
    · exact steps_proper_adjustAt h _ q
    · exact h

/-! ## Runs of updates -/

theorem ofUpdates_append_singleton (us : List (Update α)) (u : Update α) :
    ofUpdates (us ++ [u]) = ((ofUpdates us).perform u).2 := by
  rw [ofUpdates, List.foldl_append]
  rfl

/-- Names are kept apart along any updates, by induction on them. -/
theorem steps_proper_ofUpdates (us : List (Update α)) : (ofUpdates us).steps.Proper := by
  -- The last update works on the trie of the others, so the induction takes updates off at the end.
  induction us using List.reverseRecOn with
  | nil => exact trivial
  | append_singleton us u ih =>
    rw [ofUpdates_append_singleton]
    exact steps_proper_perform ih u

/-- So at every node of a trie that grew by updates. -/
theorem proper_ofUpdates (us : List (Update α)) : (ofUpdates us).Proper :=
  Proper.of_steps (steps_proper_ofUpdates us)

namespace Update

/-- What is stored after some updates is what the last one leaves of it. -/
theorem stored_append_singleton (us : List (Update α)) (u : Update α) (p : List Segment) :
    stored (us ++ [u]) p = if p = segments u.path then u.leaves (stored us p) else stored us p := by
  rw [stored, List.filter_append]
  by_cases h : segments u.path = p
  · have hown : [u].filter (fun u => segments u.path = p) = [u] := by simp [h]
    rw [hown, List.foldl_append, if_pos h.symm]
    rfl
  · have hother : [u].filter (fun u => segments u.path = p) = [] := by simp [h]
    rw [hother, List.append_nil, if_neg (Ne.symm h)]
    rfl

/-- Of insertions alone, the last one of a path counts. -/
theorem stored_inserts (es : List (String × α)) (p : List Segment) :
    stored (es.map fun e => .insert e.1 e.2) p =
      (es.filter fun e => segments e.1 = p).getLast?.map (·.2) := by
  induction es using List.reverseRecOn with
  | nil => rfl
  | append_singleton es e ih =>
    rw [List.map_append, List.map_singleton, stored_append_singleton, ih, List.filter_append]
    by_cases h : segments e.1 = p
    · rw [Update.path, if_pos h.symm]
      simp [h, leaves]
    · rw [Update.path, if_neg (Ne.symm h)]
      simp [h]

/-- Whether the update makes the steps to its path. -/
def inserts : Update α → Bool
  | .insert _ _ | .ensure _ _ _ => true
  | .modify _ _ => false

/-- The lists of segments that some updates insert. -/
def inserted (us : List (Update α)) : Finset (List Segment) :=
  ((us.filter inserts).map fun u => segments u.path).toFinset

/-- A list is inserted by an update whose path has these segments. -/
theorem mem_inserted_iff (us : List (Update α)) (p : List Segment) :
    p ∈ inserted us ↔ ∃ u ∈ us, u.inserts = true ∧ segments u.path = p := by
  simp [inserted, and_assoc]

/-- An update leaves a value where it inserts one or finds one. -/
theorem isSome_leaves (u : Update α) (v : Option α) : (u.leaves v).isSome ↔ u.inserts = true ∨ v.isSome := by
  cases u <;> simp [leaves, inserts]

/-- A value is left under the lists that were inserted. -/
theorem isSome_stored_iff (us : List (Update α)) (p : List Segment) :
    (stored us p).isSome ↔ p ∈ inserted us := by
  rw [mem_inserted_iff]
  induction us using List.reverseRecOn with
  | nil => exact iff_of_false nofun (by simp)
  | append_singleton us u ih =>
    rw [stored_append_singleton]
    -- The last update works on its own list alone, and takes no value away.
    by_cases hp : p = segments u.path
    · rw [if_pos hp, isSome_leaves, ih]
      simp [hp, or_and_right, exists_or, or_comm]
    · rw [if_neg hp, ih]
      simp [Ne.symm hp, or_and_right, exists_or]

end Update

/-- A trie that updates made holds under each list of segments what they leave there. -/
theorem valueAt?_ofUpdates (us : List (Update α)) (p : List Segment) :
    (ofUpdates us).valueAt? p = Update.stored us p := by
  induction us using List.reverseRecOn with
  | nil => exact valueAt?_empty p
  | append_singleton us u ih =>
    rw [ofUpdates_append_singleton, valueAt?_perform, Update.stored_append_singleton, ih]

/-- What a trie answers under a path is what its updates have stored under the segments. -/
theorem get?_ofUpdates (us : List (Update α)) (path : String) :
    (ofUpdates us).get? path = Update.stored us (segments path) :=
  valueAt?_ofUpdates us (segments path)

/-- The trie of a list of paths with values is made by storing them one after the other. -/
theorem ofUpdates_inserts (es : List (String × α)) :
    ofUpdates (es.map fun e => .insert e.1 e.2) = ofList es := by
  induction es using List.reverseRecOn with
  | nil => rfl
  | append_singleton es e ih =>
    rw [List.map_append, List.map_singleton, ofUpdates_append_singleton, ih, perform_insert]
    simp only [ofList, List.foldl_append, List.foldl_cons, List.foldl_nil]

/-! ## The map -/

/-- **A trie is a map from lists of segments to values.** After any updates of the empty trie no node has two
steps of one name or a step without a name, and each path holds what the updates of its segments left there.
The next update says what was held under its path: the value that a stored one took the place of, the value
asked for, with the default in the place of a missing one alone, or the value that was changed. It changes no
path of other segments; slashes in front, behind or doubled make no other path. -/
theorem map_of_updates (us : List (Update α)) :
    (ofUpdates us).Proper ∧
    (∀ path, (ofUpdates us).get? path = Update.stored us (segments path)) ∧
    (∀ u : Update α, ((ofUpdates us).perform u).1 = u.answer (Update.stored us (segments u.path))) ∧
    (∀ (u : Update α) (path : String), segments path ≠ segments u.path →
      ((ofUpdates us).perform u).2.get? path = (ofUpdates us).get? path) ∧
    (∀ p q : String, (ofUpdates us).get? (p ++ "//" ++ q) = (ofUpdates us).get? (p ++ "/" ++ q) ∧
      (ofUpdates us).get? ("/" ++ p) = (ofUpdates us).get? p ∧
      (ofUpdates us).get? (p ++ "/") = (ofUpdates us).get? p) := by
  refine ⟨proper_ofUpdates us, get?_ofUpdates us, ?_, ?_, ?_⟩
  · intro u
    rw [perform_fst, get?_ofUpdates]
  · intro u path hother
    rw [get?_perform, if_neg hother]
  · intro p q
    refine ⟨?_, ?_, ?_⟩
    · rw [get?, segments_doubled, get?]
    · rw [get?, segments_slash, get?]
    · rw [get?, segments_append_slash, get?]

/-- The wildcard is a path's own segment here, and stands for no other. -/
example : (ofUpdates [.insert "/a/*" 1, .insert "/a/b" 2, .ensure "a//*/" 3 (· + 4)]).get? "/a/*" = some 5 := by
  decide +kernel

end Trie

end HttpService
