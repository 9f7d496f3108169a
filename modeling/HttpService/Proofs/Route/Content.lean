import HttpService.Route.Trie

/-!
# What a trie holds after a change

A trie is a map from lists of segments to values: `Trie.valueAt?` reads it, and `Trie.adjustAt` changes the
value under one list and no other (`valueAt?_adjustAt`), whatever steps had to be made on the way. The
wildcard is a segment like any other here.

* `follow?_adjust` — the node behind a step after a change below that step or beside it.
* `valueAt?_adjustAt` — the value under any list of segments after a change under one.
-/

namespace HttpService

variable {α : Type}

namespace Steps

/-- A path of new steps leads to what the same change makes of the empty trie. -/
theorem follow?_path (f : Option α → Option α) (s : Segment) (ss : List Segment) (n : Segment) :
    (path (f .none) s ss).follow? n =
      if n = s then some (Trie.empty.adjustAt f ss) else .none := by
  by_cases h : n = s
  · subst h
    cases ss with
    | nil => simp [path, follow?, Trie.adjustAt, Trie.empty]
    | cons s' ss' => simp [path, follow?, Trie.adjustAt, Trie.empty, adjust]
  · have hne : s ≠ n := fun e => h e.symm
    cases ss with
    | nil => simp [path, follow?, h, hne]
    | cons s' ss' => simp [path, follow?, h, hne]

/-- The node behind a step after a change: the step in front of the changed path leads to the changed node,
and every other step leads where it led before. -/
theorem follow?_adjust (f : Option α → Option α) (s : Segment) (ss : List Segment) (steps : Steps α)
    (n : Segment) :
    (steps.adjust f s ss).follow? n =
      if n = s then some (((steps.follow? s).getD Trie.empty).adjustAt f ss) else steps.follow? n := by
  induction steps with
  | none => simpa [adjust, follow?] using follow?_path f s ss n
  | step m v below next _ ih =>
    by_cases hm : m = s
    · subst hm
      by_cases hn : n = m
      · subst hn
        -- A change of the value here and one further below are two clauses of the change.
        cases ss <;> simp [adjust, follow?, Trie.adjustAt]
      · have hne : m ≠ n := fun e => hn e.symm
        cases ss <;> simp [adjust, follow?, hn, hne]
    · -- The step in front stays as it is, so only a step of its own name is found there.
      simp only [adjust, hm, if_false, follow?]
      by_cases hn : m = n
      · subst hn
        simp [hm]
      · simp only [hn, if_false]
        exact ih

end Steps

namespace Trie

/-- The content of a trie is that of the nodes behind its steps. -/
theorem valueAt?_cons (t : Trie α) (s : Segment) (ss : List Segment) :
    t.valueAt? (s :: ss) = (t.steps.follow? s).bind fun n => n.valueAt? ss := by
  unfold valueAt?
  rw [node?, Option.bind_assoc]

theorem valueAt?_of_follow {t n : Trie α} {s : Segment} (h : t.steps.follow? s = some n) (ss : List Segment) :
    t.valueAt? (s :: ss) = n.valueAt? ss := by
  rw [valueAt?_cons, h, Option.bind_some]

/-- A value under a list of segments stands behind the first of them. -/
theorem exists_follow_of_valueAt? {t : Trie α} {s : Segment} {ss : List Segment} {a : α}
    (h : t.valueAt? (s :: ss) = some a) : ∃ n, t.steps.follow? s = some n ∧ n.valueAt? ss = some a := by
  rw [valueAt?_cons] at h
  exact Option.bind_eq_some_iff.mp h

theorem valueAt?_empty (p : List Segment) : (empty : Trie α).valueAt? p = none := by
  cases p with
  | nil => rfl
  | cons s ss => rfl

/-- **A change reaches one list of segments.** The value under that list is what the change makes of the value
that was there, and every other list keeps its value. -/
theorem valueAt?_adjustAt (f : Option α → Option α) (p q : List Segment) (t : Trie α) :
    (t.adjustAt f p).valueAt? q = if q = p then f (t.valueAt? p) else t.valueAt? q := by
  induction p generalizing t q with
  | nil =>
    cases q with
    | nil => rfl
    | cons s ss =>
      -- The value of a node is no part of what stands behind its steps.
      rw [if_neg (List.cons_ne_nil s ss), valueAt?_cons, valueAt?_cons]
      rfl
  | cons s ss ih =>
    cases q with
    | nil =>
      rw [if_neg (List.cons_ne_nil s ss).symm]
      rfl
    | cons s' ss' =>
      rw [valueAt?_cons, valueAt?_cons, valueAt?_cons]
      simp only [adjustAt]
      rw [Steps.follow?_adjust]
      by_cases hs : s' = s
      · subst hs
        rw [if_pos rfl, Option.bind_some, ih]
        -- A missing node reads like an empty one.
        have hmissing : ∀ r, ((t.steps.follow? s').getD empty).valueAt? r =
            (t.steps.follow? s').bind fun n => n.valueAt? r := by
          intro r
          cases t.steps.follow? s' with
          | none => exact valueAt?_empty r
          | some n => rfl
        rw [hmissing, hmissing]
        by_cases hss : ss' = ss
        · subst hss
          rw [if_pos rfl, if_pos rfl]
        · have hne : s' :: ss' ≠ s' :: ss := fun e => hss (List.cons.inj e).2
          rw [if_neg hss, if_neg hne]
      · have hne : s' :: ss' ≠ s :: ss := fun e => hs (List.cons.inj e).1
        rw [if_neg hs, if_neg hne]

end Trie

end HttpService
