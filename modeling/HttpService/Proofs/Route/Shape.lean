import Mathlib.Data.String.Basic
import HttpService.Proofs.Route.Updates

/-!
# The shape of a trie

Updates make a step only on the way to a value. So the steps of a trie that grew by updates say no more than the
values they lead to: which nodes there are can be read off the values, and steps in one order are determined by them.

* `needed_ofUpdates` — each step of such a trie is needed: it leads to a value, its own or one further below.
* `isSome_node?_iff` — a node stands under the beginnings of the lists that hold a value, and nowhere else.
* `Steps.eq_of_values` — among ascending steps, there is one tree for each content.
-/

namespace HttpService

variable {α : Type}

/-! ## Steps that are needed -/

namespace Steps

/-- Every node behind the steps has a value or further steps, here and below. -/
def Needed : Steps α → Prop
  | .none => True
  | .step _ v below next => (v.isSome ∨ below ≠ .none) ∧ below.Needed ∧ next.Needed

/-- New steps on the way to a value are all needed. -/
theorem Needed.path {v : Option α} (hv : v.isSome) (s : Segment) (ss : List Segment) : (path v s ss).Needed := by
  induction ss generalizing s with
  | nil => exact ⟨.inl hv, trivial, trivial⟩
  | cons s' ss ih =>
    have hbelow : Steps.path v s' ss ≠ .none := by cases ss <;> nofun
    exact ⟨.inr hbelow, ih s', trivial⟩

/-- A change leaves at least the step that it went along. -/
theorem adjust_ne_none (f : Option α → Option α) (s : Segment) (ss : List Segment) (steps : Steps α) :
    steps.adjust f s ss ≠ .none := by
  intro hnone
  have hnames := names_adjust f s ss steps
  rw [hnone] at hnames
  split at hnames
  next hmem =>
    rw [← hnames] at hmem
    exact List.not_mem_nil hmem
  next => exact List.append_ne_nil_of_right_ne_nil _ (List.cons_ne_nil s []) hnames.symm

/-- A change that leaves a value where it goes makes no step in vain. -/
theorem Needed.adjust {steps : Steps α} (h : steps.Needed) {f : Option α → Option α} {s : Segment}
    {ss : List Segment} (hf : (f ((steps.follow? s).bind (·.valueAt? ss))).isSome) :
    (steps.adjust f s ss).Needed := by
  induction steps generalizing s ss with
  | none => exact Needed.path hf s ss
  | step n v below next ihb ihn =>
    obtain ⟨hhere, hbelow, hnext⟩ := h
    -- A step on the way keeps something below it or at it, and for the others nothing changes.
    by_cases hn : n = s
    · rw [follow?, if_pos hn, Option.bind_some] at hf
      cases ss with
      | nil => simpa only [Steps.adjust, if_pos hn] using ⟨.inl hf, hbelow, hnext⟩
      | cons s' ss =>
        rw [Trie.valueAt?_cons] at hf
        have hbelow' := ihb hbelow hf
        simpa only [Steps.adjust, if_pos hn] using ⟨.inr (adjust_ne_none f s' ss below), hbelow', hnext⟩
    · rw [follow?, if_neg hn] at hf
      simpa only [Steps.adjust, if_neg hn] using ⟨hhere, hbelow, ihn hnext hf⟩

/-- The node behind a step that is needed has a value or steps of its own, which are needed too. -/
theorem Needed.of_follow {steps : Steps α} (h : steps.Needed) {s : Segment} {n : Trie α}
    (hn : steps.follow? s = some n) : (n.value.isSome ∨ n.steps ≠ .none) ∧ n.steps.Needed := by
  induction steps with
  | none => cases hn
  | step m v below next _ ih =>
    rw [follow?] at hn
    split at hn
    · obtain rfl := Option.some.inj hn
      exact ⟨h.1, h.2.1⟩
    · exact ih h.2.2 hn

theorem follow?_self (n : Segment) (v : Option α) (below next : Steps α) :
    (Steps.step n v below next).follow? n = some ⟨v, below⟩ := by
  rw [follow?, if_pos rfl]

theorem follow?_eq_none {steps : Steps α} {s : Segment} (h : s ∉ steps.names) : steps.follow? s = .none := by
  induction steps with
  | none => rfl
  | step n v below next _ ih =>
    rw [names, List.mem_cons, not_or] at h
    rw [follow?, if_neg (Ne.symm h.1), ih h.2]

end Steps

/-! ## Nodes and values -/

namespace Trie

/-- A node with a value or with steps that are needed leads to a value. -/
theorem exists_value {v : Option α} {steps : Steps α} (h : steps.Needed) (hn : v.isSome ∨ steps ≠ .none) :
    ∃ p, ((⟨v, steps⟩ : Trie α).valueAt? p).isSome := by
  induction steps generalizing v with
  | none => exact ⟨[], hn.resolve_right fun hne => hne rfl⟩
  | step m v' below next ih _ =>
    -- The first step is followed, whatever the node itself holds.
    obtain ⟨p, hp⟩ := ih h.2.1 h.1
    exact ⟨m :: p, by rwa [valueAt?_of_follow (Steps.follow?_self m v' below next)]⟩

/-- A walk may be cut anywhere. -/
theorem node?_append (t : Trie α) (p q : List Segment) : t.node? (p ++ q) = (t.node? p).bind (·.node? q) := by
  induction p generalizing t with
  | nil => rfl
  | cons s ss ih =>
    rw [List.cons_append, node?, node?, Option.bind_assoc]
    congr 1
    funext n
    exact ih n

/-- So a value is one of the node that a beginning leads to. -/
theorem valueAt?_append (t : Trie α) (p q : List Segment) :
    t.valueAt? (p ++ q) = (t.node? p).bind (·.valueAt? q) := by
  rw [valueAt?, node?_append, Option.bind_assoc]
  rfl

/-- Below any node, too, steps are needed. -/
theorem needed_of_node? {t n : Trie α} (h : t.steps.Needed) {p : List Segment} (hn : t.node? p = some n) :
    n.steps.Needed := by
  induction p generalizing t with
  | nil => rwa [← Option.some.inj hn]
  | cons s ss ih =>
    obtain ⟨m, hm, hn⟩ := Option.bind_eq_some_iff.mp hn
    exact ih (h.of_follow hm).2 hn

/-- A node other than the root has a value or steps. -/
theorem value_or_steps_of_node? {t n : Trie α} (h : t.steps.Needed) {p : List Segment} (hp : p ≠ [])
    (hn : t.node? p = some n) : n.value.isSome ∨ n.steps ≠ .none := by
  obtain ⟨front, s, rfl⟩ := List.eq_nil_or_concat p |>.resolve_left hp
  rw [List.concat_eq_append, node?_append] at hn
  obtain ⟨m, hm, hn⟩ := Option.bind_eq_some_iff.mp hn
  obtain ⟨m', hm', hn⟩ := Option.bind_eq_some_iff.mp hn
  obtain rfl := Option.some.inj hn
  exact ((needed_of_node? h hm).of_follow hm').1

/-- **Nodes stand under the beginnings of what is held.** Only the root is always there. -/
theorem isSome_node?_iff {t : Trie α} (h : t.steps.Needed) (p : List Segment) :
    (t.node? p).isSome ↔ p = [] ∨ ∃ q, (t.valueAt? (p ++ q)).isSome := by
  constructor
  · intro hsome
    obtain ⟨n, hn⟩ := Option.isSome_iff_exists.mp hsome
    by_cases hp : p = []
    · exact .inl hp
    · obtain ⟨q, hq⟩ := exists_value (needed_of_node? h hn) (value_or_steps_of_node? h hp hn)
      exact .inr ⟨q, by rwa [valueAt?_append, hn, Option.bind_some]⟩
  · rintro (rfl | ⟨q, hq⟩)
    · rfl
    · rw [valueAt?_append] at hq
      exact Option.isSome_of_isSome_bind hq

/-- Behind a node with steps there is a value further below. -/
theorem exists_value_behind {t n : Trie α} (h : t.steps.Needed) {p : List Segment} (hn : t.node? p = some n)
    (hsteps : n.steps ≠ .none) : ∃ s ss, (t.valueAt? (p ++ s :: ss)).isSome := by
  have hneeded := needed_of_node? h hn
  cases hs : n.steps with
  | none => exact absurd hs hsteps
  | step m v below next =>
    rw [hs] at hneeded
    obtain ⟨q, hq⟩ := exists_value hneeded.2.1 hneeded.1
    refine ⟨m, q, ?_⟩
    rw [valueAt?_append, hn, Option.bind_some, valueAt?_cons, hs, Steps.follow?_self]
    exact hq

/-! ## Tries that grew by updates -/

/-- A change that leaves a value keeps every step needed: those it went along lead to that value. -/
theorem needed_adjustAt {t : Trie α} (h : t.steps.Needed) {f : Option α → Option α} {p : List Segment}
    (hf : (f (t.valueAt? p)).isSome) : (t.adjustAt f p).steps.Needed := by
  cases p with
  | nil => exact h
  | cons s ss =>
    rw [valueAt?_cons] at hf
    exact h.adjust hf

/-- An update either leaves a value or goes along no new step. -/
theorem needed_perform {t : Trie α} (h : t.steps.Needed) (u : Update α) : (t.perform u).2.steps.Needed := by
  cases u with
  | insert q a =>
    rw [perform_insert]
    exact needed_adjustAt h rfl
  | ensure q default f =>
    rw [perform_ensure]
    exact needed_adjustAt h rfl
  | modify q f =>
    -- A value that is missing is not changed, and no step is made on the way to it.
    rw [perform_modify, modify]
    split
    next hsome => exact needed_adjustAt h (by simpa [get?] using hsome)
    next => exact h

/-- So after any updates, by induction on them. -/
theorem needed_ofUpdates (us : List (Update α)) : (ofUpdates us).steps.Needed := by
  induction us using List.reverseRecOn with
  | nil => exact trivial
  | append_singleton us u ih =>
    rw [ofUpdates_append_singleton]
    exact needed_perform ih u

end Trie

/-! ## Steps in order -/

namespace Steps

/-- The names ascend, here and below. -/
def Ascending : Steps α → Prop
  | .none => True
  | .step n _ below next => (∀ m ∈ next.names, n < m) ∧ below.Ascending ∧ next.Ascending

/-- Ascending steps have their names in order, and no name twice. -/
theorem Ascending.pairwise {steps : Steps α} (h : steps.Ascending) : steps.names.Pairwise (· < ·) := by
  induction steps with
  | none => exact List.Pairwise.nil
  | step n v below next _ ih => exact List.pairwise_cons.mpr ⟨h.1, ih h.2.2⟩

/-- Below each node they ascend, too. -/
theorem Ascending.of_mem_nodes {steps : Steps α} (h : steps.Ascending) {n : Trie α} (hn : n ∈ steps.nodes) :
    n.steps.Ascending := by
  induction steps with
  | none => exact absurd hn List.not_mem_nil
  | step m v below next _ ih =>
    rcases List.mem_cons.mp hn with rfl | hn
    · exact h.2.1
    · exact ih h.2.2 hn

/-- Needed steps that lead to no value are none at all. -/
theorem Needed.eq_none {steps : Steps α} (h : steps.Needed)
    (hnothing : ∀ s ss, (steps.follow? s).bind (·.valueAt? ss) = .none) : steps = .none := by
  cases steps with
  | none => rfl
  | step n v below next =>
    obtain ⟨p, hp⟩ := Trie.exists_value h.2.1 h.1
    have hheld := hnothing n p
    rw [follow?_self, Option.bind_some] at hheld
    rw [hheld] at hp
    cases hp

/-- The first name of steps is not smaller than that of ascending ones which hold the same under it. -/
theorem Ascending.not_lt_first {n n' : Segment} {v v' : Option α} {below below' next next' : Steps α}
    (h' : (Steps.step n' v' below' next').Ascending) (hn : (Steps.step n v below next).Needed)
    (hsame : ∀ p, (⟨v, below⟩ : Trie α).valueAt? p =
      ((Steps.step n' v' below' next').follow? n).bind (·.valueAt? p)) : ¬ n < n' := by
  intro hlt
  have hnot : n ∉ (Steps.step n' v' below' next').names := by
    intro hmem
    rcases List.mem_cons.mp hmem with rfl | hmem
    · exact lt_irrefl n hlt
    · exact lt_asymm hlt (h'.1 n hmem)
  obtain ⟨p, hp⟩ := Trie.exists_value hn.2.1 hn.1
  rw [hsame, follow?_eq_none hnot] at hp
  cases hp

/-- **Ascending steps are determined by what they hold.** The induction goes along the steps: every one leads to a
value, so the first names of both agree, and then so do the nodes behind them and the steps that follow. -/
theorem eq_of_values {steps steps' : Steps α} (h : steps.Ascending) (h' : steps'.Ascending) (hn : steps.Needed)
    (hn' : steps'.Needed)
    (hsame : ∀ s ss, (steps.follow? s).bind (·.valueAt? ss) = (steps'.follow? s).bind (·.valueAt? ss)) :
    steps = steps' := by
  induction steps generalizing steps' with
  | none => exact (hn'.eq_none fun s ss => (hsame s ss).symm).symm
  | step n v below next ihb ihn =>
    cases steps' with
    | none => exact hn.eq_none hsame
    | step n' v' below' next' =>
      -- Each first step leads to a value, so neither can come before the other.
      have hle : ¬ n < n' := h'.not_lt_first hn fun p => by rw [← hsame, follow?_self, Option.bind_some]
      have hge : ¬ n' < n := h.not_lt_first hn' fun p => by rw [hsame, follow?_self, Option.bind_some]
      obtain rfl : n = n' := le_antisymm (not_lt.mp hge) (not_lt.mp hle)
      -- What is below the two is told apart by nothing, the empty list included.
      have hnode : ∀ p, (⟨v, below⟩ : Trie α).valueAt? p = (⟨v', below'⟩ : Trie α).valueAt? p := by
        intro p
        have hheld := hsame n p
        rwa [follow?_self, follow?_self, Option.bind_some, Option.bind_some] at hheld
      have hvalue : v = v' := hnode []
      have hbelow : below = below' := by
        refine ihb h.2.1 h'.2.1 hn.2.1 hn'.2.1 fun s ss => ?_
        have hheld := hnode (s :: ss)
        rwa [Trie.valueAt?_cons, Trie.valueAt?_cons] at hheld
      have hnext : next = next' := by
        refine ihn h.2.2 h'.2.2 hn.2.2 hn'.2.2 fun s ss => ?_
        by_cases hs : n = s
        · -- The name that both begin with comes no second time.
          subst hs
          rw [follow?_eq_none fun hmem => lt_irrefl n (h.1 n hmem),
            follow?_eq_none fun hmem => lt_irrefl n (h'.1 n hmem)]
        · have hheld := hsame s ss
          rwa [follow?, if_neg hs, follow?, if_neg hs] at hheld
      rw [hvalue, hbelow, hnext]

end Steps

end HttpService
