import Mathlib.Data.List.Forall2
import HttpService.Proofs.Route.Content

/-!
# What a search in a trie finds

A pattern is a list of segments in which a wildcard stands for any one segment. The search walks the trie with
the literal step first and comes back to the wildcard when the literal way leads to nothing accepted; here it is
compared with the patterns alone, without the walk.

* `Matches`, `Precedes`, `captured` — what a pattern says of a path, and which of two patterns goes first.
* `search_eq_none_iff` — nothing is found exactly when no matching pattern holds an accepted value.
* `search_eq_some_iff` — what is found is the value of the first such pattern, and the segments reported are
  those under the pattern's wildcards: nothing is left over from ways that were given up.
-/

namespace HttpService

/-! ## Patterns -/

/-- A pattern matches the paths of its own length that have, at each place, its segment or any under a
wildcard. -/
def Matches (pattern path : List Segment) : Prop :=
  List.Forall₂ (fun s x => s = x ∨ s = wildcard) pattern path

/-- Of two patterns that differ first at a literal segment and a wildcard, the one with the literal segment
precedes the other. -/
def Precedes (p p' : List Segment) : Prop :=
  ∃ front s rest rest', s ≠ wildcard ∧ p = front ++ s :: rest ∧ p' = front ++ wildcard :: rest'

/-- The segments of a path at the places where a pattern has wildcards, in the order of the path. -/
def captured (pattern path : List Segment) : List Segment :=
  ((pattern.zip path).filter fun e => e.1 = wildcard).map (·.2)

/-- The empty path is matched by the empty pattern alone. -/
theorem matches_nil_iff {p : List Segment} : Matches p [] ↔ p = [] := List.forall₂_nil_right_iff

theorem matches_cons_iff {p : List Segment} {x : Segment} {q : List Segment} :
    Matches p (x :: q) ↔ ∃ s p', (s = x ∨ s = wildcard) ∧ Matches p' q ∧ p = s :: p' :=
  List.forall₂_cons_right_iff

theorem captured_cons_literal {s x : Segment} (hs : s ≠ wildcard) (p q : List Segment) :
    captured (s :: p) (x :: q) = captured p q := by
  simp [captured, hs]

theorem captured_cons_wildcard (x : Segment) (p q : List Segment) :
    captured (wildcard :: p) (x :: q) = x :: captured p q := by
  simp [captured]

/-- Which of two patterns goes first is decided behind what they share. -/
theorem precedes_cons {p p' : List Segment} (h : Precedes p p') (s : Segment) :
    Precedes (s :: p) (s :: p') := by
  obtain ⟨front, l, rest, rest', hl, rfl, rfl⟩ := h
  exact ⟨s :: front, l, rest, rest', hl, rfl, rfl⟩

/-- At their first difference, the literal segment goes before the wildcard. -/
theorem precedes_head {s : Segment} (hs : s ≠ wildcard) (p p' : List Segment) :
    Precedes (s :: p) (wildcard :: p') :=
  ⟨[], s, p, p', hs, rfl, rfl⟩

/-- No two patterns precede each other. -/
theorem not_precedes_of_precedes {p p' : List Segment} (h : Precedes p p') : ¬ Precedes p' p := by
  obtain ⟨front, s, rest, rest', hs, rfl, rfl⟩ := h
  rintro ⟨front', s', r, r', hs', h', h⟩
  -- Both pairs first differ at the same place, so a literal segment would have to be a wildcard.
  induction front generalizing front' with
  | nil =>
    cases front' with
    | nil => exact hs' (List.cons.inj h').1.symm
    | cons x xs =>
      have hx : wildcard = x := (List.cons.inj h').1
      have hx' : s = x := (List.cons.inj h).1
      exact hs (hx'.trans hx.symm)
  | cons y ys ih =>
    cases front' with
    | nil =>
      have hy : y = s' := (List.cons.inj h').1
      have hy' : y = wildcard := (List.cons.inj h).1
      exact hs' (hy.symm.trans hy')
    | cons x xs => exact ih xs (List.cons.inj h').2 (List.cons.inj h).2

namespace Trie

variable {α : Type}

/-! ## The search -/

/-- The pattern is the first, among those that match the path and hold an accepted value, and holds this
value. -/
structure IsFirst (accept : α → Bool) (t : Trie α) (q p : List Segment) (a : α) : Prop where
  «matches» : Matches p q
  holds : t.valueAt? p = some a
  accepted : accept a = true
  first : ∀ p' a', Matches p' q → t.valueAt? p' = some a' → accept a' = true → p' = p ∨ Precedes p p'

theorem search_nil (accept : α → Bool) (t : Trie α) :
    search accept [] t = (t.value.filter accept).map fun a => (a, []) := rfl

/-- The literal way, where there is one. -/
def literal (accept : α → Bool) (s : Segment) (ss : List Segment) (t : Trie α) : Option (α × List Segment) :=
  if s = wildcard then none else (t.steps.follow? s).bind (search accept ss)

/-- The search tries the literal step, and the wildcard if that came to nothing. -/
theorem search_cons (accept : α → Bool) (s : Segment) (ss : List Segment) (t : Trie α) :
    search accept (s :: ss) t =
      (literal accept s ss t).or
        ((t.steps.follow? wildcard).bind fun n => (search accept ss n).map fun f => (f.1, s :: f.2)) := by
  rw [search, ← literal]
  cases literal accept s ss t with
  | none => rfl
  | some found => rfl

/-- **A search fails only for want of a pattern.** -/
theorem search_eq_none_iff (accept : α → Bool) (q : List Segment) (t : Trie α) :
    search accept q t = none ↔
      ∀ p a, Matches p q → t.valueAt? p = some a → accept a = false := by
  induction q generalizing t with
  | nil =>
    simp only [search_nil, matches_nil_iff, Option.map_eq_none_iff, Option.filter_eq_none_iff]
    constructor
    · rintro h p a rfl hv
      simpa using h a hv
    · intro h a hv
      simpa using h [] a rfl hv
  | cons s ss ih =>
    -- A pattern for the path begins with its segment or with a wildcard, and both ways are searched.
    rw [search_cons, Option.or_eq_none_iff, literal]
    constructor
    · rintro ⟨hlit, hwild⟩ p a hm hv
      obtain ⟨x, p', hx, hm', rfl⟩ := matches_cons_iff.mp hm
      obtain ⟨n, hn, hbelow⟩ := exists_follow_of_valueAt? hv
      by_cases hxw : x = wildcard
      · subst hxw
        rw [hn, Option.bind_some, Option.map_eq_none_iff] at hwild
        exact (ih n).mp hwild p' a hm' hbelow
      · have hxs : x = s := hx.resolve_right hxw
        subst hxs
        rw [if_neg hxw, hn, Option.bind_some] at hlit
        exact (ih n).mp hlit p' a hm' hbelow
    · intro h
      refine ⟨?_, ?_⟩
      · split
        · rfl
        · rw [Option.bind_eq_none_iff]
          intro n hn
          rw [ih]
          intro p a hm hv
          exact h (s :: p) a (List.Forall₂.cons (Or.inl rfl) hm) ((valueAt?_of_follow hn p).trans hv)
      · rw [Option.bind_eq_none_iff]
        intro n hn
        rw [Option.map_eq_none_iff, ih]
        intro p a hm hv
        exact h (wildcard :: p) a (List.Forall₂.cons (Or.inr rfl) hm) ((valueAt?_of_follow hn p).trans hv)

/-- The literal way finds nothing where no pattern with a literal segment in front has an accepted value. -/
theorem literal_eq_none {accept : α → Bool} {s : Segment} {ss : List Segment} {t : Trie α}
    (h : literal accept s ss t = none) (hs : s ≠ wildcard) {p : List Segment} {a : α} (hm : Matches p ss)
    (hv : t.valueAt? (s :: p) = some a) : accept a = false := by
  rw [literal, if_neg hs] at h
  obtain ⟨n, hn, hbelow⟩ := exists_follow_of_valueAt? hv
  rw [hn, Option.bind_some] at h
  exact (search_eq_none_iff accept ss n).mp h p a hm hbelow

/-- The first pattern below a literal step is the first one with its segment in front, since a literal segment goes
before a wildcard. -/
theorem IsFirst.of_literal {accept : α → Bool} {s : Segment} {ss p : List Segment} {t n : Trie α} {a : α}
    (hs : s ≠ wildcard) (hn : t.steps.follow? s = some n) (hp : IsFirst accept n ss p a) :
    IsFirst accept t (s :: ss) (s :: p) a := by
  refine ⟨List.Forall₂.cons (Or.inl rfl) hp.matches, (valueAt?_of_follow hn p).trans hp.holds, hp.accepted, ?_⟩
  intro p' a' hm hv hacc
  obtain ⟨x, p'', hx, hm', rfl⟩ := matches_cons_iff.mp hm
  rcases hx with rfl | rfl
  · rw [valueAt?_of_follow hn] at hv
    rcases hp.first p'' a' hm' hv hacc with rfl | hpre
    · exact Or.inl rfl
    · exact Or.inr (precedes_cons hpre x)
  · exact Or.inr (precedes_head hs p p'')

/-- The first pattern below a wildcard is the first one with a wildcard in front, if no literal way leads on. -/
theorem IsFirst.of_wildcard {accept : α → Bool} {s : Segment} {ss p : List Segment} {t n : Trie α} {a : α}
    (hlit : literal accept s ss t = none) (hn : t.steps.follow? wildcard = some n) (hp : IsFirst accept n ss p a) :
    IsFirst accept t (s :: ss) (wildcard :: p) a := by
  refine ⟨List.Forall₂.cons (Or.inr rfl) hp.matches, (valueAt?_of_follow hn p).trans hp.holds, hp.accepted, ?_⟩
  intro p' a' hm hv hacc
  obtain ⟨x, p'', hx, hm', rfl⟩ := matches_cons_iff.mp hm
  by_cases hxw : x = wildcard
  · subst hxw
    rw [valueAt?_of_follow hn] at hv
    rcases hp.first p'' a' hm' hv hacc with rfl | hpre
    · exact Or.inl rfl
    · exact Or.inr (precedes_cons hpre wildcard)
  · have hxs : x = s := hx.resolve_right hxw
    subst hxs
    -- A literal segment in front would have been found the literal way.
    have hrej := literal_eq_none hlit hxw hm' hv
    rw [hacc] at hrej
    cases hrej

/-- **What a search finds is the first pattern's.** The induction follows the path: a literal step goes before
every pattern with a wildcard there, and a wildcard is taken only when no literal step leads on. -/
theorem exists_isFirst_of_search {accept : α → Bool} {q : List Segment} {t : Trie α} {a : α}
    {ws : List Segment} (h : search accept q t = some (a, ws)) :
    ∃ p, IsFirst accept t q p a ∧ ws = captured p q := by
  induction q generalizing t ws with
  | nil =>
    rw [search_nil, Option.map_eq_some_iff] at h
    obtain ⟨b, hb, heq⟩ := h
    obtain ⟨rfl, rfl⟩ := Prod.mk.inj heq
    obtain ⟨hv, hacc⟩ := Option.filter_eq_some_iff.mp hb
    exact ⟨[], ⟨List.Forall₂.nil, hv, hacc, fun p' _ hm _ _ => Or.inl (matches_nil_iff.mp hm)⟩, rfl⟩
  | cons s ss ih =>
    rw [search_cons, Option.or_eq_some_iff] at h
    rcases h with hlit | ⟨hlit, hwild⟩
    · -- The literal way leads on.
      have hs : s ≠ wildcard := by
        rintro rfl
        simp [literal] at hlit
      rw [literal, if_neg hs, Option.bind_eq_some_iff] at hlit
      obtain ⟨n, hn, hfound⟩ := hlit
      obtain ⟨p, hp, rfl⟩ := ih hfound
      exact ⟨s :: p, hp.of_literal hs hn, (captured_cons_literal hs p ss).symm⟩
    · -- Only the wildcard leads on.
      rw [Option.bind_eq_some_iff] at hwild
      obtain ⟨n, hn, hwild⟩ := hwild
      obtain ⟨⟨b, us⟩, hfound, heq⟩ := Option.map_eq_some_iff.mp hwild
      obtain ⟨rfl, rfl⟩ := Prod.mk.inj heq
      obtain ⟨p, hp, rfl⟩ := ih hfound
      exact ⟨wildcard :: p, hp.of_wildcard hlit hn, (captured_cons_wildcard s p ss).symm⟩

/-- There is one first pattern at most. -/
theorem IsFirst.unique {accept : α → Bool} {t : Trie α} {q p p' : List Segment} {a a' : α}
    (h : IsFirst accept t q p a) (h' : IsFirst accept t q p' a') : p = p' := by
  rcases h.first p' a' h'.matches h'.holds h'.accepted with rfl | hpp'
  · rfl
  · rcases h'.first p a h.matches h.holds h.accepted with rfl | hp'p
    · rfl
    · exact absurd hp'p (not_precedes_of_precedes hpp')

/-- **A search finds exactly the value of the first pattern**, with the segments under its wildcards. -/
theorem search_eq_some_iff (accept : α → Bool) (q : List Segment) (t : Trie α) (a : α) (ws : List Segment) :
    search accept q t = some (a, ws) ↔ ∃ p, IsFirst accept t q p a ∧ ws = captured p q := by
  constructor
  · exact exists_isFirst_of_search
  -- The search finds something, since a list that is accepted matches, and the first one is only one.
  · rintro ⟨p, hp, rfl⟩
    cases hsearch : search accept q t with
    | none =>
      have hrej := (search_eq_none_iff accept q t).mp hsearch p a hp.matches hp.holds
      rw [hp.accepted] at hrej
      cases hrej
    | some found =>
      obtain ⟨b, us⟩ := found
      obtain ⟨p', hp', rfl⟩ := exists_isFirst_of_search hsearch
      obtain rfl := hp.unique hp'
      have hab : a = b := Option.some.inj (hp.holds.symm.trans hp'.holds)
      rw [hab]

end Trie

end HttpService
