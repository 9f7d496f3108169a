/-!
# Cutting at a separator

`pieces sep` cuts a list at every `sep`, so that there is always one piece more than there are separators;
`join sep` puts the pieces together again (`join_pieces`, `pieces_join`).
-/

namespace HttpService

variable {α : Type} [DecidableEq α]

/-- The stretches between the separators: always at least one. -/
def pieces (sep : α) : List α → List (List α)
  | [] => [[]]
  | a :: as =>
    if a = sep then [] :: pieces sep as
    else match pieces sep as with
      | [] => [[a]]
      | p :: ps => (a :: p) :: ps

/-- The pieces with a separator between each two. -/
def join (sep : α) : List (List α) → List α
  | [] => []
  | [p] => p
  | p :: ps => p ++ sep :: join sep ps

theorem pieces_ne_nil (sep : α) (as : List α) : pieces sep as ≠ [] := by
  cases as with
  | nil => simp [pieces]
  | cons a as =>
    simp only [pieces]
    split
    · simp
    · split <;> simp

/-- Cutting loses nothing. -/
theorem join_pieces (sep : α) (as : List α) : join sep (pieces sep as) = as := by
  induction as with
  | nil => rfl
  | cons a as ih =>
    simp only [pieces]
    split
    next h =>
      cases e : pieces sep as with
      | nil => exact absurd e (pieces_ne_nil sep as)
      | cons p ps =>
        rw [e] at ih
        simp [join, ih, h]
    next =>
      -- The first piece of the rest takes the element in front.
      cases e : pieces sep as with
      | nil => exact absurd e (pieces_ne_nil sep as)
      | cons p ps =>
        rw [e] at ih
        cases ps with
        | nil => simp_all [join]
        | cons q ps => simp_all [join]

/-- A separator keeps the pieces on its two sides apart. -/
theorem pieces_append (sep : α) (as bs : List α) :
    pieces sep (as ++ sep :: bs) = pieces sep as ++ pieces sep bs := by
  induction as with
  | nil => simp [pieces]
  | cons a as ih =>
    by_cases h : a = sep
    · simp [pieces, h, ih]
    · simp only [List.cons_append, pieces, if_neg h, ih]
      cases hp : pieces sep as with
      | nil => exact absurd hp (pieces_ne_nil sep as)
      | cons p ps => rfl

/-- Without a separator there is one piece, which is everything. -/
theorem pieces_of_not_mem {sep : α} {as : List α} (h : sep ∉ as) : pieces sep as = [as] := by
  induction as with
  | nil => rfl
  | cons a as ih =>
    rw [List.mem_cons, not_or] at h
    have ha : a ≠ sep := fun e => h.1 e.symm
    simp [pieces, ha, ih h.2]

/-- Pieces that are put together are cut apart again. -/
theorem pieces_join {sep : α} {ps : List (List α)} (hne : ps ≠ []) (h : ∀ p ∈ ps, sep ∉ p) :
    pieces sep (join sep ps) = ps := by
  induction ps with
  | nil => exact absurd rfl hne
  | cons p ps ih =>
    have hp := pieces_of_not_mem (h p List.mem_cons_self)
    cases ps with
    | nil => exact hp
    | cons q ps =>
      have hrest := ih (List.cons_ne_nil q ps) fun r hr => h r (List.mem_cons_of_mem p hr)
      rw [join, pieces_append, hp, hrest]
      · rfl
      · exact List.cons_ne_nil q ps

/-- No piece holds a separator. -/
theorem not_mem_of_mem_pieces {sep : α} {as p : List α} (h : p ∈ pieces sep as) : sep ∉ p := by
  induction as generalizing p with
  | nil => simp_all [pieces]
  | cons a as ih =>
    -- A separator begins a new piece, and any other element joins the first.
    simp only [pieces] at h
    split at h
    next =>
      rcases List.mem_cons.mp h with rfl | h
      · simp
      · exact ih h
    next hne =>
      split at h
      next e => exact absurd e (pieces_ne_nil sep as)
      next q qs e =>
        rcases List.mem_cons.mp h with rfl | h
        · have := ih (p := q) (by rw [e]; simp)
          simp only [List.mem_cons, not_or]
          exact ⟨fun e => hne e.symm, this⟩
        · exact ih (by rw [e]; simp [h])

end HttpService
