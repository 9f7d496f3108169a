import HttpService.Text.Combining
import HttpService.Text.Composite

/-!
# Composed texts

A text may be spelled with composites or with what they stand for, and marks of different classes in any order.
`composed` is the one spelling with as few characters as there can be: composites are taken apart
(`decomposed`), marks are put in the order of their classes (`ordered`), and what can be composed is (`joined`).

Ordering loses nothing and adds nothing (`ordered_perm`), and no mark is left behind one of a higher class
(`inOrder_ordered`). Characters that stand for others but are never composed are left as they are.
-/

namespace HttpService.Text

/-! ## Taking apart -/

/-- More steps than it takes to take any composite apart. -/
def compositeDepth : Nat := 4

/-- The characters that a character stands for. -/
def decomposedFrom : Nat → Char → List Char
  | 0, c => [c]
  | steps + 1, c =>
    match compositeParts? c with
    | some (a, b) => decomposedFrom steps a ++ decomposedFrom steps b
    | none => [c]

/-- A text without composites. -/
def decomposed (cs : List Char) : List Char := cs.flatMap (decomposedFrom compositeDepth)

/-! ## Ordering marks -/

/-- Puts a character in front of marks in their order, behind those of a lower class. -/
def insertMark (c : Char) : List Char → List Char
  | [] => [c]
  | d :: ds =>
    if combiningClass d ≠ 0 && combiningClass d < combiningClass c then d :: insertMark c ds else c :: d :: ds

/-- A text with its marks in the order of their classes. Marks of one class stay as they are. -/
def ordered (cs : List Char) : List Char := cs.foldr insertMark []

/-- Ordering marks moves them about and drops none. -/
theorem insertMark_perm (c : Char) (ds : List Char) : (insertMark c ds).Perm (c :: ds) := by
  induction ds with
  | nil => exact .refl _
  | cons d ds ih =>
    simp only [insertMark]
    split
    next => exact (ih.cons d).trans (.swap c d ds)
    next => exact .refl _

/-- Ordering loses nothing and adds nothing. -/
theorem ordered_perm (cs : List Char) : (ordered cs).Perm cs := by
  induction cs with
  | nil => exact .refl _
  | cons c cs ih => exact (insertMark_perm c _).trans (ih.cons c)

/-- Whether no mark stands right behind one of a higher class. -/
def inOrder : List Char → Bool
  | c :: d :: ds => (combiningClass d == 0 || combiningClass c ≤ combiningClass d) && inOrder (d :: ds)
  | _ => true

/-- Putting a mark in its place keeps the others in order. -/
theorem inOrder_insertMark (c : Char) {ds : List Char} (h : inOrder ds = true) :
    inOrder (insertMark c ds) = true := by
  induction ds with
  | nil => rfl
  | cons d ds ih =>
    simp only [insertMark]
    split
    next lower =>
      -- The mark goes further on, so what comes behind `d` is the mark or what was there before.
      have behind : inOrder ds = true := by
        cases ds with
        | nil => rfl
        | cons e es => simp_all [inOrder]
      cases ds with
      | nil => simp_all [insertMark, inOrder]; omega
      | cons e es =>
        have ih := ih behind
        simp only [insertMark] at ih ⊢
        split
        next le => simp_all [inOrder]
        next nle => simp_all [inOrder]; omega
    next higher =>
      simp only [inOrder, h, Bool.and_true, Bool.or_eq_true, beq_iff_eq, decide_eq_true_eq]
      simp only [Bool.and_eq_true, decide_eq_true_eq, not_and, Nat.not_lt] at higher
      by_cases zero : combiningClass d = 0
      · exact .inl zero
      · exact .inr (higher (by simpa using zero))

/-- Every mark is in its place. -/
theorem inOrder_ordered (cs : List Char) : inOrder (ordered cs) = true := by
  induction cs with
  | nil => rfl
  | cons c cs ih => exact inOrder_insertMark c ih

/-! ## Putting together -/

/-- A text that is being composed. -/
structure Composing where
  /-- What is complete, backwards. -/
  done : List Char
  /-- The character that those behind it may be composed with. -/
  starter : Option Char
  /-- The marks behind it that it was not composed with, backwards. -/
  marks : List Char

namespace Composing

/-- The text so far. -/
def text (s : Composing) : List Char := s.done.reverse ++ s.starter.toList ++ s.marks.reverse

/-- Whether nothing parts a character from the starter: no mark of the character's class or a higher one. -/
def reaches (s : Composing) (c : Char) : Bool :=
  s.marks.head?.all fun m => combiningClass m < combiningClass c

/-- Adds a character. -/
def push (s : Composing) (c : Char) : Composing :=
  match if s.reaches c then s.starter.bind (compose? · c) else none with
  | some composite => { s with starter := some composite }
  | none =>
    if combiningClass c = 0 then ⟨s.marks ++ s.starter.toList ++ s.done, some c, []⟩
    else { s with marks := c :: s.marks }

end Composing

/-- A text with everything composed that can be. -/
def joined (cs : List Char) : List Char := (cs.foldl Composing.push ⟨[], none, []⟩).text

/-- The text in its composed spelling. -/
def composed (cs : List Char) : List Char := joined (ordered (decomposed cs))

end HttpService.Text
