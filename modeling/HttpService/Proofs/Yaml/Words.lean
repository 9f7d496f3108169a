import HttpService.Yaml.Token.Lexer

/-!
# Bare words in a document

A word of letters, digits and underscores means itself wherever it stands: no character of it ends a line, indents,
starts a comment or is a mark of its own. `Bare` says that a text is such a word.

* `Yaml.of_isBare` — what a bare character is not.
* `Yaml.place_append` — where the characters behind a word stand.
* `Yaml.plainFrom_bare`, `Yaml.plainFrom_colon`, `Yaml.plainFrom_lineEnd` — a plain scalar goes on over a bare word, up
  to a colon or the end of its line.
* `Yaml.Lexer.token_bare` — what starts with a bare character is a plain scalar.
-/

namespace HttpService.Yaml

/-- A letter, a digit or an underscore. -/
def isBare (c : Char) : Bool := c.isAlphanum || c == '_'

/-- A word of such characters. -/
def Bare (cs : List Char) : Prop := cs ≠ [] ∧ ∀ c ∈ cs, isBare c = true

instance (cs : List Char) : Decidable (Bare cs) :=
  decidable_of_iff (cs ≠ [] ∧ cs.all isBare = true) (and_congr_right fun _ => List.all_eq_true)

theorem lt_of_isBare {c : Char} (h : isBare c = true) : c.toNat < 128 := by
  have hle : ∀ {a b : UInt32}, a ≤ b → a.toNat ≤ b.toNat := UInt32.le_iff_toNat_le.mp
  have hclass : (decide ('A'.val ≤ c.val ∧ c.val ≤ 'Z'.val) || decide ('a'.val ≤ c.val) && decide (c.val ≤ 'z'.val) ||
      decide ('0'.val ≤ c.val) && decide (c.val ≤ '9'.val) || c == '_') = true := h
  simp only [Bool.or_eq_true, Bool.and_eq_true, decide_eq_true_eq, beq_iff_eq] at hclass
  obtain ((⟨-, h⟩ | ⟨-, h⟩) | ⟨-, h⟩) | rfl := hclass
  · exact Nat.lt_of_le_of_lt (hle h) (by decide)
  · exact Nat.lt_of_le_of_lt (hle h) (by decide)
  · exact Nat.lt_of_le_of_lt (hle h) (by decide)
  · decide

/-- A bare character is no mark of any kind. -/
theorem of_isBare {c : Char} (h : isBare c = true) :
    isAllowed c = true ∧ isBreak c = false ∧ isBlank c = false ∧ c.utf8Size = 1 ∧ c ∉ indicators ∧
      c ∉ ['\r', '\u0085', '\uFEFF', '.'] := by
  -- There are few enough characters below 128 to look at each.
  have key : ∀ n ∈ List.range 128, isBare (Char.ofNat n) = true → isAllowed (Char.ofNat n) = true ∧
      isBreak (Char.ofNat n) = false ∧ isBlank (Char.ofNat n) = false ∧ (Char.ofNat n).utf8Size = 1 ∧
      Char.ofNat n ∉ indicators ∧ Char.ofNat n ∉ ['\r', '\u0085', '\uFEFF', '.'] := by decide +kernel
  have hc := key c.toNat (List.mem_range.mpr (lt_of_isBare h))
  rw [Char.ofNat_toNat] at hc
  exact hc h

theorem isBare_of_isDigit {c : Char} (h : c.isDigit = true) : isBare c = true := by
  rw [isBare, Char.isAlphanum, h, Bool.or_true, Bool.true_or]

/-- A bare character is none of those that would be read as a mark. -/
theorem ne_of_mem_indicators {c d : Char} (h : isBare c = true) (hd : d ∈ indicators) : c ≠ d := by
  rintro rfl
  exact (of_isBare h).2.2.2.2.1 hd

/-! ## Places -/

/-- The place `n` characters of one octet further in the line. -/
def Mark.right (m : Mark) (n : Nat) : Mark := ⟨m.line, m.column + n, m.octets + n⟩

theorem Mark.right_right (m : Mark) (n k : Nat) : (m.right n).right k = m.right (n + k) := by
  simp only [Mark.right, Nat.add_assoc]

/-- The characters that take one octet and end no line. -/
def isNarrow (c : Char) : Bool := !isBreak c && c.utf8Size == 1

/-- Bare characters are of one column each. -/
theorem isNarrow_of_isBare {c : Char} (h : isBare c = true) : isNarrow c = true := by
  obtain ⟨-, hbreak, -, hsize, -⟩ := of_isBare h
  rw [isNarrow, hbreak, hsize]
  rfl

theorem Mark.next_of_isNarrow {c : Char} (m : Mark) (h : isNarrow c = true) : m.next c = m.right 1 := by
  rw [isNarrow, Bool.and_eq_true, Bool.not_eq_true', beq_iff_eq] at h
  rw [Mark.next, if_neg (by rw [h.1]; decide), h.2, Mark.right]

/-- Texts one after the other are placed one after the other. -/
theorem place_append {cs : List Char} (m : Mark) (rest : List Char) (h : ∀ c ∈ cs, isNarrow c = true) :
    place m (cs ++ rest) = place m cs ++ place (m.right cs.length) rest := by
  induction cs generalizing m with
  | nil => rfl
  | cons c cs ih =>
    obtain ⟨hc, hcs⟩ := List.forall_mem_cons.mp h
    rw [List.cons_append, place, place, List.cons_append, ih (m.next c) hcs, m.next_of_isNarrow hc, m.right_right,
      List.length_cons, Nat.add_comm 1]

theorem length_place (m : Mark) (cs : List Char) : (place m cs).length = cs.length := by
  induction cs generalizing m with
  | nil => rfl
  | cons c cs ih => rw [place, List.length_cons, List.length_cons, ih]

/-! ## Plain scalars -/

/-- Part of a word that is read. -/
def Folded.word (text : List Char) : Folded := ⟨text, [], false, [], []⟩

/-- Three characters make a marker only if the first of them does. -/
theorem isMarker_of_ne {ch : Char} {c : Cell} (cs : List Cell) (h : c.char ≠ ch) : isMarker ch (c :: cs) = false := by
  unfold isMarker
  split
  next a b d rest heq =>
    obtain ⟨rfl, -⟩ := List.cons.inj heq
    rw [beq_false_of_ne h, Bool.and_false, Bool.false_and, Bool.false_and, Bool.false_and]
  next => rfl

/-- **A plain scalar goes on over a bare word.** -/
theorem plainFrom_bare {w : List Char} (hw : ∀ c ∈ w, isBare c = true) (floor : Nat) (text : List Char) (m : Mark)
    (rest : List Cell) :
    plainFrom false floor (.word text) (place m w ++ rest) =
      plainFrom false floor (.word (w.reverse ++ text)) rest := by
  induction w generalizing text m with
  | nil => rfl
  | cons c w ih =>
    obtain ⟨hc, hw⟩ := List.forall_mem_cons.mp hw
    obtain ⟨-, hbreak, hblank, -⟩ := of_isBare hc
    have hcolon : c ≠ ':' := ne_of_mem_indicators hc (by decide)
    -- Nothing is pending inside a word, so neither its column nor a mark can end the scalar.
    have hstep : plainFrom false floor (.word text) (⟨c, m⟩ :: (place (m.next c) w ++ rest)) =
        plainFrom false floor (.word (c :: text)) (place (m.next c) w ++ rest) := by
      rw [plainFrom, hblank, hbreak]
      simp [Folded.word, Folded.pending, Folded.push, Folded.joined, strayColon, endsPlain, hcolon]
    rw [place, List.cons_append, hstep, ih hw, List.reverse_cons, List.append_assoc, List.singleton_append]

/-- It ends at a colon behind which a word ends. -/
theorem plainFrom_colon (floor : Nat) (text : List Char) (m : Mark) {rest : List Cell} (h : endsWord rest = true) :
    plainFrom false floor (.word text) (⟨':', m⟩ :: rest) = some (.word text, ⟨':', m⟩ :: rest) := by
  rw [plainFrom]
  simp [Folded.word, Folded.pending, strayColon, endsPlain, h, isBlank, isBreak]

/-- What may follow the end of a line and its indentation: a bare character, or nothing at all. -/
def StartsBare (cs : List Char) : Prop := ∀ c ∈ cs.head?, isBare c = true

/-- **It ends with its line** if the next one starts further left than the floor. -/
theorem plainFrom_lineEnd (floor : Nat) (text : List Char) (m m' : Mark) (n : Nat) {rest : List Char}
    (hrest : StartsBare rest) (hfloor : rest ≠ [] → (m'.right n).column < floor) :
    plainFrom false floor (.word text) (⟨'\n', m⟩ :: place m' (List.replicate n ' ' ++ rest)) =
      some ((Folded.word text).lineEnd '\n', place (m'.right n) rest) := by
  -- The blanks in front of the next line are passed over one by one.
  have hindent : ∀ n m',
      plainFrom false floor ((Folded.word text).lineEnd '\n') (place m' (List.replicate n ' ' ++ rest)) =
        plainFrom false floor ((Folded.word text).lineEnd '\n') (place (m'.right n) rest) := by
    intro n
    induction n with
    | zero => exact fun _ => rfl
    | succ n ih =>
      intro m'
      rw [List.replicate_succ, List.cons_append, place, plainFrom]
      simp only [Mark.next_of_isNarrow m' (show isNarrow ' ' = true by decide)]
      rw [Nat.add_comm n 1, ← Mark.right_right, ← ih (m'.right 1)]
      rfl
  -- What stands there is further out than the scalar, which therefore ends.
  have hstop : plainFrom false floor ((Folded.word text).lineEnd '\n') (place (m'.right n) rest) =
      some ((Folded.word text).lineEnd '\n', place (m'.right n) rest) := by
    cases rest with
    | nil => rfl
    | cons c cs =>
      obtain ⟨-, hbreak, hblank, -⟩ := of_isBare (hrest c rfl)
      rw [place, plainFrom, hblank, hbreak]
      simp [Folded.word, Folded.lineEnd, Folded.pending, hfloor (List.cons_ne_nil _ _)]
  rw [plainFrom, ← hstop, ← hindent]
  rfl

namespace Lexer

/-! ## Blanks and indentation -/

/-- The blanks in front of a line are skipped, and the place counts them. -/
theorem skipSpace_indent (allowed : Bool) (m : Mark) (n : Nat) (rest : List Char) :
    skipSpace false false allowed (place m (List.replicate n ' ' ++ rest)) =
      skipSpace false false allowed (place (m.right n) rest) := by
  induction n generalizing m with
  | zero => rfl
  | succ n ih =>
    rw [List.replicate_succ, List.cons_append, place, skipSpace]
    simp only [Mark.next_of_isNarrow m (show isNarrow ' ' = true by decide)]
    rw [Nat.add_comm n 1, ← Mark.right_right, ← ih (m.right 1)]
    simp [isBreak, isOrderMark]

/-- Nothing is skipped in front of a bare character. -/
theorem skipSpace_of_isBare (allowed : Bool) {c : Cell} (cs : List Cell) (h : isBare c.char = true) :
    skipSpace false false allowed (c :: cs) = (allowed, c :: cs) := by
  obtain ⟨-, hbreak, hblank, -, -, hother⟩ := of_isBare h
  have hcomment : c.char ≠ '#' := ne_of_mem_indicators h (by decide)
  rw [isBlank, Bool.or_eq_false_iff, beq_eq_false_iff_ne, beq_eq_false_iff_ne] at hblank
  simp only [List.mem_cons, not_or] at hother
  rw [skipSpace, hbreak]
  simp [hcomment, isOrderMark, hother, hblank]

/-! ## Tokens -/

/-- **What starts with a bare character is a plain scalar.** -/
theorem token_bare {l : Lexer} {c : Cell} {cs : List Cell} (hl : l.rest = c :: cs) (h : isBare c.char = true) :
    l.token c cs = l.plain c.mark := by
  obtain ⟨-, hbreak, hblank, -, hind, hother⟩ := of_isBare h
  have hdash : isMarker '-' (c :: cs) = false := isMarker_of_ne cs (ne_of_mem_indicators h (by decide))
  have hdot : isMarker '.' (c :: cs) = false := isMarker_of_ne cs fun hc => hother (by simp [hc])
  have hstart : startsPlain l.inFlow c cs = true := by
    simp [startsPlain, hbreak, hblank, hind]
  have hquote : c.char.toNat ≠ 39 := by
    intro hc
    have hchar : c.char = Char.ofNat 39 := by rw [← hc, Char.ofNat_toNat]
    exact ne_of_mem_indicators h (by decide) hchar
  -- All other tokens start with an indicator or with a line of marks.
  simp only [indicators, List.mem_cons, not_or] at hind
  unfold token
  rw [hl, hdash, hdot, hstart]
  simp [hind, hquote]

end Lexer

end HttpService.Yaml
