import HttpService.Wire.Consumed

/-!
# Scanning what has arrived so far

A head is scanned again from its first octet after every read. That this makes no difference rests on two
properties of its scanners.

* `Scan.Steady` — what a scanner leaves is a suffix, an end once reached stays, and the end depends on the octets
  used and at most the one behind them. Scanners in sequence keep this (`steady_andThen`).
* `Scan.Complete` — the scanner also uses the octet that decides its end, so nothing behind that matters
  (`Scan.Closed`). A head ends with a line end, so it is complete (`complete_requestHead`,
  `complete_responseHead`): a head that is not all there yet cannot be mistaken for one that is.

Chunk sizes are stable for the same reason (`stable_chunkSize`).
-/

namespace HttpService

namespace Scan

variable {α β : Type}

/-! ## Closed scanners -/

/-- What the scanner reads depends on nothing behind the octets it uses. -/
def Closed (s : Scan α) : Prop :=
  ∀ used rest more a, s (used ++ rest) = .done a rest → s (used ++ more) = .done a more

/-- A scanner that reads nothing depends on nothing. -/
theorem closed_result (a : α) : Closed (result a) := by
  intro used rest more b h
  obtain ⟨rfl, hrest⟩ := Scanned.done.inj h
  obtain rfl := List.append_left_eq_self.mp hrest
  rfl

/-- A scanner that never ends well has nothing to depend on. -/
theorem closed_fail (fault : MessageFault) : Closed (fail fault : Scan α) := by
  intro used rest more a h
  cases h

/-- `next` sees one octet and uses it. -/
theorem closed_next : Closed next := by
  intro used rest more b h
  cases used with
  | nil =>
    have hlen := shortens_next _ _ _ h
    simp at hlen
  | cons c cs =>
    obtain ⟨rfl, hrest⟩ := Scanned.done.inj h
    obtain rfl := List.append_left_eq_self.mp hrest
    rfl

theorem closed_expect (b : UInt8) (fault : MessageFault) : Closed (expect b fault) := by
  intro used rest more u h
  -- A scanner that is done has used the octet that it expected.
  cases used with
  | nil =>
    cases rest with
    | nil => cases h
    | cons c cs =>
      simp only [List.nil_append, expect] at h
      split at h
      · have hlen := congrArg List.length (Scanned.done.inj h).2
        simp at hlen
      · cases h
  | cons c cs =>
    simp only [List.cons_append, expect] at h ⊢
    split at h
    next hc =>
      obtain rfl := List.append_left_eq_self.mp (Scanned.done.inj h).2
      rw [if_pos hc]
      rfl
    next => cases h

/-! ## Steady scanners -/

/-- Stability, where the scanner was done. -/
theorem Stable.of_done {s : Scan α} (hs : Stable s) {bs rest : Octets} {a : α} (h : s bs = .done a rest)
    (more : Octets) : s (bs ++ more) = .done a (rest ++ more) := by
  have hmore := hs bs more
  rwa [h] at hmore

/-- Stability, where the scanner refused: what follows a refusal cannot mend it. -/
theorem Stable.of_failed {s : Scan α} (hs : Stable s) {bs : Octets} {fault : MessageFault}
    (h : s bs = .failed fault) (more : Octets) : s (bs ++ more) = .failed fault := by
  have hmore := hs bs more
  rwa [h] at hmore

/-- What the scanner reads depends on the octets it uses and on the first one behind them. -/
def Local (s : Scan α) : Prop :=
  ∀ used rest more a, s (used ++ rest) = .done a rest → more.head? = rest.head? →
    s (used ++ more) = .done a more

/-- The scanner may be run again from the start when more has arrived. -/
structure Steady (s : Scan α) : Prop where
  suffix : Suffix s
  stable : Stable s
  isLocal : Local s

/-- A scanner that does not look behind the octets it uses does not look at the first of them either. -/
theorem Closed.isLocal {s : Scan α} (hs : Closed s) : Local s :=
  fun used rest more a h _ => hs used rest more a h

theorem steady_result (a : α) : Steady (result a) :=
  ⟨suffix_result a, stable_result a, (closed_result a).isLocal⟩

theorem steady_fail (fault : MessageFault) : Steady (fail fault : Scan α) :=
  ⟨suffix_fail fault, stable_fail fault, (closed_fail fault).isLocal⟩

/-- Reading one octet may be started again. -/
theorem steady_next : Steady next := ⟨suffix_next, stable_next, closed_next.isLocal⟩

theorem steady_expect (b : UInt8) (fault : MessageFault) : Steady (expect b fault) :=
  ⟨suffix_expect b fault, stable_expect b fault, (closed_expect b fault).isLocal⟩

/-- A run that ends before an octet outside its class. -/
theorem run_append {p : UInt8 → Bool} {w : Octets} (hw : w.all p = true) {b : UInt8} (hb : p b = false)
    (rest : Octets) : run p (w ++ b :: rest) = .done w (b :: rest) := by
  have hall : ∀ c ∈ w, p c = true := List.all_eq_true.mp hw
  have hnot : ¬ p b = true := by simp [hb]
  unfold run
  rw [List.dropWhile_append_of_pos hall, List.dropWhile_cons_of_neg hnot,
    List.takeWhile_append_of_pos hall, List.takeWhile_cons_of_neg hnot, List.append_nil]

/-- A run looks at one octet behind those it uses, the one that ends it. This is why `Local` speaks of that octet and
`Closed` is too much to ask. -/
theorem local_run (p : UInt8 → Bool) : Local (run p) := by
  intro used rest more w h hmore
  unfold run at h
  split at h
  · cases h
  next b tail e =>
    obtain ⟨rfl, rfl⟩ := Scanned.done.inj h
    -- The octets used are those of the class, and the one behind them is not.
    have hsplit := List.takeWhile_append_dropWhile (p := p) (l := used ++ b :: tail)
    rw [e] at hsplit
    have hused : (used ++ b :: tail).takeWhile p = used := List.append_cancel_right hsplit
    have hall : used.all p = true := by
      rw [← hused]
      exact List.all_takeWhile
    have hnot := List.head?_dropWhile_not p (used ++ b :: tail)
    rw [e] at hnot
    cases more with
    | nil => cases hmore
    | cons c cs =>
      obtain rfl : c = b := Option.some.inj hmore
      rw [run_append hall (by simpa using hnot), hused]

/-- A run may be started again when more has arrived. -/
theorem steady_run (p : UInt8 → Bool) : Steady (run p) := ⟨suffix_run p, stable_run p, local_run p⟩

/-- Two scanners in sequence part the octets that they use together. -/
theorem exists_split_of_andThen {s : Scan α} {f : α → Scan β} (hs : Suffix s) (hf : ∀ a, Suffix (f a))
    {used rest : Octets} {b : β} (h : andThen s f (used ++ rest) = .done b rest) :
    ∃ a first second, used = first ++ second ∧
      s (first ++ (second ++ rest)) = .done a (second ++ rest) ∧ f a (second ++ rest) = .done b rest := by
  unfold andThen at h
  split at h
  next a mid e =>
    obtain ⟨second, rfl⟩ := hf a mid b rest h
    -- What the first leaves ends with what the second leaves, so the octets used part in two.
    obtain ⟨first, hfirst⟩ := hs _ _ _ e
    rw [← List.append_assoc] at hfirst
    obtain rfl := List.append_cancel_right hfirst
    rw [List.append_assoc] at e
    exact ⟨a, first, second, rfl, e, h⟩
  · cases h
  · cases h

/-- Once the first scanner is done, the second one has the word. -/
theorem andThen_of_done {s : Scan α} {f : α → Scan β} {bs mid : Octets} {a : α} (h : s bs = .done a mid) :
    andThen s f bs = f a mid := by
  unfold andThen
  rw [h]

/-- Scanners in sequence may be started again if each of them may. The octet that the first one looks at is the first
that the second one uses, or else the one behind both. -/
theorem steady_andThen {s : Scan α} {f : α → Scan β} (hs : Steady s) (hf : ∀ a, Steady (f a)) :
    Steady (andThen s f) := by
  refine ⟨suffix_andThen hs.suffix fun a => (hf a).suffix,
    stable_andThen hs.stable fun a => (hf a).stable, ?_⟩
  intro used rest more b h hmore
  obtain ⟨a, first, second, rfl, hfirst, hsecond⟩ :=
    exists_split_of_andThen hs.suffix (fun a => (hf a).suffix) h
  -- Behind what the first one uses stands what the second uses, or else what is behind both.
  have hhead : (second ++ more).head? = (second ++ rest).head? := by
    cases second with
    | nil => exact hmore
    | cons c cs => rfl
  rw [List.append_assoc, andThen_of_done (hs.isLocal _ _ (second ++ more) a hfirst hhead)]
  exact (hf a).isLocal second rest more b hsecond hmore

/-- A test that does not look at the octets makes no difference. -/
theorem steady_ite {c : Prop} [Decidable c] {s t : Scan α} (hs : Steady s) (ht : Steady t) :
    Steady (if c then s else t) := by
  split
  · exact hs
  · exact ht

/-- A line end may be started again, although a lone CR leaves open which end it will be. -/
theorem steady_lineEnd (bare other : MessageFault) : Steady (lineEnd bare other) :=
  steady_andThen steady_next fun _ =>
    steady_ite (steady_expect 10 bare) (steady_ite (steady_result ()) (steady_fail other))

/-! ## Complete scanners -/

/-- A steady scanner that is also closed. -/
structure Sealed (s : Scan α) : Prop extends Steady s where
  closed : Closed s

/-- The scanner uses the octet that decides its end. -/
structure Complete (s : Scan α) : Prop extends Sealed s where
  shortens : Shortens s

theorem sealed_result (a : α) : Sealed (result a) := ⟨steady_result a, closed_result a⟩

/-- A test between two closed scanners is closed. -/
theorem sealed_ite {c : Prop} [Decidable c] {s t : Scan α} (hs : Sealed s) (ht : Sealed t) :
    Sealed (if c then s else t) := by
  split
  · exact hs
  · exact ht

/-- In a sequence of closed scanners nothing behind the whole is looked at. -/
theorem sealed_andThen {s : Scan α} {f : α → Scan β} (hs : Sealed s) (hf : ∀ a, Sealed (f a)) :
    Sealed (andThen s f) := by
  refine ⟨steady_andThen hs.toSteady fun a => (hf a).toSteady, ?_⟩
  intro used rest more b h
  obtain ⟨a, first, second, rfl, hfirst, hsecond⟩ :=
    exists_split_of_andThen hs.suffix (fun a => (hf a).suffix) h
  rw [List.append_assoc, andThen_of_done (hs.closed _ _ (second ++ more) a hfirst)]
  exact (hf a).closed second rest more b hsecond

/-- A refusal counts as complete, for it is never done. -/
theorem complete_fail (fault : MessageFault) : Complete (fail fault : Scan α) := by
  refine ⟨⟨steady_fail fault, closed_fail fault⟩, ?_⟩
  intro bs a rest h
  cases h

theorem complete_next : Complete next := ⟨⟨steady_next, closed_next⟩, shortens_next⟩

theorem complete_expect (b : UInt8) (fault : MessageFault) : Complete (expect b fault) := by
  refine ⟨⟨steady_expect b fault, closed_expect b fault⟩, ?_⟩
  intro bs u rest h
  cases bs with
  | nil => cases h
  | cons c cs =>
    simp only [expect] at h
    split at h
    · rw [(Scanned.done.inj h).2]
      exact Nat.lt_succ_self _
    · cases h

/-- A scanner that looks ahead may stand before one that uses what it looked at. -/
theorem complete_andThen {s : Scan α} {f : α → Scan β} (hs : Steady s) (hf : ∀ a, Complete (f a)) :
    Complete (andThen s f) := by
  refine ⟨⟨steady_andThen hs fun a => (hf a).toSteady, ?_⟩,
    shortens_andThen_right hs.suffix fun a => (hf a).shortens⟩
  intro used rest more b h
  obtain ⟨a, first, second, rfl, hfirst, hsecond⟩ :=
    exists_split_of_andThen hs.suffix (fun a => (hf a).suffix) h
  -- The second scan takes an octet at least, so the first one meets the same octet with or without what follows.
  have hhead : (second ++ more).head? = (second ++ rest).head? := by
    cases second with
    | nil =>
      have hlen := (hf a).shortens _ _ _ hsecond
      simp at hlen
    | cons c cs => rfl
  rw [List.append_assoc, andThen_of_done (hs.isLocal _ _ (second ++ more) a hfirst hhead)]
  exact (hf a).closed second rest more b hsecond

/-- What has used the octet deciding its end may be followed by a scanner that reads nothing more. -/
theorem complete_andThen_sealed {s : Scan α} {f : α → Scan β} (hs : Complete s)
    (hf : ∀ a, Sealed (f a)) : Complete (andThen s f) :=
  ⟨sealed_andThen hs.toSealed hf, shortens_andThen hs.shortens fun a => (hf a).suffix⟩

end Scan

namespace Head

open Scan

/-! ## Heads -/

/-- A line that begins with anything but a line end is not empty. -/
theorem skipEmptyLines_cons {b : UInt8} (h10 : b ≠ 10) (h13 : b ≠ 13) (bs : Octets) :
    skipEmptyLines (b :: bs) = .done () (b :: bs) := by
  rw [skipEmptyLines]
  all_goals simp [h10, h13]

/-- Empty lines end before an octet of another line. -/
theorem exists_of_skipEmptyLines {bs rest : Octets} {u : Unit} (h : skipEmptyLines bs = .done u rest) :
    ∃ b tail, rest = b :: tail ∧ b ≠ 10 ∧ b ≠ 13 := by
  fun_induction skipEmptyLines bs with
  | case1 => cases h
  | case2 bs ih => exact ih h
  | case3 => cases h
  | case4 bs ih => exact ih h
  | case5 => cases h
  -- The octet at which the lines stop being empty.
  | case6 bs hnil h10 h13 _ h13x =>
    obtain ⟨_, rfl⟩ := Scanned.done.inj h
    cases bs with
    | nil => exact absurd rfl hnil
    | cons b tail =>
      refine ⟨b, tail, rfl, fun e => h10 tail (by rw [e]), ?_⟩
      rintro rfl
      cases tail with
      | nil => exact h13 rfl
      | cons c cs => exact h13x c cs rfl

/-- A lone CR at the end of what has arrived is waited on, so an empty line is never taken for the start of the head. -/
theorem stable_skipEmptyLines : Stable skipEmptyLines := by
  intro bs more
  fun_induction skipEmptyLines bs with
  | case1 => trivial
  | case2 bs ih => simpa [skipEmptyLines] using ih
  | case3 => trivial
  | case4 bs ih => simpa [skipEmptyLines] using ih
  | case5 b bs h => simp [skipEmptyLines]
  | case6 bs hnil h10 h13 h1310 h13x =>
    have hdone : skipEmptyLines bs = .done () bs := by
      rw [skipEmptyLines]
      all_goals assumption
    obtain ⟨b, tail, rfl, hb10, hb13⟩ := exists_of_skipEmptyLines hdone
    exact skipEmptyLines_cons hb10 hb13 (tail ++ more)

/-- Skipping looks at the first octet of the head and no further. -/
theorem local_skipEmptyLines : Local skipEmptyLines := by
  intro used rest more u h hmore
  obtain ⟨b, tail, rfl, hb10, hb13⟩ := exists_of_skipEmptyLines h
  obtain ⟨more, rfl⟩ : ∃ cs, more = b :: cs := by
    cases more with
    | nil => cases hmore
    | cons c cs => exact ⟨cs, by rw [Option.some.inj hmore]⟩
  -- The empty lines used are the same whatever the line behind them goes on with.
  induction used using skipEmptyLines.induct with
  | case1 => exact skipEmptyLines_cons hb10 hb13 more
  | case2 bs ih => exact ih h
  | case3 => simp [skipEmptyLines] at h
  | case4 bs ih => exact ih h
  | case5 c bs hc => simp [skipEmptyLines] at h
  | case6 bs hnil h10 h13 h1310 h13x =>
    cases bs with
    | nil => exact absurd rfl hnil
    | cons c cs =>
      have hc10 : c ≠ 10 := fun e => h10 cs (by rw [e])
      have hc13 : c ≠ 13 := by
        rintro rfl
        cases cs with
        | nil => exact h13 rfl
        | cons d ds => exact h13x d ds rfl
      rw [List.cons_append, skipEmptyLines_cons hc10 hc13] at h
      have hlen := congrArg List.length (Scanned.done.inj h).2
      simp at hlen
      omega

/-- Skipping empty lines may be started again. -/
theorem steady_skipEmptyLines : Steady skipEmptyLines :=
  ⟨suffix_skipEmptyLines, stable_skipEmptyLines, local_skipEmptyLines⟩

/-- A word and the blank behind it may be started again. -/
theorem steady_word (p : UInt8 → Bool) : Steady (word p) :=
  steady_andThen (steady_run p) fun w => steady_andThen steady_next fun _ =>
    steady_ite (steady_result w) (steady_fail _)

/-- So may the target of a request line, which is looked at as text only when its blank has come. -/
theorem steady_targetText : Steady targetText := by
  refine steady_andThen (steady_word _) fun w => ?_
  cases w.text? with
  | some s => exact steady_result s
  | none => exact steady_fail _

/-- A fixed text may be started again, since each of its octets may. -/
theorem steady_expectAll (fault : MessageFault) (bs : Octets) : Steady (expectAll fault bs) := by
  induction bs with
  | nil => exact steady_result ()
  | cons b bs ih => exact steady_andThen (steady_expect b fault) fun _ => ih

/-- A version is a fixed text but for its last digit. -/
theorem steady_version : Steady version :=
  steady_andThen (steady_expectAll _ _) fun _ => steady_andThen steady_next fun _ =>
    steady_ite (steady_result _) (steady_ite (steady_result _) (steady_fail _))

/-- A digit of a status is one octet. -/
theorem steady_statusDigit : Steady statusDigit :=
  steady_andThen steady_next fun _ => steady_ite (steady_result _) (steady_fail _)

/-- Three digits in sequence may be started again. -/
theorem steady_statusNumber : Steady statusNumber :=
  steady_andThen steady_statusDigit fun _ => steady_andThen steady_statusDigit fun _ =>
    steady_andThen steady_statusDigit fun _ => steady_result _

/-- So may the phrase behind a status, or the line end that stands in its place. -/
theorem steady_statusEnd : Steady statusEnd :=
  steady_andThen steady_next fun _ =>
    steady_ite (steady_andThen (steady_run _) fun _ => steady_lineEnd _ _)
      (steady_ite (steady_expect _ _) (steady_ite (steady_result ()) (steady_fail _)))

/-- A field line is looked at as a whole when its end has come, for only then are its last blanks known. -/
theorem steady_fieldLine (b : UInt8) : Steady (fieldLine b) :=
  steady_ite (steady_fail _)
    (steady_andThen (steady_run _) fun _ => steady_andThen (steady_expect _ _) fun _ =>
      steady_andThen (steady_run _) fun _ => steady_andThen (steady_run _) fun _ =>
        steady_andThen (steady_lineEnd _ _) fun _ => steady_result _)

/-- The fields end with the line end of the empty line. -/
theorem complete_fieldLines (slots : Nat) : Complete (fieldLines slots) := by
  have hempty : Sealed (andThen (expect 10 .badNewLine) fun _ => result ([] : List Line)) :=
    (complete_andThen_sealed (complete_expect 10 .badNewLine) fun _ => sealed_result _).toSealed
  induction slots with
  | zero =>
    -- Without a slot left, one more line fails, but only once it is all there.
    unfold fieldLines
    exact complete_andThen_sealed complete_next fun b =>
      sealed_ite hempty (sealed_ite (sealed_result _)
        (complete_andThen (steady_fieldLine b) fun _ => complete_fail _).toSealed)
  | succ slots ih =>
    unfold fieldLines
    exact complete_andThen_sealed complete_next fun b =>
      sealed_ite hempty (sealed_ite (sealed_result _)
        (complete_andThen (steady_fieldLine b) fun _ =>
          complete_andThen_sealed ih fun _ => sealed_result _).toSealed)

/-- Making something of what was read looks at no octet. -/
theorem sealed_settle {α : Type} (r : Except MessageFault α) : Sealed (settle r) := by
  cases r with
  | ok a => exact sealed_result a
  | error fault => exact (complete_fail fault).toSealed

/-- **The head of a request is read as a whole**: from its own octets alone, and again from the start at will. -/
theorem complete_requestHead : Complete requestHead :=
  complete_andThen steady_skipEmptyLines fun _ => complete_andThen (steady_word _) fun _ =>
    complete_andThen steady_targetText fun _ => complete_andThen steady_version fun _ =>
      complete_andThen (steady_lineEnd _ _) fun _ =>
        complete_andThen_sealed (complete_fieldLines _) fun _ =>
          sealed_andThen (sealed_settle _) fun _ => sealed_andThen (sealed_settle _) fun _ =>
            sealed_andThen (sealed_settle _) fun _ => sealed_result _

/-- **The head of a response is read as a whole.** -/
theorem complete_responseHead : Complete responseHead :=
  complete_andThen steady_skipEmptyLines fun _ => complete_andThen steady_version fun _ =>
    complete_andThen (steady_expect _ _) fun _ => complete_andThen steady_statusNumber fun _ =>
      complete_andThen steady_statusEnd fun _ =>
        complete_andThen_sealed (complete_fieldLines _) fun _ =>
          sealed_andThen (sealed_settle _) fun _ => sealed_andThen (sealed_settle _) fun _ =>
            sealed_result _

end Head

/-! ## Chunk sizes -/

namespace ChunkSize

/-- An octet that does not end the line is read the same way whatever follows. -/
theorem scanFrom_cons (part : SizePart) (size : Nat) {b : UInt8} (hb : b ≠ 13) (bs : Octets) :
    scanFrom part size (b :: bs) =
      match step part size b with
      | some (part', size') => scanFrom part' size' bs
      | none => .failed .badChunkSize := by
  rw [scanFrom]
  · refine (if_neg (by simpa using hb)).trans ?_
    cases step part size b with
    | none => rfl
    | some next => rfl
  · simp [hb]
  · simp [hb]

/-- A size line that has ended or been refused stays so when more arrives. -/
theorem stable_scanFrom (part : SizePart) (size : Nat) : Scan.Stable (scanFrom part size) := by
  intro bs more
  fun_induction scanFrom part size bs with
  | case1 => trivial
  | case2 => trivial
  | case3 => rfl
  | case4 part size b bs h13 h1310 hb =>
    obtain rfl : b = 13 := by simpa using hb
    -- What becomes of a CR is decided by the octet behind it, which is there.
    cases bs with
    | nil => exact absurd rfl (h13 rfl)
    | cons c cs =>
      show scanFrom part size (13 :: c :: (cs ++ more)) = _
      rw [scanFrom]
      · rfl
      · simp
      · intro ds _ hds
        exact h1310 cs rfl (by simp_all)
  | case5 part size b bs h13 h1310 hb part' size' hstep ih =>
    have hne : b ≠ 13 := by simpa using hb
    simp only [List.cons_append, scanFrom_cons part size hne, hstep]
    exact ih
  | case6 part size b bs h13 h1310 hb hstep =>
    have hne : b ≠ 13 := by simpa using hb
    simp only [List.cons_append, scanFrom_cons part size hne, hstep]

/-- A size line that was read, or that is none, stays so when more arrives. -/
theorem stable_chunkSize : Scan.Stable scan := stable_scanFrom _ _

end ChunkSize

end HttpService
