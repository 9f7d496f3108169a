import HttpService.Proofs.Text.Decimal
import HttpService.Wire.Encoder

/-!
# Fields as they are written

A message is written with its fields but those that speak of its framing, and with the length of its body behind them.

* `Fields.ofLines_lines` — the lines of the fields, appended one after the other, are the fields again: names keep
  their places and the values of a name their order.
* `Fields.reframed` — the fields a message is written with; `Fields.lines_reframed` gives their lines.
* `Fields.ofFields_reframed` — what they say of the body is its length, and nothing else.
-/

namespace HttpService.Fields

/-! ## Lines -/

theorem eq_of_entries {hs hs' : Fields} (h : hs.entries = hs'.entries) : hs = hs' := by
  cases hs
  cases hs'
  cases h
  rfl

/-- A name is not among the fields where no entry has it. -/
theorem contains_eq_false_iff {hs : Fields} {n : FieldName} :
    hs.contains n = false ↔ n ∉ hs.entries.map Field.name := by
  refine ⟨not_mem_of_not_contains, fun hnot => ?_⟩
  simp only [contains, List.any_eq_false, decide_eq_true_eq]
  rintro e he rfl
  exact hnot (List.mem_map_of_mem he)

theorem adjust_append (f : Field → Field) (n : FieldName) (es es' : List Field) :
    adjust f n (es ++ es') = adjust f n es ++ adjust f n es' :=
  List.map_append

/-- Where no entry has the name there is nothing to change. -/
theorem adjust_of_not_mem {f : Field → Field} {n : FieldName} {es : List Field}
    (h : n ∉ es.map Field.name) : adjust f n es = es := by
  refine (List.map_congr_left fun e he => ?_).trans (List.map_id _)
  have hne : e.name ≠ n := fun hname => h (hname ▸ List.mem_map_of_mem he)
  rw [if_neg hne]
  rfl

/-- A value under a new name comes last. -/
theorem entries_append_of_new {hs : Fields} {n : FieldName} (h : n ∉ hs.entries.map Field.name)
    (v : FieldValue) : (hs.append n v).entries = hs.entries ++ [⟨n, v, []⟩] := by
  have hcontains := contains_eq_false_iff.mpr h
  simp only [append, put, hcontains, Bool.false_eq_true, dite_false]

/-- A value of the last name joins those it has. -/
theorem entries_append_of_last {hs : Fields} {es : List Field} {n : FieldName} {v : FieldValue}
    {vs : List FieldValue} (hes : hs.entries = es ++ [⟨n, v, vs⟩]) (hn : n ∉ es.map Field.name)
    (w : FieldValue) : (hs.append n w).entries = es ++ [⟨n, v, vs ++ [w]⟩] := by
  have hcontains : hs.contains n = true := by
    rw [contains, hes]
    simp
  simp only [append, put, hcontains, dite_true]
  rw [hes, adjust_append, adjust_of_not_mem hn]
  simp [adjust]

/-- Values under the last name join it, one by one. -/
theorem entries_foldl_values (ws : List FieldValue) {hs : Fields} {es : List Field} {n : FieldName}
    {v : FieldValue} {vs : List FieldValue} (hes : hs.entries = es ++ [⟨n, v, vs⟩])
    (hn : n ∉ es.map Field.name) :
    ((ws.map fun w => (n, w)).foldl (fun hs l => hs.append l.1 l.2) hs).entries =
      es ++ [⟨n, v, vs ++ ws⟩] := by
  induction ws generalizing hs vs with
  | nil => rw [List.map_nil, List.foldl_nil, hes, List.append_nil]
  | cons w ws ih =>
    rw [List.map_cons, List.foldl_cons, ih (entries_append_of_last hes hn w), List.append_assoc]
    rfl

/-- The lines of more fields, all with new names, append the fields. -/
theorem entries_foldl_lines (es : List Field) {hs : Fields}
    (hnodup : ((hs.entries ++ es).map Field.name).Nodup) :
    ((es.flatMap fun e => e.values.map fun v => (e.name, v)).foldl (fun hs l => hs.append l.1 l.2) hs).entries =
      hs.entries ++ es := by
  induction es generalizing hs with
  | nil => rw [List.flatMap_nil, List.foldl_nil, List.append_nil]
  | cons e es ih =>
    -- The first line of a new name makes its field, and the lines behind it add to that one.
    have hnew : e.name ∉ hs.entries.map Field.name := by
      rw [List.map_append, List.map_cons, List.nodup_append] at hnodup
      exact fun hmem => hnodup.2.2 _ hmem _ List.mem_cons_self rfl
    have hentry := entries_foldl_values e.more (entries_append_of_new hnew e.value) hnew
    rw [List.nil_append] at hentry
    rw [List.flatMap_cons, Field.values, List.map_cons, List.cons_append, List.foldl_cons, List.foldl_append, ih]
    · rw [hentry, List.append_assoc]
      rfl
    · rw [hentry, List.append_assoc]
      exact hnodup

/-- **Fields are what their lines make**, appended in order. -/
theorem ofLines_lines (hs : Fields) : ofLines hs.lines = hs :=
  eq_of_entries (entries_foldl_lines hs.entries hs.distinct)

/-! ## The fields a message is written with -/

theorem isShown_of_isDigit {b : UInt8} (h : Octet.isDigit b = true) : Octet.isShown b = true := by
  simp only [Octet.isDigit, Bool.and_eq_true, decide_eq_true_eq, UInt8.le_iff_toNat_le] at h
  simp only [Octet.isShown, Bool.or_eq_true, Bool.and_eq_true, decide_eq_true_eq, UInt8.le_iff_toNat_le,
    UInt8.lt_iff_toNat_lt]
  exact .inr ⟨Nat.le_trans (by decide) h.1, Nat.lt_of_le_of_lt h.2 (by decide)⟩

theorem isFieldText_of_isShown {b : UInt8} (h : Octet.isShown b = true) : Octet.isFieldText b = true := by
  simp only [Octet.isShown, Bool.or_eq_true, Bool.and_eq_true, decide_eq_true_eq, UInt8.lt_iff_toNat_lt] at h
  simp only [Octet.isFieldText, Bool.or_eq_true, Bool.and_eq_true, decide_eq_true_eq, bne_iff_ne]
  refine h.imp_right fun hrange => ⟨hrange.1, ?_⟩
  rintro rfl
  exact absurd hrange.2 (by decide)

/-- The length of a body as the value of its field. -/
def lengthValue (length : Nat) : FieldValue :=
  ⟨octets (Decimal.text length), List.all_eq_true.mpr fun _ hb =>
    isFieldText_of_isShown (isShown_of_isDigit (Decimal.isDigit_of_mem_octets_text hb))⟩

theorem trimBlanks_lengthValue (length : Nat) :
    (lengthValue length).content.trimBlanks = (lengthValue length).content := by
  refine Decimal.trim_of_forall_not fun b hb => ?_
  have hdigit := Decimal.isDigit_of_mem_octets_text hb
  rw [Bool.eq_false_iff]
  intro hblank
  rcases (Bool.or_eq_true _ _).mp hblank with h | h
  · rw [eq_of_beq h] at hdigit
    cases hdigit
  · rw [eq_of_beq h] at hdigit
    cases hdigit

/-- Of the fields that are kept none is about the framing. -/
theorem not_mem_kept {hs : Fields} {n : FieldName} (h : Encoder.isFraming n = true) :
    n ∉ (hs.entries.filter fun e => !Encoder.isFraming e.name).map Field.name := by
  intro hmem
  obtain ⟨e, he, rfl⟩ := List.mem_map.mp hmem
  have hkept := (List.mem_filter.mp he).2
  simp [h] at hkept

/-- The fields without those that speak of the framing, and behind them the length of the body. -/
def reframed (hs : Fields) (length : Nat) : Fields where
  entries := (hs.entries.filter fun e => !Encoder.isFraming e.name) ++ [⟨.contentLength, lengthValue length, []⟩]
  distinct := by
    -- The length is itself a field of the framing, so none of the kept ones has its name.
    rw [List.map_append, List.nodup_append]
    refine ⟨hs.distinct.sublist (List.filter_sublist.map Field.name), by simp, ?_⟩
    intro a ha b hb hab
    obtain rfl : b = .contentLength := by simpa using hb
    exact not_mem_kept (by decide) (hab ▸ ha)

/-- The lines kept are those of the fields kept. -/
theorem lines_reframed (hs : Fields) (length : Nat) :
    (hs.reframed length).lines =
      (hs.lines.filter fun l => !Encoder.isFraming l.1) ++ [(.contentLength, lengthValue length)] := by
  have hkept : ∀ es : List Field,
      ((es.filter fun e => !Encoder.isFraming e.name).flatMap fun e => e.values.map fun v => (e.name, v)) =
        (es.flatMap fun e => e.values.map fun v => (e.name, v)).filter fun l => !Encoder.isFraming l.1 := by
    intro es
    induction es with
    | nil => rfl
    | cons e es ih =>
      rw [List.flatMap_cons, List.filter_append, ← ih, List.filter_map, List.filter_cons]
      -- The lines of a field have its name: they are all kept or all dropped.
      by_cases hframing : Encoder.isFraming e.name = true
      · simp [hframing, Function.comp_def]
      · rw [if_pos (by simpa using hframing), List.flatMap_cons]
        refine congrArg (· ++ _) (congrArg _ (List.filter_eq_self.mpr fun v _ => ?_)).symm
        simpa using hframing
  rw [lines, reframed, List.flatMap_append, hkept]
  rfl

/-- A message is written with the lines of its fields reframed. -/
theorem fieldLines_eq (hs : Fields) (length : Nat) :
    Encoder.fieldLines hs length =
      (hs.reframed length).lines.flatMap (fun l => Encoder.fieldLine l.1 l.2) ++ Encoder.lineEnd := by
  have hname : octets "content-length: " = FieldName.contentLength.token ++ octets ": " := by decide
  rw [lines_reframed, Encoder.fieldLines, List.flatMap_append, hname]
  simp [Encoder.fieldLine, lengthValue]

/-! ## What they say of the body -/

/-- The only field about the framing is the length that the writer gave. -/
theorem find?_reframed_of_isFraming {hs : Fields} {length : Nat} {n : FieldName} (h : Encoder.isFraming n = true) :
    (hs.reframed length).entries.find? (fun e => e.name = n) =
      if n = .contentLength then some ⟨.contentLength, lengthValue length, []⟩ else none := by
  have hkept : (hs.entries.filter fun e => !Encoder.isFraming e.name).find? (fun e => e.name = n) = none := by
    rw [List.find?_eq_none]
    intro e he hname
    obtain rfl : e.name = n := of_decide_eq_true hname
    exact not_mem_kept h (List.mem_map_of_mem he)
  rw [reframed, List.find?_append, hkept, Option.none_or]
  by_cases hn : n = .contentLength
  · rw [if_pos hn, hn]
    simp
  · rw [if_neg hn]
    simpa using fun heq => hn heq.symm

/-- So no chunks are announced. -/
theorem announcesChunks_reframed (hs : Fields) (length : Nat) :
    Framing.announcesChunks (hs.reframed length) = false := by
  rw [Framing.announcesChunks, valuesOf, find?_reframed_of_isFraming (by decide), if_neg (by decide)]
  rfl

/-- The length announced is that of the body. -/
theorem get?_contentLength_reframed (hs : Fields) (length : Nat) :
    (hs.reframed length).get? .contentLength = some (lengthValue length) := by
  rw [get?, valuesOf, find?_reframed_of_isFraming (by decide), if_pos rfl]
  rfl

/-- A length that a count can hold is read back. -/
theorem length?_lengthValue {length : Nat} (h : length < Decimal.bound64) :
    Framing.length? (lengthValue length) = some length := by
  have hshown : (lengthValue length).shown? = some (octets (Decimal.text length)) := by
    refine if_pos (List.all_eq_true.mpr fun b hb => ?_)
    exact isShown_of_isDigit (Decimal.isDigit_of_mem_octets_text hb)
  rw [Framing.length?, FieldValue.text?, hshown, Option.map_some, Option.bind_some, Decimal.latin_octets_text,
    Decimal.readBelow?_trim_text h]

/-- **The fields written say where the body ends**, whatever the message's own fields said. -/
theorem ofFields_reframed (hs : Fields) {length : Nat} (h : length < Decimal.bound64) :
    Framing.ofFields (hs.reframed length) = .ok (if length = 0 then .none else .length length) := by
  rw [Framing.ofFields, announcesChunks_reframed, if_neg Bool.false_ne_true, get?_contentLength_reframed]
  simp only [length?_lengthValue h]
  cases length with
  | zero => rfl
  | succ n => rfl

end HttpService.Fields
