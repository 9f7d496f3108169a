import HttpService.Proofs.Header.Reframed

/-!
# Fields as they are read

A value may begin and end with blanks. They are written with it, and whoever reads the line takes them for the blanks
that may stand around any value.

* `Fields.trimmed` — the fields with their values trimmed; `Fields.lines_trimmed` gives their lines.
* `Fields.trimmed_eq_self` — fields without such blanks are themselves.
* `Fields.ofFields_trimmed` — the fields that a message is written with say of its body the same when they are trimmed.
-/

namespace HttpService

/-! ## Trimming -/

namespace Octets

/-- Behind the blanks in front there are none in front. -/
theorem dropWhile_isBlank_twice (bs : Octets) :
    (bs.dropWhile Octet.isBlank).dropWhile Octet.isBlank = bs.dropWhile Octet.isBlank := by
  have hnot := List.head?_dropWhile_not Octet.isBlank bs
  cases hdrop : bs.dropWhile Octet.isBlank with
  | nil => rfl
  | cons b tail =>
    rw [hdrop] at hnot
    exact List.dropWhile_cons_of_neg (by simpa using hnot)

/-- Trimming takes the blanks in front, so it does not matter if they are gone. -/
theorem trimBlanks_dropWhile (bs : Octets) : trimBlanks (bs.dropWhile Octet.isBlank) = bs.trimBlanks := by
  rw [trimBlanks, trimBlanks, dropWhile_isBlank_twice]

theorem mem_of_mem_trimBlanks {b : UInt8} {bs : Octets} (h : b ∈ bs.trimBlanks) : b ∈ bs := by
  have hback := (List.dropWhile_suffix Octet.isBlank).mem (List.mem_reverse.mp h)
  exact (List.dropWhile_suffix Octet.isBlank).mem (List.mem_reverse.mp hback)

end Octets

/-- The value without the blanks at either end. -/
def FieldValue.trimmed (v : FieldValue) : FieldValue :=
  ⟨v.content.trimBlanks, List.all_eq_true.mpr fun _ hb =>
    List.all_eq_true.mp v.isText _ (Octets.mem_of_mem_trimBlanks hb)⟩

/-- A value without blanks at its ends is left alone. -/
theorem FieldValue.trimmed_eq_self {v : FieldValue} (h : v.content.trimBlanks = v.content) : v.trimmed = v := by
  obtain ⟨content, isText⟩ := v
  simpa only [trimmed, FieldValue.mk.injEq] using h

/-- The field with its values trimmed. -/
def Field.trimmed (f : Field) : Field := ⟨f.name, f.value.trimmed, f.more.map FieldValue.trimmed⟩

/-- Each value of a field is trimmed by itself. -/
theorem Field.values_trimmed (f : Field) : f.trimmed.values = f.values.map FieldValue.trimmed := rfl

namespace Fields

/-- The fields with their values trimmed. -/
def trimmed (hs : Fields) : Fields where
  entries := hs.entries.map Field.trimmed
  distinct := by
    rw [List.map_map]
    exact hs.distinct

theorem lines_trimmed (hs : Fields) : hs.trimmed.lines = hs.lines.map fun l => (l.1, l.2.trimmed) := by
  simp only [lines, trimmed, List.flatMap_map, List.map_flatMap, Field.values_trimmed, List.map_map]
  rfl

/-- Fields whose values have no blanks at their ends are themselves. -/
theorem trimmed_eq_self {hs : Fields} (h : ∀ l ∈ hs.lines, l.2.content.trimBlanks = l.2.content) : hs.trimmed = hs := by
  have hlines : hs.trimmed.lines = hs.lines := by
    rw [lines_trimmed]
    refine (List.map_congr_left fun l hl => ?_).trans (List.map_id _)
    rw [FieldValue.trimmed_eq_self (h l hl)]
    rfl
  rw [← ofLines_lines hs.trimmed, hlines, ofLines_lines]

/-- A message without blanks around its values is written with none. -/
theorem trimmed_reframed {hs : Fields} (h : ∀ l ∈ hs.lines, l.2.content.trimBlanks = l.2.content) (length : Nat) :
    (hs.reframed length).trimmed = hs.reframed length := by
  refine trimmed_eq_self fun l hl => ?_
  rw [lines_reframed] at hl
  rcases List.mem_append.mp hl with hkept | hlength
  · exact h l (List.mem_filter.mp hkept).1
  · obtain rfl := List.mem_singleton.mp hlength
    exact trimBlanks_lengthValue length

/-- The values of a name are those it had, trimmed. -/
theorem valuesOf_trimmed (hs : Fields) (n : FieldName) :
    hs.trimmed.valuesOf n = (hs.valuesOf n).map FieldValue.trimmed := by
  have hname : (fun e : Field => decide (e.name = n)) ∘ Field.trimmed = fun e => decide (e.name = n) := rfl
  rw [valuesOf, valuesOf, trimmed, List.find?_map, hname]
  cases hs.entries.find? fun e => e.name = n with
  | none => rfl
  | some e => exact e.values_trimmed

/-- What the fields of a message say of its body is said without blanks. -/
theorem ofFields_trimmed (hs : Fields) (length : Nat) :
    Framing.ofFields (hs.reframed length).trimmed = Framing.ofFields (hs.reframed length) := by
  -- The framing is read from two names: one has no value now, and the other one a value without blanks.
  have hchunks : (hs.reframed length).valuesOf .transferEncoding = [] := by
    rw [valuesOf, find?_reframed_of_isFraming (by decide), if_neg (by decide)]
  have hlength : (hs.reframed length).valuesOf .contentLength = [lengthValue length] := by
    rw [valuesOf, find?_reframed_of_isFraming (by decide), if_pos rfl]
    rfl
  have htrimmed : (lengthValue length).trimmed = lengthValue length :=
    FieldValue.trimmed_eq_self (trimBlanks_lengthValue length)
  have hannounces :
      Framing.announcesChunks (hs.reframed length).trimmed = Framing.announcesChunks (hs.reframed length) := by
    rw [Framing.announcesChunks, Framing.announcesChunks, valuesOf_trimmed, hchunks]
    rfl
  have hget : (hs.reframed length).trimmed.get? .contentLength = (hs.reframed length).get? .contentLength := by
    rw [get?, get?, valuesOf_trimmed, hlength, List.map_singleton, htrimmed]
  rw [Framing.ofFields, Framing.ofFields, hannounces, hget]

end Fields

end HttpService
