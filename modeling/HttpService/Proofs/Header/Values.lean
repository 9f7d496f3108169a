import HttpService.Proofs.Header.Reframed
import HttpService.Server.Exchange

/-!
# The values of a name

Giving a value to one name changes the values of that name alone, and so does writing a message in place of the names
that speak of its framing.

* `valuesOf_insert`, `valuesOf_insert_of_ne` — the values of a name after one is given a value.
* `valuesOf_reframed` — the values of a name in the fields that a message is written with.
-/

namespace HttpService.Fields

/-- A change of some fields that keeps their names finds the field of a name where it was. -/
theorem find?_adjust {f : Field → Field} (hf : ∀ e, (f e).name = e.name) (n n' : FieldName) (es : List Field) :
    (adjust f n es).find? (fun e => e.name = n') =
      (es.find? fun e => e.name = n').map fun e => if e.name = n then f e else e := by
  have hname : ∀ e : Field, (if e.name = n then f e else e).name = e.name := by
    intro e
    split
    · exact hf e
    · rfl
  rw [adjust, List.find?_map]
  simp only [Function.comp_def, hname]

/-- A value under a name that is there replaces all the values it had, at the place of the first. -/
theorem entries_insert_of_contains {hs : Fields} {n : FieldName} (h : hs.contains n = true) (v : FieldValue) :
    (hs.insert n v).entries = adjust (fun e => { e with value := v, more := [] }) n hs.entries := by
  simp only [insert, put, h, dite_true]

/-- One under a new name comes last. -/
theorem entries_insert_of_new {hs : Fields} {n : FieldName} (h : ¬ hs.contains n = true) (v : FieldValue) :
    (hs.insert n v).entries = hs.entries ++ [⟨n, v, []⟩] := by
  simp only [insert, put, h, Bool.false_eq_true, dite_false]

/-- The values of one name stay when another one is given a value. -/
theorem valuesOf_insert_of_ne (hs : Fields) {n n' : FieldName} (hne : n' ≠ n) (v : FieldValue) :
    (hs.insert n v).valuesOf n' = hs.valuesOf n' := by
  have hfind : (hs.insert n v).entries.find? (fun e => e.name = n') = hs.entries.find? fun e => e.name = n' := by
    by_cases hcontains : hs.contains n = true
    · rw [entries_insert_of_contains hcontains, find?_adjust]
      · cases hfind : hs.entries.find? fun e => e.name = n' with
        | none => rfl
        | some e =>
          have hname : e.name = n' := by simpa using List.find?_some hfind
          rw [Option.map_some, if_neg (hname ▸ hne)]
      · exact fun _ => rfl
    · rw [entries_insert_of_new hcontains, List.find?_append, List.find?_singleton, if_neg (by simpa using hne.symm),
        Option.or_none]
  rw [valuesOf, hfind, valuesOf]

theorem valuesOf_insertText_of_ne (hs : Fields) {n n' : FieldName} (hne : n' ≠ n) (text : String) :
    (hs.insertText n text).valuesOf n' = hs.valuesOf n' := by
  unfold insertText
  cases FieldValue.ofText? text with
  | none => rfl
  | some v => exact valuesOf_insert_of_ne hs hne v

/-- The value a name is given is its only one. -/
theorem valuesOf_insert (hs : Fields) (n : FieldName) (v : FieldValue) : (hs.insert n v).valuesOf n = [v] := by
  by_cases hcontains : hs.contains n = true
  · obtain ⟨e, he, hname⟩ := List.any_eq_true.mp hcontains
    obtain ⟨e', hfind⟩ : ∃ e', hs.entries.find? (fun e => e.name = n) = some e' :=
      Option.isSome_iff_exists.mp (List.find?_isSome.mpr ⟨e, he, hname⟩)
    have hname' : e'.name = n := by simpa using List.find?_some hfind
    rw [valuesOf, entries_insert_of_contains hcontains, find?_adjust, hfind, Option.map_some, if_pos hname']
    · rfl
    · exact fun _ => rfl
  -- A new name is put at the end, behind entries that all have another one.
  · have hnone : hs.entries.find? (fun e => e.name = n) = none :=
      List.find?_eq_none.mpr fun e he hname => hcontains (List.any_eq_true.mpr ⟨e, he, hname⟩)
    rw [valuesOf, entries_insert_of_new hcontains, List.find?_append, hnone, List.find?_singleton, if_pos (by simp)]
    rfl

/-- What is written with a message in place of its framing is not about other names. -/
theorem valuesOf_reframed (hs : Fields) (length : Nat) {n : FieldName} (h : Encoder.isFraming n = false) :
    (hs.reframed length).valuesOf n = hs.valuesOf n := by
  have hlength : ¬ FieldName.contentLength = n := by
    rintro rfl
    exact absurd h (by decide)
  -- Only entries of framing are left out, and none of them has this name.
  have hkept : (hs.entries.filter fun e => !Encoder.isFraming e.name).find? (fun e => e.name = n) =
      hs.entries.find? fun e => e.name = n := by
    rw [List.find?_filter]
    congr 1
    funext e
    by_cases he : e.name = n
    · simp [he, h]
    · simp [he]
  rw [valuesOf, reframed, List.find?_append, hkept, List.find?_singleton, if_neg (by simpa using hlength),
    Option.or_none, valuesOf]

end HttpService.Fields
