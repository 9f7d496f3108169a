import HttpService.Header.Name
import HttpService.Header.Value

/-!
# Header fields

The fields of a message. A name may carry several values; names keep the order in which they first came,
and the values of one name stand together in the order in which they came. No name occurs twice
(`Fields.distinct`), so `append` and `insert` differ only in what becomes of the older values.
-/

namespace HttpService

/-- A name with its values, of which there is at least one. -/
structure Field where
  name : FieldName
  value : FieldValue
  more : List FieldValue
deriving DecidableEq

/-- All values of a field. -/
def Field.values (f : Field) : List FieldValue := f.value :: f.more

/-- The fields of a message, by the first appearance of their names. -/
structure Fields where
  entries : List Field
  distinct : (entries.map Field.name).Nodup
deriving DecidableEq

namespace Fields

/-- No fields. -/
def empty : Fields := ⟨[], List.nodup_nil⟩

instance : Inhabited Fields := ⟨empty⟩
instance : EmptyCollection Fields := ⟨empty⟩

/-- Replaces the field named `n` by what `f` makes of it. -/
def adjust (f : Field → Field) (n : FieldName) (es : List Field) : List Field :=
  es.map fun e => if e.name = n then f e else e

/-- A change of values leaves the names of all fields, and their order. -/
theorem map_name_adjust {f : Field → Field} (hf : ∀ e, (f e).name = e.name) (n : FieldName)
    (es : List Field) : (adjust f n es).map Field.name = es.map Field.name := by
  simp only [adjust, List.map_map]
  apply List.map_congr_left
  intro e _
  simp only [Function.comp]
  split <;> simp [hf]

/-- Whether a name occurs. -/
def contains (hs : Fields) (n : FieldName) : Bool := hs.entries.any fun e => e.name = n

/-- A name that is not found is not there. -/
theorem not_mem_of_not_contains {hs : Fields} {n : FieldName} (h : hs.contains n = false) :
    n ∉ hs.entries.map Field.name := by
  simp only [contains, List.any_eq_false, decide_eq_true_eq] at h
  intro hm
  obtain ⟨e, he, rfl⟩ := List.mem_map.mp hm
  exact h e he rfl

/-- Puts a value under a name: by `known` if the name occurs, else as a new last field. -/
def put (known : Field → Field) (keeps : ∀ e, (known e).name = e.name) (hs : Fields) (n : FieldName)
    (v : FieldValue) : Fields :=
  if h : hs.contains n = true then
    ⟨adjust known n hs.entries, by rw [map_name_adjust keeps]; exact hs.distinct⟩
  else
    ⟨hs.entries ++ [⟨n, v, []⟩], by
      rw [List.map_append, List.nodup_append]
      -- Only the new name could occur twice, and it did not occur before.
      refine ⟨hs.distinct, by simp, ?_⟩
      intro a ha b hb hab
      simp only [List.map_cons, List.map_nil, List.mem_singleton] at hb
      exact not_mem_of_not_contains (by simpa using h) (hb ▸ hab ▸ ha)⟩

/-- Puts a value at the end of those of its name, or of all fields when the name is new. -/
def append (hs : Fields) (n : FieldName) (v : FieldValue) : Fields :=
  hs.put (fun e => { e with more := e.more ++ [v] }) (fun _ => rfl) n v

/-- Makes a value the only one of its name, in the place of the older values if there are any. -/
def insert (hs : Fields) (n : FieldName) (v : FieldValue) : Fields :=
  hs.put (fun e => { e with value := v, more := [] }) (fun _ => rfl) n v

/-- The values of a name, oldest first. -/
def valuesOf (hs : Fields) (n : FieldName) : List FieldValue :=
  match hs.entries.find? fun e => e.name = n with
  | some e => e.values
  | none => []

/-- The oldest value of a name. -/
def get? (hs : Fields) (n : FieldName) : Option FieldValue := (hs.valuesOf n).head?

/-- Every value with its name, in the order of the fields. -/
def lines (hs : Fields) : List (FieldName × FieldValue) :=
  hs.entries.flatMap fun e => e.values.map fun v => (e.name, v)

/-- The fields that these lines make, appended one after the other. -/
def ofLines (ls : List (FieldName × FieldValue)) : Fields :=
  ls.foldl (fun hs l => hs.append l.1 l.2) empty

end Fields

end HttpService
