import Mathlib.Data.List.Nodup
import Mathlib.Data.String.Basic
import HttpService.Json.Reading
import HttpService.Yaml.Data

/-!
# Objects in the order of their names

The members of an object are kept in the order of their names, and no name occurs twice. This is a property of every
value that is read, however deep its objects are and in whichever order their members were written.

* `JsonValue.sorted_place` — a member is put in its place.
* `JsonValue.Ordered` — all objects of a value are in order.
* `Json.ordered_of_read?`, `Yaml.ordered_of_readValue?` — what is read is in order.
-/

namespace HttpService

namespace JsonValue

/-! ## One object -/

/-- Placing a member adds that one and no other. -/
theorem eq_or_mem_of_mem_place {name : String} {value : JsonValue} {ms : List (String × JsonValue)}
    {m : String × JsonValue} (h : m ∈ place name value ms) : m = (name, value) ∨ m ∈ ms := by
  induction ms with
  | nil => exact .inl (List.mem_singleton.mp h)
  | cons n ms ih =>
    unfold place at h
    split at h
    · rcases List.mem_cons.mp h with rfl | h
      · exact .inr List.mem_cons_self
      · exact (ih h).imp_right (List.mem_cons_of_mem n)
    · split at h
      · exact (List.mem_cons.mp h).imp_right (List.mem_cons_of_mem n)
      · exact List.mem_cons.mp h

/-- It goes where its name belongs, in the place of one that had this name. -/
theorem sorted_place (name : String) (value : JsonValue) {ms : List (String × JsonValue)}
    (h : ms.Pairwise fun m n => m.1 < n.1) : (place name value ms).Pairwise fun m n => m.1 < n.1 := by
  induction ms with
  | nil => exact List.pairwise_singleton _ _
  | cons n ms ih =>
    obtain ⟨hn, hms⟩ := List.pairwise_cons.mp h
    -- A member goes behind those with smaller names, in the place of one with its own, and in front of the others.
    unfold place
    split
    case isTrue hlt =>
      refine List.pairwise_cons.mpr ⟨fun m hm => ?_, ih hms⟩
      rcases eq_or_mem_of_mem_place hm with rfl | hm
      · exact hlt
      · exact hn m hm
    case isFalse hle =>
      split
      case isTrue heq =>
        subst heq
        exact List.pairwise_cons.mpr ⟨hn, hms⟩
      case isFalse hne =>
        have hlt : name < n.1 := lt_of_le_of_ne (not_lt.mp hle) (Ne.symm hne)
        refine List.pairwise_cons.mpr ⟨fun m hm => ?_, h⟩
        rcases List.mem_cons.mp hm with rfl | hm
        · exact hlt
        · exact lt_trans hlt (hn m hm)

/-- The members of an object are those it is made of, in the order of their names. -/
theorem sorted_ofMembers (ms : List (String × JsonValue)) :
    ∃ members, ofMembers ms = .object members ∧ (members.Pairwise fun m n => m.1 < n.1) ∧ ∀ m ∈ members, m ∈ ms := by
  -- Over the members, each put into those that have been placed already.
  have hfold : ∀ acc : List (String × JsonValue), (acc.Pairwise fun m n => m.1 < n.1) →
      ((ms.foldl (fun acc m => place m.1 m.2 acc) acc).Pairwise fun m n => m.1 < n.1) ∧
        ∀ m ∈ ms.foldl (fun acc m => place m.1 m.2 acc) acc, m ∈ acc ∨ m ∈ ms := by
    induction ms with
    | nil => exact fun acc h => ⟨h, fun m hm => .inl hm⟩
    | cons n ms ih =>
      intro acc h
      obtain ⟨hsorted, hmem⟩ := ih _ (sorted_place n.1 n.2 h)
      refine ⟨hsorted, fun m hm => ?_⟩
      rcases hmem m hm with hplaced | hms
      · rcases eq_or_mem_of_mem_place hplaced with rfl | hacc
        · exact .inr List.mem_cons_self
        · exact .inl hacc
      · exact .inr (List.mem_cons_of_mem n hms)
  obtain ⟨hsorted, hmem⟩ := hfold [] List.Pairwise.nil
  exact ⟨_, rfl, hsorted, fun m hm => (hmem m hm).resolve_left List.not_mem_nil⟩

/-- The members of an object have names of their own. -/
theorem nodup_ofMembers (ms : List (String × JsonValue)) :
    ∃ members, ofMembers ms = .object members ∧ (members.map (·.1)).Nodup := by
  obtain ⟨members, hmembers, hsorted, -⟩ := sorted_ofMembers ms
  refine ⟨members, hmembers, ?_⟩
  rw [List.Nodup, List.pairwise_map]
  exact hsorted.imp fun hlt => ne_of_lt hlt

/-- In an object a name has the value that it has among the members. -/
theorem lookup_eq_some_iff_mem {ms : List (String × JsonValue)} (h : ms.Pairwise fun m n => m.1 < n.1) {name : String}
    {value : JsonValue} : ms.lookup name = some value ↔ (name, value) ∈ ms := by
  rw [List.lookup_eq_some_iff]
  constructor
  · rintro ⟨front, back, rfl, -⟩
    simp
  · intro hmem
    obtain ⟨front, back, rfl⟩ := List.append_of_mem hmem
    refine ⟨front, back, rfl, fun m hm => ?_⟩
    have hlt : m.1 < name := (List.pairwise_append.mp h).2.2 m hm _ List.mem_cons_self
    simp [ne_of_gt hlt]

/-! ## All objects of a value -/

/-- All objects of a value have their members in the order of their names, no name twice. -/
inductive Ordered : JsonValue → Prop where
  | null : Ordered .null
  | bool (b : Bool) : Ordered (.bool b)
  | number (n : JsonNumber) : Ordered (.number n)
  | string (s : String) : Ordered (.string s)
  | array {items : List JsonValue} (h : ∀ v ∈ items, Ordered v) : Ordered (.array items)
  | object {members : List (String × JsonValue)} (hsorted : members.Pairwise fun m n => m.1 < n.1)
      (h : ∀ m ∈ members, Ordered m.2) : Ordered (.object members)

/-- An object is ordered where its names ascend and its members are ordered. -/
@[simp]
theorem ordered_object_iff {members : List (String × JsonValue)} :
    (object members).Ordered ↔ (members.Pairwise fun m n => m.1 < n.1) ∧ ∀ m ∈ members, m.2.Ordered := by
  constructor
  · rintro ⟨⟩
    next hsorted h => exact ⟨hsorted, h⟩
  · exact fun h => .object h.1 h.2

/-- Making an object of members puts them in order, in whatever order they came. -/
theorem ordered_ofMembers {ms : List (String × JsonValue)} (h : ∀ m ∈ ms, m.2.Ordered) : (ofMembers ms).Ordered := by
  obtain ⟨members, hmembers, hsorted, hmem⟩ := sorted_ofMembers ms
  rw [hmembers]
  exact .object hsorted fun m hm => h m (hmem m hm)

/-- What stands in an ordered object is ordered. -/
theorem Ordered.of_get? {v w : JsonValue} {name : String} (hv : v.Ordered) (h : v.get? name = some w) : w.Ordered := by
  cases hv with
  | object hsorted hmembers =>
    obtain ⟨ms, hms, hlookup⟩ := Option.bind_eq_some_iff.mp h
    obtain rfl := Option.some.inj hms
    exact hmembers (name, w) ((lookup_eq_some_iff_mem hsorted).mp hlookup)
  | _ => cases h

end JsonValue

/-! ## Values that are read -/

namespace Json

section

-- What the parts of a value are read as, by a step less.
variable {fuel : Nat} (hvalue : ∀ depth cs v rest, value? fuel depth cs = some (v, rest) → v.Ordered)
  (hitems : ∀ depth cs vs rest, items? fuel depth cs = some (vs, rest) → ∀ v ∈ vs, v.Ordered)
  (hmembers : ∀ depth cs ms rest, members? fuel depth cs = some (ms, rest) → ∀ m ∈ ms, m.2.Ordered)

include hitems hmembers in
/-- A value that is read is ordered, given this of what it holds. -/
theorem ordered_of_value?_succ {depth : Nat} {cs : List Char} {v : JsonValue} {rest : List Char}
    (h : value? (fuel + 1) depth cs = some (v, rest)) : v.Ordered := by
  -- By the first character: a string, an array, an object, or else a word or a number.
  unfold value? at h
  split at h
  · cases h
  · obtain ⟨p, -, hp⟩ := Option.map_eq_some_iff.mp h
    obtain ⟨rfl, -⟩ := Prod.mk.inj hp
    exact .string p.1
  · split at h
    · cases h
    · split at h
      · cases h
        exact .array nofun
      · obtain ⟨p, hp, heq⟩ := Option.map_eq_some_iff.mp h
        obtain ⟨rfl, -⟩ := Prod.mk.inj heq
        exact .array (hitems _ _ _ _ hp)
  · split at h
    · cases h
    · split at h
      · cases h
        exact .object List.Pairwise.nil nofun
      · -- The members are read as they come; it is `ofMembers` that puts them in order.
        obtain ⟨p, hp, heq⟩ := Option.map_eq_some_iff.mp h
        obtain ⟨rfl, -⟩ := Prod.mk.inj heq
        exact JsonValue.ordered_ofMembers (hmembers _ _ _ _ hp)
  · -- What is left is a word or a number.
    split at h
    · obtain ⟨_, -, hp⟩ := Option.map_eq_some_iff.mp h
      cases hp
      exact .bool true
    · split at h
      · obtain ⟨_, -, hp⟩ := Option.map_eq_some_iff.mp h
        cases hp
        exact .bool false
      · split at h
        · obtain ⟨_, -, hp⟩ := Option.map_eq_some_iff.mp h
          cases hp
          exact .null
        · obtain ⟨p, -, hp⟩ := Option.map_eq_some_iff.mp h
          obtain ⟨rfl, -⟩ := Prod.mk.inj hp
          exact .number p.1

include hvalue hitems in
/-- So are the items of an array. -/
theorem ordered_of_items?_succ {depth : Nat} {cs : List Char} {vs : List JsonValue} {rest : List Char}
    (h : items? (fuel + 1) depth cs = some (vs, rest)) : ∀ v ∈ vs, v.Ordered := by
  unfold items? at h
  obtain ⟨⟨w, cs'⟩, hw, h⟩ := Option.bind_eq_some_iff.mp h
  have hfirst := hvalue _ _ _ _ hw
  dsimp only at h
  split at h
  · obtain ⟨p, hp, heq⟩ := Option.map_eq_some_iff.mp h
    obtain ⟨rfl, -⟩ := Prod.mk.inj heq
    exact List.forall_mem_cons.mpr ⟨hfirst, hitems _ _ _ _ hp⟩
  · cases h
    exact List.forall_mem_singleton.mpr hfirst
  · cases h

include hvalue hmembers in
/-- So are the members of an object. -/
theorem ordered_of_members?_succ {depth : Nat} {cs : List Char} {ms : List (String × JsonValue)} {rest : List Char}
    (h : members? (fuel + 1) depth cs = some (ms, rest)) : ∀ m ∈ ms, m.2.Ordered := by
  unfold members? at h
  split at h
  · obtain ⟨⟨name, cs'⟩, -, h⟩ := Option.bind_eq_some_iff.mp h
    dsimp only at h
    split at h
    · obtain ⟨⟨w, cs''⟩, hw, h⟩ := Option.bind_eq_some_iff.mp h
      have hfirst := hvalue _ _ _ _ hw
      dsimp only at h
      split at h
      · obtain ⟨p, hp, heq⟩ := Option.map_eq_some_iff.mp h
        obtain ⟨rfl, -⟩ := Prod.mk.inj heq
        exact List.forall_mem_cons.mpr ⟨hfirst, hmembers _ _ _ _ hp⟩
      · cases h
        exact List.forall_mem_singleton.mpr hfirst
      · cases h
    · cases h
  · cases h

end

/-- The three readers call each other, so the induction on the fuel is for all of them at once. -/
theorem ordered_of_value? (fuel : Nat) :
    (∀ depth cs v rest, value? fuel depth cs = some (v, rest) → v.Ordered) ∧
      (∀ depth cs vs rest, items? fuel depth cs = some (vs, rest) → ∀ v ∈ vs, v.Ordered) ∧
      ∀ depth cs ms rest, members? fuel depth cs = some (ms, rest) → ∀ m ∈ ms, m.2.Ordered := by
  induction fuel with
  | zero => exact ⟨nofun, nofun, nofun⟩
  | succ fuel ih =>
    obtain ⟨hvalue, hitems, hmembers⟩ := ih
    exact ⟨fun _ _ _ _ => ordered_of_value?_succ hitems hmembers, fun _ _ _ _ => ordered_of_items?_succ hvalue hitems,
      fun _ _ _ _ => ordered_of_members?_succ hvalue hmembers⟩

/-- **What is read as JSON is in order.** -/
theorem ordered_of_read? {s : String} {v : JsonValue} (h : read? s = some v) : v.Ordered := by
  obtain ⟨⟨w, rest⟩, hw, h⟩ := Option.bind_eq_some_iff.mp h
  dsimp only at h
  split at h
  · obtain rfl := Option.some.inj h
    exact (ordered_of_value? _).1 _ _ _ _ hw
  · cases h

end Json

namespace Yaml

/-- What a computation that may follow aliases makes of a list has what it makes of each item. -/
theorem forall_of_mapM {α β : Type} {p : β → Prop} {f : α → Document.Following β}
    (hf : ∀ a left b left', f a left = some (b, left') → p b) (as : List α) {left left' : Nat} {bs : List β}
    (h : as.mapM f left = some (bs, left')) : ∀ b ∈ bs, p b := by
  induction as generalizing left bs with
  | nil =>
    cases h
    exact nofun
  | cons a as ih =>
    rw [List.mapM_cons] at h
    obtain ⟨⟨b, next⟩, hb, h⟩ := Option.bind_eq_some_iff.mp h
    obtain ⟨⟨bs', last⟩, hbs, h⟩ := Option.bind_eq_some_iff.mp h
    cases h
    exact List.forall_mem_cons.mpr ⟨hf a left b next hb, ih hbs⟩

/-- A number holds nothing. -/
theorem ordered_real (r : Plain.Real) : r.value.Ordered := by
  cases r with
  | finite x => exact .number _
  | infinite => exact .null
  | undefined => exact .null

/-- Nor does an integer. -/
theorem ordered_of_integerValue? {s : String} {v : JsonValue} (h : Plain.integerValue? s = some (some v)) :
    v.Ordered := by
  unfold Plain.integerValue? at h
  split at h
  · cases h
    exact .number _
  · obtain ⟨n, -, hn⟩ := Option.map_eq_some_iff.mp h
    cases hn

/-- Nor does anything that is written without marks. -/
theorem ordered_of_plainValue? {s : String} {v : JsonValue} (h : Plain.value? s = some v) : v.Ordered := by
  unfold Plain.value? at h
  split at h
  · cases h
    exact .null
  · split at h
    · cases h
      exact .bool _
    · split at h
      next hv =>
        subst h
        exact ordered_of_integerValue? hv
      next =>
        obtain rfl := Option.some.inj h
        generalize (if Plain.hasSpareZero _ = true then none else Plain.real? _) = real
        cases real with
        | none => exact .string s
        | some r => exact ordered_real r

/-- So every scalar is ordered. -/
theorem ordered_of_scalarValue? {tag : Option Octets} {style : ScalarStyle} {s : String} {v : JsonValue}
    (h : scalarValue? tag style s = some v) : v.Ordered := by
  unfold scalarValue? at h
  split at h
  · split at h
    · exact ordered_of_plainValue? h
    · cases h
      exact .string s
  · split_ifs at h
    · obtain ⟨b, -, rfl⟩ := Option.map_eq_some_iff.mp h
      exact .bool b
    · exact ordered_of_integerValue? (Option.join_eq_some_iff.mp h)
    · obtain ⟨r, -, rfl⟩ := Option.map_eq_some_iff.mp h
      exact ordered_real r
    · cases h
      exact .null
    · cases h
      exact .string s

/-- A document that was read is ordered throughout, however its mappings were written. -/
theorem ordered_of_nodeValue (d : Document) (depth : Nat) {n : Node} {left left' : Nat} {v : JsonValue}
    (h : d.nodeValue depth n left = some (v, left')) : v.Ordered := by
  -- On the depth that is left, which is what bounds the walk through nested nodes.
  induction depth generalizing n left left' v with
  | zero =>
    unfold Document.nodeValue at h
    obtain ⟨⟨m, next⟩, -, h⟩ := Option.bind_eq_some_iff.mp h
    cases m with
    | scalar tag style s =>
      obtain ⟨w, hw, h⟩ := Option.bind_eq_some_iff.mp h
      cases h
      exact ordered_of_scalarValue? hw
    | _ => cases h
  | succ depth ih =>
    unfold Document.nodeValue at h
    obtain ⟨⟨m, next⟩, -, h⟩ := Option.bind_eq_some_iff.mp h
    cases m with
    | scalar tag style s =>
      obtain ⟨w, hw, h⟩ := Option.bind_eq_some_iff.mp h
      cases h
      exact ordered_of_scalarValue? hw
    | sequence tag items =>
      dsimp only at h
      split at h
      · cases h
      · obtain ⟨⟨vs, last⟩, hvs, h⟩ := Option.bind_eq_some_iff.mp h
        cases h
        exact .array (forall_of_mapM (fun a _ b _ hb => ih hb) items hvs)
    | mapping tag pairs =>
      dsimp only at h
      split at h
      · cases h
      · obtain ⟨⟨ms, last⟩, hms, h⟩ := Option.bind_eq_some_iff.mp h
        cases h
        -- A mapping keeps its pairs in the order of the text, so it is put in order here.
        refine JsonValue.ordered_ofMembers (forall_of_mapM (fun p _ m _ hm => ?_) pairs hms)
        obtain ⟨⟨key, mid⟩, -, hm⟩ := Option.bind_eq_some_iff.mp hm
        obtain ⟨⟨w, mid'⟩, hw, hm⟩ := Option.bind_eq_some_iff.mp hm
        cases hm
        exact ih hw
    | _ => cases h

/-- **What is read as YAML is in order.** -/
theorem ordered_of_readValue? {s : String} {v : JsonValue} (h : readValue? s = some v) : v.Ordered := by
  obtain ⟨d, -, h⟩ := Option.bind_eq_some_iff.mp h
  unfold Document.value? at h
  split at h
  · cases h
    exact .null
  · obtain ⟨⟨w, left⟩, hw, rfl⟩ := Option.map_eq_some_iff.mp h
    exact ordered_of_nodeValue d _ hw

end Yaml

end HttpService
