import HttpService.Settings.Environment
import HttpService.Proofs.Text.Counts

/-!
# Settings that the environment overrides

Each variable of the environment is for one setting. What it says is compared with the counts that a text spells
(`Decimal.Spells`): digits, at most a plus sign in front of them, and white space around.

* `Settings.readVariable?_eq_some_iff` — a variable is read exactly if its text spells a count of the setting's width.
* `Settings.overrideOne_eq`, `Settings.value_overrideAll` — one override sets its own setting or none, and a run of them
  sets those in it.
* `Settings.override_table` — all overrides: values, notices, and that a second run changes nothing.
-/

namespace HttpService

namespace Settings

variable {env : Environment}

/-! ## One variable -/

/-- The variable of a setting is set to a text that spells a count of the setting's width. -/
def Gives (env : Environment) (s : Setting) (n : Nat) : Prop :=
  ∃ raw, env s.variableName = some raw ∧ Decimal.Spells raw n ∧ n < s.bound

/-- The variable of a setting is set to a text that spells no count of the setting's width. -/
def Misgives (env : Environment) (s : Setting) (raw : String) : Prop :=
  env s.variableName = some raw ∧ ¬ ∃ n, Decimal.Spells raw n ∧ n < s.bound

/-- What is read of a variable is a number that it spells, and that the setting has room for. -/
theorem readVariable?_eq_some_iff {s : Setting} {raw : String} {n : Nat} :
    readVariable? s raw = some n ↔ Decimal.Spells raw n ∧ n < s.bound :=
  Decimal.readBelow?_trim_eq_some_iff

/-- The count that the variable of a setting gives. -/
def given? (env : Environment) (s : Setting) : Option Nat := (env s.variableName).bind (readVariable? s)

/-- The text that the variable of a setting has although it gives no count. -/
def ignored? (env : Environment) (s : Setting) : Option String :=
  (env s.variableName).filter fun raw => (readVariable? s raw).isNone

/-- A setting is given by its own variable alone. -/
theorem given?_eq_some_iff {s : Setting} {n : Nat} : given? env s = some n ↔ Gives env s n := by
  simp only [given?, Option.bind_eq_some_iff, readVariable?_eq_some_iff, Gives]

theorem given?_eq_none_iff {s : Setting} : given? env s = none ↔ ¬ ∃ n, Gives env s n := by
  simp only [← given?_eq_some_iff, ← Option.ne_none_iff_exists', ne_eq, Classical.not_not]

/-- A variable that is set to anything else is ignored, and its text kept for the notice. -/
theorem ignored?_eq_some_iff {s : Setting} {raw : String} : ignored? env s = some raw ↔ Misgives env s raw := by
  simp only [ignored?, Option.filter_eq_some_iff, Option.isNone_iff_eq_none, Option.eq_none_iff_forall_ne_some, ne_eq,
    readVariable?_eq_some_iff, Misgives, not_exists]

/-- What a variable gives fits the width of its setting, so it is set; what is ignored is told. -/
theorem overrideOne_eq (c : Settings) (s : Setting) :
    (∀ t, (overrideOne env c s).1.value t = if t = s then (given? env s).getD (c.value s) else c.value t) ∧
      (overrideOne env c s).2 = ((ignored? env s).map (.overrideIgnored s.variableName)).toList := by
  unfold overrideOne given? ignored?
  cases env s.variableName with
  | none => simp
  | some raw =>
    cases hread : readVariable? s raw with
    | none => simp [hread, Option.filter_some]
    | some n =>
      have hn : n < s.bound := (readVariable?_eq_some_iff.mp hread).2
      simp [hread, put?, hn, Option.filter_some]

/-! ## All variables -/

/-- A run of overrides sets the settings in it that are given, each to what its own variable says. -/
theorem value_overrideAll (c : Settings) (ss : List Setting) (t : Setting) :
    (overrideAll env c ss).1.value t = if t ∈ ss then (given? env t).getD (c.value t) else c.value t := by
  induction ss generalizing c with
  | nil => rfl
  | cons s ss ih =>
    rw [overrideAll, ih, (overrideOne_eq c s).1]
    by_cases hs : t = s
    · subst hs
      -- A second override of a setting says the same as the first.
      cases given? env t <;> simp
    · simp [hs]

/-- Notices come in the order of the settings, one for each variable that is ignored. -/
theorem notices_overrideAll (c : Settings) (ss : List Setting) :
    (overrideAll env c ss).2 = ss.filterMap fun s => (ignored? env s).map (.overrideIgnored s.variableName) := by
  induction ss generalizing c with
  | nil => rfl
  | cons s ss ih =>
    show (overrideOne env c s).2 ++ (overrideAll env (overrideOne env c s).1 ss).2 = _
    rw [ih, (overrideOne_eq c s).2, List.filterMap_cons]
    cases ignored? env s <;> rfl

/-- What a setting comes to depends on its own variable and on what it was. -/
theorem value_override (c : Settings) (env : Environment) (s : Setting) :
    (c.override env).1.value s = (given? env s).getD (c.value s) := by
  rw [override, value_overrideAll, if_pos (Setting.mem_all s)]

/-- Where only some of a list's members have something, the members that do are still in the order of the list. -/
theorem sublist_map_filterMap {α β : Type} (f : α → Option β) (l : List α) :
    ((l.filterMap fun a => (f a).map (a, ·)).map (·.1)).Sublist l := by
  induction l with
  | nil => exact List.Sublist.slnil
  | cons a l ih =>
    rw [List.filterMap_cons]
    cases f a with
    | none => exact ih.cons a
    | some b => exact ih.cons_cons a

/-- Each variable with the setting that it overrides. -/
def overrideTable : List (String × String) :=
  [("SIESTA_BACKLOG", "server.backlog"),
    ("SIESTA_SERVER_READ_TIMEOUT_MS", "server.read_timeout_ms"),
    ("SIESTA_SERVER_WRITE_TIMEOUT_MS", "server.write_timeout_ms"),
    ("SIESTA_SERVER_MAX_HEADER_BYTES", "server.max_header_bytes"),
    ("SIESTA_SERVER_MAX_BODY_BYTES", "server.max_body_bytes"),
    ("SIESTA_CLIENT_RESOLVE_TIMEOUT_MS", "client.resolve_timeout_ms"),
    ("SIESTA_CLIENT_CONNECT_TIMEOUT_MS", "client.connect_timeout_ms"),
    ("SIESTA_CLIENT_WRITE_TIMEOUT_MS", "client.write_timeout_ms"),
    ("SIESTA_CLIENT_READ_TIMEOUT_MS", "client.read_timeout_ms"),
    ("SIESTA_CLIENT_MAX_HEADER_BYTES", "client.max_header_bytes"),
    ("SIESTA_CLIENT_MAX_BODY_BYTES", "client.max_body_bytes")]

/-- **Overrides.** The variables are those of the table, in its order; the backlog has 32 bits and every other setting
64. A setting has the count that its variable gives, and keeps its value if the variable gives none; it is the same if
no other variable is set. There is one notice for each variable that is set to something else than a count, in the order
of the table, and a second run changes nothing. -/
theorem override_table (c : Settings) (env : Environment) :
    Setting.all.map (fun s => (s.variableName, s.part.name ++ "." ++ s.key)) = overrideTable ∧
      (∀ s : Setting, s.bound = if s = .backlog then Nat.pow 2 32 else Nat.pow 2 64) ∧
      (∀ s n, (c.override env).1.value s = n ↔ Gives env s n ∨ (¬ ∃ m, Gives env s m) ∧ c.value s = n) ∧
      (∀ s, (c.override fun name => if name = s.variableName then env name else none).1.value s =
        (c.override env).1.value s) ∧
      (∃ ignored : List (Setting × String), (ignored.map (·.1)).Sublist Setting.all ∧
        (∀ s raw, (s, raw) ∈ ignored ↔ Misgives env s raw) ∧
        (c.override env).2 = ignored.map fun p => .overrideIgnored p.1.variableName p.2) ∧
      ((c.override env).1.override env).1 = (c.override env).1 := by
  refine ⟨by decide, fun s => by cases s <;> rfl, fun s n => ?_, fun s => ?_, ?_, ?_⟩
  -- A value is the one that its variable gives, or else the one it was.
  · rw [value_override, ← given?_eq_none_iff, ← given?_eq_some_iff]
    cases given? env s <;> simp
  · simp only [value_override, given?, if_pos]
  · refine ⟨Setting.all.filterMap fun s => (ignored? env s).map (s, ·), sublist_map_filterMap _ _, fun s raw => ?_, ?_⟩
    · rw [← ignored?_eq_some_iff, List.mem_filterMap]
      constructor
      · rintro ⟨t, -, ht⟩
        obtain ⟨raw', hraw, hpair⟩ := Option.map_eq_some_iff.mp ht
        obtain ⟨rfl, rfl⟩ := Prod.mk.inj hpair
        exact hraw
      · exact fun h => ⟨s, Setting.mem_all s, by rw [h]; rfl⟩
    · rw [override, notices_overrideAll, List.map_filterMap]
      simp only [Option.map_map]
      rfl
  · refine Settings.ext fun s => ?_
    rw [value_override, value_override]
    cases given? env s <;> rfl

end Settings

end HttpService
