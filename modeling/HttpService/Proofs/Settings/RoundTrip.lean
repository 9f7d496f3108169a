import HttpService.Proofs.Text.Counts
import HttpService.Proofs.Yaml.Counts
import HttpService.Proofs.Yaml.Sections
import HttpService.Settings.Document

/-!
# Settings are read back from their document

The document of some settings has a section for each part that keeps one. It is read as a mapping of mappings, and what
is left out of it keeps its standard value.

* `Settings.toList_writeSome` — what is written is a text of sections.
* `Settings.readPairs_map` — pairs with keys of their own are read one after the other.
* `Settings.read_writeSome` — the settings that were written are read, and no others.
* `Settings.read_remaining` — the same for any lines that are left of the whole document.
-/

namespace HttpService.Settings

open Yaml (Node Document Section)

/-! ## Writing -/

/-- The settings of a part among some. -/
def ofPart (ss : List Setting) (p : Part) : List Setting := ss.filter fun s => decide (s.part = p)

/-- A line of a document: the name of a part, or a setting. -/
inductive Line where
  | name (p : Part)
  | setting (s : Setting)

namespace Line

/-- A line as text. -/
def text (c : Settings) : Line → String
  | .name p => p.name ++ ":\n"
  | .setting s => "  " ++ s.key ++ ": " ++ Decimal.text (c.value s) ++ "\n"

/-- The lines of a part with some settings; none if none of them is of the part. -/
def ofPart (ss : List Setting) (p : Part) : List Line :=
  if (Settings.ofPart ss p).isEmpty then [] else .name p :: (Settings.ofPart ss p).map .setting

end Line

theorem partText_eq_join (c : Settings) (ss : List Setting) (p : Part) :
    partText c ss p = String.join ((Line.ofPart ss p).map (Line.text c)) := by
  unfold partText Line.ofPart ofPart
  split
  next h => rw [h]; rfl
  next hne =>
    rw [if_neg (by simpa using hne), List.map_cons, String.join_cons, List.map_map]
    rfl

/-- The document of some settings is the text of their lines. -/
theorem writeSome_eq_join (c : Settings) (ss : List Setting) :
    c.writeSome ss = String.join (([Part.server, .client].flatMap (Line.ofPart ss)).map (Line.text c)) := by
  simp only [writeSome, partText_eq_join, List.flatMap_cons, List.flatMap_nil, List.append_nil, List.map_append,
    String.join_append]

example : standard.writeSome [.backlog, .clientReadTimeout] =
    "server:\n  backlog: 64\nclient:\n  read_timeout_ms: 30000\n" := by decide

/-- The field of a setting: its key with its count. -/
def field (c : Settings) (s : Setting) : List Char × List Char := (s.key.toList, Decimal.digits (c.value s))

/-- The section of a part with some settings. -/
def sectionOf (c : Settings) (ss : List Setting) (p : Part) : Section := ⟨p.name.toList, (ofPart ss p).map (field c)⟩

/-- The parts that have some of the settings. -/
def partsOf (ss : List Setting) : List Part := [Part.server, .client].filter fun p => !(ofPart ss p).isEmpty

/-- The sections of some settings. -/
def sections (c : Settings) (ss : List Setting) : List Section := (partsOf ss).map (sectionOf c ss)

theorem toList_text_setting (c : Settings) (s : Setting) :
    (Line.text c (.setting s)).toList = (Section.fieldLine (field c s)).chars := by
  simp [Line.text, Decimal.text, Section.fieldLine, field, Yaml.Line.chars, Yaml.Line.content, List.replicate]

theorem toList_text_name (c : Settings) (p : Part) :
    (Line.text c (.name p)).toList = Yaml.Line.chars ⟨0, p.name.toList, none⟩ := by
  simp [Line.text, Yaml.Line.chars, Yaml.Line.content]

/-- A part without settings is left out of the text, name and all, since a name without fields could not be read back.
-/
theorem flatMap_text (c : Settings) (ss : List Setting) (p : Part) :
    (Line.ofPart ss p).flatMap (fun l => (l.text c).toList) =
      if (ofPart ss p).isEmpty then [] else (sectionOf c ss p).lines.flatMap Yaml.Line.chars := by
  rw [Line.ofPart]
  split
  next => rfl
  next =>
    rw [List.flatMap_cons, toList_text_name, sectionOf, Section.lines, List.flatMap_cons]
    simp only [List.flatMap_map, toList_text_setting]

/-- **What is written is a text of sections.** -/
theorem toList_writeSome (c : Settings) (ss : List Setting) :
    (c.writeSome ss).toList = ((sections c ss).flatMap Section.lines).flatMap Yaml.Line.chars := by
  rw [writeSome_eq_join, String.toList_join, List.flatMap_map, List.flatMap_assoc]
  simp only [flatMap_text]
  rw [sections, partsOf]
  -- Each of the two parts has some of the settings or none.
  by_cases hserver : ofPart ss .server = [] <;> by_cases hclient : ofPart ss .client = [] <;>
    simp [hserver, hclient]

/-- A number can be written without marks. -/
theorem bare_digits (n : Nat) : Yaml.Bare (Decimal.digits n) :=
  ⟨Nat.toDigits_ne_nil, fun _ hc => Yaml.isBare_of_isDigit (Decimal.isDigit_of_mem_digits hc)⟩

/-- A part that is written has a field at least. -/
theorem sound_sectionOf (c : Settings) {ss : List Setting} {p : Part} (h : ofPart ss p ≠ []) :
    (sectionOf c ss p).Sound where
  header := by
    have hname : Yaml.Bare p.name.toList ∧ p.name.toList.length ≤ Yaml.keyReach := by cases p <;> decide
    exact ⟨hname.1, hname.2, nofun⟩
  fields := by
    intro f hf
    obtain ⟨s, -, rfl⟩ := List.mem_map.mp hf
    have hkey : Yaml.Bare s.key.toList ∧ s.key.toList.length ≤ Yaml.keyReach := by cases s <;> decide
    refine ⟨hkey.1, hkey.2, ?_⟩
    rintro _ ⟨⟩
    exact bare_digits (c.value s)
  nonempty := fun hnil => h (List.map_eq_nil_iff.mp hnil)

/-! ## Reading -/

section

variable {α σ : Type} [DecidableEq α] {d : Document} {known : String → Option α} {read : α → Node → σ → Option σ}

/-- **Pairs with keys of their own are read one after the other.** -/
theorem readPairs_map {name : α → List Char} {node : α → Node} {step : σ → α → σ} {as seen : List α}
    (hknown : ∀ a ∈ as, known (String.ofList (name a)) = some a)
    (hread : ∀ a ∈ as, ∀ state, read a (node a) state = some (step state a)) (hnodup : as.Nodup)
    (hseen : ∀ a ∈ as, a ∉ seen) (state : σ) :
    readPairs d known read seen state (as.map fun a => (.plain (name a), node a)) = some (as.foldl step state) := by
  induction as generalizing seen state with
  | nil => rfl
  | cons a as ih =>
    obtain ⟨ha, has⟩ := List.nodup_cons.mp hnodup
    obtain ⟨hfirst, hrest⟩ := List.forall_mem_cons.mp hseen
    have hkey : key? d (.plain (name a)) = some (String.ofList (name a)) := rfl
    have hnew : seen.contains a = false := by simpa using hfirst
    -- The rest has no key that is seen by now.
    have hunseen : ∀ b ∈ as, b ∉ a :: seen := fun b hb hmem =>
      (List.mem_cons.mp hmem).elim (fun hab => ha (hab ▸ hb)) (hrest b hb)
    have htail := ih (fun b hb => hknown b (List.mem_cons_of_mem a hb))
      (fun b hb => hread b (List.mem_cons_of_mem a hb)) has hunseen (step state a)
    rw [List.map_cons, readPairs]
    simp only [hkey, Option.bind_eq_bind, Option.bind_some, hknown a List.mem_cons_self, hnew,
      hread a List.mem_cons_self state, Bool.false_eq_true, if_false, htail, List.foldl_cons]

end

/-- Sets a setting to its value among others. -/
def setFrom (c acc : Settings) (s : Setting) : Settings := acc.set s (c.value s) (c.fits s)

/-- A field that is read sets what was written. -/
theorem readSetting_plain (c : Settings) (d : Document) (s : Setting) (acc : Settings) :
    readSetting d s (.plain (field c s).2) acc = some (setFrom c acc s) := by
  have hcount : count? d s (.plain (field c s).2) = some (c.value s) := by
    have hread := Yaml.Plain.unsigned?_digits (c.fits s)
    rw [← String.toList_ofList (l := Decimal.digits (c.value s))] at hread
    exact hread
  rw [readSetting, hcount, Option.bind_eq_bind, Option.bind_some, put?, dif_pos (c.fits s), setFrom]

/-- The fields of a part are read one by one, and no setting has two. -/
theorem readPart_sectionOf (c : Settings) (d : Document) {ss : List Setting} (hss : ss.Nodup) (p : Part)
    (acc : Settings) : readPart d p (sectionOf c ss p).pair.2 acc = some ((ofPart ss p).foldl (setFrom c) acc) := by
  have hpairs : pairs? d (sectionOf c ss p).pair.2 =
      some ((ofPart ss p).map fun s => (.plain s.key.toList, .plain (field c s).2)) :=
    congrArg some List.map_map
  have hknown : ∀ s ∈ ofPart ss p, Setting.find? p (String.ofList s.key.toList) = some s := by
    intro s hs
    obtain rfl := of_decide_eq_true (List.mem_filter.mp hs).2
    rw [String.ofList_toList]
    exact Setting.find?_key s
  rw [readPart, hpairs]
  exact readPairs_map hknown (fun s _ acc => readSetting_plain c d s acc) (hss.filter _) (fun _ _ => List.not_mem_nil)
    acc

/-- A run of such steps sets what is in it. -/
theorem value_foldl_setFrom (c acc : Settings) (ss : List Setting) (t : Setting) :
    (ss.foldl (setFrom c) acc).value t = if t ∈ ss then c.value t else acc.value t := by
  induction ss generalizing acc with
  | nil => rfl
  | cons s ss ih =>
    rw [List.foldl_cons, ih, setFrom, value_set]
    by_cases hts : t = s
    · subst hts
      simp
    · simp [hts]

/-- The settings with the values of some of them; the others have their standard values. -/
def keeping (c : Settings) (keep : Setting → Bool) : Settings where
  value s := if keep s then c.value s else s.standard
  fits s := by
    split
    next => exact c.fits s
    next => exact Setting.standard_lt_bound s

/-- The parts that are written are those with a setting to keep. -/
theorem mem_partsOf {ss : List Setting} {p : Part} : p ∈ partsOf ss ↔ ofPart ss p ≠ [] := by
  rw [partsOf, List.mem_filter, Bool.not_eq_true', List.isEmpty_eq_false_iff]
  exact and_iff_right (by cases p <;> decide)

/-- Going through the parts goes through the settings, each of which is in one part. -/
theorem mem_flatMap_partsOf {ss : List Setting} {s : Setting} : s ∈ (partsOf ss).flatMap (ofPart ss) ↔ s ∈ ss := by
  rw [List.mem_flatMap]
  constructor
  · rintro ⟨p, -, hs⟩
    exact (List.mem_filter.mp hs).1
  · intro hs
    have hpart : s ∈ ofPart ss s.part := List.mem_filter.mpr ⟨hs, decide_eq_true rfl⟩
    exact ⟨s.part, mem_partsOf.mpr (List.ne_nil_of_mem hpart), hpart⟩

/-- The sections of some settings are read as these settings. -/
theorem ofDocument?_sections (c : Settings) {ss : List Setting} (hss : ss.Nodup) {d : Document}
    (hroot : d.root = some (.mapping none ((sections c ss).map Section.pair))) :
    ofDocument? d = some (c.keeping fun s => decide (s ∈ ss)) := by
  have hpairs : pairs? d (.mapping none ((sections c ss).map Section.pair)) =
      some ((partsOf ss).map fun p => (.plain p.name.toList, (sectionOf c ss p).pair.2)) :=
    congrArg some List.map_map
  -- The names of parts are found again, since they are written as they are looked for.
  have hknown : ∀ p ∈ partsOf ss, findPart? (String.ofList p.name.toList) = some p := by
    intro p _
    cases p <;> decide
  have hboth : [Part.server, .client].Nodup := by decide
  have hread := readPairs_map (d := d) hknown (fun p _ acc => readPart_sectionOf c d hss p acc) (hboth.filter _)
    (fun _ _ => List.not_mem_nil) standard
  -- Reading part by part sets the same fields as going through all of them.
  have hall : (partsOf ss).foldl (fun acc p => (ofPart ss p).foldl (setFrom c) acc) standard =
      c.keeping fun s => decide (s ∈ ss) := by
    rw [← List.foldl_flatMap]
    refine ext fun s => ?_
    simp only [value_foldl_setFrom, mem_flatMap_partsOf, keeping, decide_eq_true_eq]
    rfl
  rw [← hall, ofDocument?, hroot]
  simp only [hpairs, Option.bind_eq_bind, Option.bind_some, hread]

/-- **What was written is read**: some settings have the values that were written, all others their standard values. -/
theorem read_writeSome (c : Settings) {ss : List Setting} (hss : ss.Nodup) :
    read (c.writeSome ss) = .ok (c.keeping fun s => decide (s ∈ ss)) := by
  cases hparts : partsOf ss with
  | nil =>
    have hnil : ss = [] := List.eq_nil_iff_forall_not_mem.mpr fun s hs => by
      have hs := mem_flatMap_partsOf.mpr hs
      rw [hparts] at hs
      exact List.not_mem_nil hs
    subst hnil
    exact congrArg Except.ok (ext fun _ => rfl)
  | cons p ps =>
    have hp : p ∈ partsOf ss := hparts ▸ List.mem_cons_self
    have htext : c.writeSome ss = String.ofList (((sections c ss).flatMap Section.lines).flatMap Yaml.Line.chars) := by
      rw [← toList_writeSome, String.ofList_toList]
    have hsound : ∀ s ∈ sections c ss, s.Sound := by
      intro s hs
      obtain ⟨q, hq, rfl⟩ := List.mem_map.mp hs
      exact sound_sectionOf c (mem_partsOf.mp hq)
    have hne : sections c ss ≠ [] := List.ne_nil_of_mem (List.mem_map_of_mem hp)
    obtain ⟨size, hdocument⟩ := Document.read?_sections hne hsound
    -- The colon behind a name keeps the text from being blank.
    have hcolon : ':' ∈ (c.writeSome ss).toList := by
      rw [toList_writeSome, List.mem_flatMap]
      refine ⟨⟨0, p.name.toList, none⟩, List.mem_flatMap.mpr ⟨sectionOf c ss p, List.mem_map_of_mem hp, ?_⟩, ?_⟩
      · exact List.mem_cons_self
      · simp [Yaml.Line.chars, Yaml.Line.content]
    rw [read, if_neg (Text.trim_ne_empty hcolon (by decide)), htext, hdocument, Option.bind_some,
      ofDocument?_sections c hss rfl]
    rfl

/-! ## Lines that are left -/

namespace Line

/-- The lines of the whole document. -/
def all : List Line := [Part.server, .client].flatMap fun p => .name p :: (Settings.ofPart Setting.all p).map .setting

/-- Whether a line is left where only some settings are. The name of a part goes with the last of its settings. -/
def remains (keep : Setting → Bool) : Line → Bool
  | .name p => (Settings.ofPart Setting.all p).any keep
  | .setting s => keep s

/-- The lines that are left are those of the settings that are. -/
theorem filter_remains (keep : Setting → Bool) :
    all.filter (remains keep) = [Part.server, .client].flatMap (ofPart (Setting.all.filter keep)) := by
  -- Part by part: the name stays with the first setting that is kept, and leaves with the last.
  have hpart (p : Part) : (Line.name p :: (Settings.ofPart Setting.all p).map .setting).filter (remains keep) =
      ofPart (Setting.all.filter keep) p := by
    have hkept : Settings.ofPart (Setting.all.filter keep) p = (Settings.ofPart Setting.all p).filter keep := by
      simp only [Settings.ofPart, List.filter_filter, Bool.and_comm]
    have hsettings : ((Settings.ofPart Setting.all p).map Line.setting).filter (remains keep) =
        ((Settings.ofPart Setting.all p).filter keep).map Line.setting := List.filter_map
    have hname : remains keep (.name p) = !((Settings.ofPart Setting.all p).filter keep).isEmpty := by
      rw [remains, Bool.eq_iff_iff, List.any_eq_true, Bool.not_eq_true', List.isEmpty_eq_false_iff_exists_mem]
      simp only [List.mem_filter]
    rw [ofPart, hkept, List.filter_cons, hsettings, hname]
    cases hempty : ((Settings.ofPart Setting.all p).filter keep).isEmpty with
    | true =>
      rw [List.isEmpty_iff.mp hempty]
      rfl
    | false => rfl
  simp only [all, List.filter_flatMap, hpart]

end Line

/-- The lines that are left of the whole document. -/
def remaining (c : Settings) (keep : Setting → Bool) : String :=
  String.join ((Line.all.filter (Line.remains keep)).map (Line.text c))

/-- **Round trip.** The whole document is read as the settings it was written from. Any of its lines may be left out, as
long as the name of a part goes where none of its settings is left: the settings that are left have their values, all
others their standard values. -/
theorem read_remaining (c : Settings) :
    c.write = String.join (Line.all.map (Line.text c)) ∧ read c.write = .ok c ∧
      ∀ keep : Setting → Bool, ∃ c', read (c.remaining keep) = .ok c' ∧
        ∀ s, c'.value s = if keep s then c.value s else s.standard := by
  refine ⟨?_, ?_, fun keep => ⟨c.keeping keep, ?_, fun _ => rfl⟩⟩
  · rw [write, writeSome_eq_join]
    rfl
  · rw [write, read_writeSome c Setting.nodup_all]
    refine congrArg Except.ok (ext fun s => ?_)
    simp only [keeping, Setting.mem_all, decide_true, if_true]
  · rw [remaining, Line.filter_remains, ← writeSome_eq_join, read_writeSome c (Setting.nodup_all.filter _)]
    refine congrArg Except.ok (ext fun s => ?_)
    simp only [keeping, List.mem_filter, Setting.mem_all, true_and, Bool.decide_eq_true]

end HttpService.Settings
