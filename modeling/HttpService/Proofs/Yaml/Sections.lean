import HttpService.Proofs.Yaml.Mappings
import HttpService.Proofs.Yaml.Outline

/-!
# Documents of sections

A section is a name with fields below it, two columns deeper. A text of sections is read as the mapping that it shows:
each name with the mapping of its fields, in the order of the text.

* `Yaml.Section.outline_lines` — the lines of sections are an outline.
* `Yaml.Section.spells_layout` — their tokens spell the mapping.
* `Yaml.Document.read?_sections` — the text is a document of it.
-/

namespace HttpService.Yaml

/-- A name with fields below it, each a key with its value. -/
structure Section where
  name : List Char
  fields : List (List Char × List Char)

/-- A plain scalar. -/
def Node.plain (cs : List Char) : Node := .scalar none .plain (String.ofList cs)

namespace Section

/-- The line of a field. -/
def fieldLine (f : List Char × List Char) : Line := ⟨2, f.1, some f.2⟩

/-- The lines of a section: its name, then its fields. -/
def lines (s : Section) : List Line := ⟨0, s.name, none⟩ :: s.fields.map fieldLine

/-- What a section is read as. -/
def pair (s : Section) : Node × Node :=
  (.plain s.name, .mapping none (s.fields.map fun f => (.plain f.1, .plain f.2)))

/-- A section of bare words that has a field. -/
structure Sound (s : Section) : Prop where
  header : Line.Sound ⟨0, s.name, none⟩
  fields : ∀ f ∈ s.fields, (fieldLine f).Sound
  nonempty : s.fields ≠ []

/-! ## Lines -/

/-- Nothing in a text of sections is deeper than a field. -/
theorem depth_le {s : Section} {l : Line} (h : l ∈ s.lines) : l.depth ≤ 2 := by
  obtain rfl | h := List.mem_cons.mp h
  · exact Nat.zero_le 2
  · obtain ⟨f, -, rfl⟩ := List.mem_map.mp h
    exact Nat.le_refl 2

/-- **The lines of sections are an outline.** -/
theorem outline_lines {ss : List Section} (h : ∀ s ∈ ss, s.Sound) : Outline (ss.flatMap lines) := by
  induction ss with
  | nil => exact .nil
  | cons s ss ih =>
    obtain ⟨hs, hss⟩ := List.forall_mem_cons.mp h
    -- The fields of a section stand deeper than its name, and what follows them begins further out.
    have hfields : ∀ fs : List (List Char × List Char), (∀ f ∈ fs, (fieldLine f).Sound) →
        Outline (fs.map fieldLine ++ ss.flatMap lines) := by
      intro fs hfs
      induction fs with
      | nil => exact ih hss
      | cons f fs ihf =>
        obtain ⟨hf, hfs⟩ := List.forall_mem_cons.mp hfs
        refine .cons hf (fun l hl _ => ?_) (ihf hfs)
        obtain hl | hl := List.mem_append.mp (List.mem_of_mem_head? hl)
        · obtain ⟨f', -, rfl⟩ := List.mem_map.mp hl
          exact Nat.le_refl 2
        · obtain ⟨s', -, hl⟩ := List.mem_flatMap.mp hl
          exact depth_le hl
    exact .cons hs.header nofun (hfields s.fields hs.fields)

/-! ## Tokens -/

/-- The tokens of a field. -/
def fieldTokens (f : List Char × List Char) : List Token :=
  [.key, .scalar .plain (String.ofList f.1), .value, .scalar .plain (String.ofList f.2)]

/-- Fields at one depth open and close nothing. -/
theorem layout_fields (fs : List (List Char × List Char)) (ls : List Line) :
    layout [3, 1] (fs.map fieldLine ++ ls) = fs.flatMap fieldTokens ++ layout [3, 1] ls := by
  induction fs with
  | nil => rfl
  | cons f fs ih =>
    have hline : layout [3, 1] (fieldLine f :: (fs.map fieldLine ++ ls)) =
        fieldTokens f ++ layout [3, 1] (fs.map fieldLine ++ ls) := rfl
    rw [List.map_cons, List.cons_append, hline, ih, List.flatMap_cons, List.append_assoc]

/-- The tokens of some fields, up to the end of their block, spell the pairs that they are. -/
theorem spells_fields (fs : List (List Char × List Char)) :
    SpellsPairs (fs.flatMap fieldTokens ++ [.blockEnd]) (fs.map fun f => (.plain f.1, .plain f.2)) := by
  induction fs with
  | nil => exact .nil
  | cons f fs ih =>
    rw [List.flatMap_cons, List.append_assoc]
    exact .cons (.scalar .plain (String.ofList f.1)) (.scalar .plain (String.ofList f.2)) ih

/-- Behind the fields of another section, the next one ends them first. -/
theorem exists_layout {ss : List Section} (h : ∀ s ∈ ss, s.fields ≠ []) :
    ∃ ts, layout [3, 1] (ss.flatMap lines) = .blockEnd :: ts ∧ SpellsPairs ts (ss.map pair) := by
  induction ss with
  | nil => exact ⟨[.blockEnd], rfl, .nil⟩
  | cons s ss ih =>
    obtain ⟨hs, hss⟩ := List.forall_mem_cons.mp h
    obtain ⟨ts, hlayout, hspells⟩ := ih hss
    obtain ⟨name, fields⟩ := s
    cases fields with
    | nil => exact absurd rfl hs
    | cons f fs =>
      -- The first field opens the mapping of the section.
      have hheader : layout [3, 1] (lines ⟨name, f :: fs⟩ ++ ss.flatMap lines) =
          .blockEnd :: .key :: .scalar .plain (String.ofList name) :: .value :: .blockMapping ::
            (fieldTokens f ++ layout [3, 1] (fs.map fieldLine ++ ss.flatMap lines)) := rfl
      have hpair := SpellsPairs.cons (.scalar .plain (String.ofList name)) (.mapping (spells_fields (f :: fs))) hspells
      refine ⟨_, ?_, hpair⟩
      rw [List.flatMap_cons, hheader, layout_fields, hlayout]
      simp

/-- **The tokens of sections spell their mapping.** -/
theorem spells_layout {ss : List Section} (hne : ss ≠ []) (h : ∀ s ∈ ss, s.fields ≠ []) :
    Spells (layout [] (ss.flatMap lines)) (.mapping none (ss.map pair)) := by
  obtain ⟨ts, hlayout, hspells⟩ := exists_layout h
  cases ss with
  | nil => exact absurd rfl hne
  | cons s ss =>
    -- What the first name closes elsewhere it opens here.
    have hfirst : layout [3, 1] ((s :: ss).flatMap lines) =
        .blockEnd :: (layout [] ((s :: ss).flatMap lines)).tail := rfl
    have hopen : layout [] ((s :: ss).flatMap lines) =
        .blockMapping :: (layout [] ((s :: ss).flatMap lines)).tail := rfl
    rw [hopen]
    rw [hfirst] at hlayout
    exact .mapping ((List.cons.inj hlayout).2 ▸ hspells)

end Section

/-- **A text of sections is a document of their mapping.** -/
theorem Document.read?_sections {ss : List Section} (hne : ss ≠ []) (h : ∀ s ∈ ss, s.Sound) :
    ∃ size, Document.read? (String.ofList ((ss.flatMap Section.lines).flatMap Line.chars)) =
      some ⟨some (.mapping none (ss.map Section.pair)), [], size⟩ := by
  have htokens := tokens_outline (Section.outline_lines h)
  obtain ⟨size, hread⟩ := ofTokens?_of_spells (Section.spells_layout hne fun s hs => (h s hs).nonempty)
  refine ⟨size, ?_⟩
  obtain ⟨cells, hcells, hcut⟩ := Option.bind_eq_some_iff.mp htokens
  rw [Document.read?, hcells, Option.bind_eq_bind, Option.bind_some, hcut, Option.bind_eq_bind, Option.bind_some, hread]

end HttpService.Yaml
