import HttpService.Yaml.Document

/-!
# Mappings that are read back

`Spells` says which tokens spell a node of scalars and block mappings, and `SpellsPairs` which ones spell the pairs of a
mapping and its end. Every derivation is found by the readers (`Reader.node_of_spells`), so tokens that spell a node are
a document of it.

* `Yaml.Reader.Parses` — a reader takes some tokens in front, whatever comes behind them.
* `Yaml.Reader.node_of_spells`, `Yaml.Reader.blockPairs_of_spells` — what is spelled is read.
* `Yaml.Document.ofTokens?_of_spells` — a document is the node that its tokens spell.
-/

namespace HttpService.Yaml

mutual

/-- The tokens of a node of scalars and block mappings. -/
inductive Spells : List Token → Node → Prop
  | scalar (style : ScalarStyle) (text : String) : Spells [.scalar style text] (.scalar none style text)
  | mapping {ts : List Token} {ps : List (Node × Node)} (h : SpellsPairs ts ps) :
    Spells (.blockMapping :: ts) (.mapping none ps)

/-- The tokens of the pairs of a block mapping, with its end. -/
inductive SpellsPairs : List Token → List (Node × Node) → Prop
  | nil : SpellsPairs [.blockEnd] []
  | cons {kts vts ts : List Token} {k v : Node} {ps : List (Node × Node)} (hk : Spells kts k) (hv : Spells vts v)
    (h : SpellsPairs ts ps) : SpellsPairs (.key :: kts ++ .value :: vts ++ ts) ((k, v) :: ps)

end

namespace Reader

/-- A reader that takes these tokens in front and gives `a`; all else it does is to count. -/
def Parses {α : Type} (p : Reader α) (ts : List Token) (a : α) : Prop :=
  ∀ r rest, r.tokens = ts ++ rest → ∃ size, p.run r = some (a, { r with tokens := rest, size := size })

/-- A reader that only looks at the next token. -/
def Looks {α : Type} (p : Reader α) (t : Token) (a : α) : Prop := ∀ r rest, r.tokens = t :: rest → p.run r = some (a, r)

section

variable {α β : Type} {p : Reader α} {f : α → Reader β} {t : Token} {ts ts' : List Token} {a : α} {b : β}

/-- Parsers in sequence take what is spelled in sequence. -/
theorem Parses.bind (hp : Parses p ts a) (hf : Parses (f a) ts' b) : Parses (p >>= f) (ts ++ ts') b := by
  intro r rest hr
  obtain ⟨size, hrun⟩ := hp r (ts' ++ rest) (by rw [hr, List.append_assoc])
  obtain ⟨size', hrun'⟩ := hf { r with tokens := ts' ++ rest, size := size } rest rfl
  exact ⟨size', by rw [StateT.run_bind, hrun]; exact hrun'⟩

/-- A parser that only looks leaves the token for the next one. -/
theorem Looks.bind (hp : Looks p t a) (hf : Parses (f a) (t :: ts) b) : Parses (p >>= f) (t :: ts) b := by
  intro r rest hr
  obtain ⟨size, hrun⟩ := hf r rest hr
  exact ⟨size, by rw [StateT.run_bind, hp r (ts ++ rest) hr]; exact hrun⟩

end

/-! ## Steps -/

theorem parses_pure {α : Type} (a : α) : Parses (pure a) [] a := by
  rintro r rest rfl
  exact ⟨r.size, rfl⟩

theorem parses_skip (t : Token) : Parses skip [t] () := by
  intro r rest hr
  refine ⟨r.size, ?_⟩
  have hdrop : r.tokens.drop 1 = rest := by
    rw [hr]
    rfl
  rw [← hdrop]
  rfl

/-- Counting a node takes no token. -/
theorem parses_counted (n : Nat) (node : Node) : Parses (counted n node) [] node := by
  rintro r rest rfl
  exact ⟨r.size + n, rfl⟩

theorem looks_peek (t : Token) : Looks peek t (some t) := by
  intro r rest hr
  have hhead : r.tokens.head? = some t := by
    rw [hr]
    rfl
  rw [← hhead]
  rfl

/-- Whether one of these tokens comes next is seen without taking it. -/
theorem looks_atAny (ts : List Token) (t : Token) : Looks (atAny ts) t (ts.contains t) := by
  intro r rest hr
  rw [atAny, StateT.run_bind, looks_peek t r rest hr]
  rfl

/-- What a node starts with: a scalar, or the start of a mapping. -/
def StartsNode (t : Token) : Prop := t = .blockMapping ∨ ∃ style text, t = .scalar style text

theorem looks_properties {t : Token} (h : StartsNode t) : Looks properties t (none, none) := by
  intro r rest hr
  have hpeek := looks_peek t r rest hr
  obtain rfl | ⟨style, text, rfl⟩ := h
  · simp [properties, anchor?, tag?, hpeek]
  · simp [properties, anchor?, tag?, hpeek]

theorem parses_expect (t : Token) : Parses (expect t) [t] () := by
  refine (looks_peek t).bind ?_
  rw [if_pos (beq_self_eq_true _)]
  exact parses_skip t

/-! ## Nodes -/

/-- A node starts with a scalar or with a mapping. -/
theorem exists_cons_of_spells {ts : List Token} {n : Node} (h : Spells ts n) :
    ∃ t ts', ts = t :: ts' ∧ StartsNode t := by
  cases h with
  | scalar style text => exact ⟨_, _, rfl, .inr ⟨style, text, rfl⟩⟩
  | mapping h => exact ⟨_, _, rfl, .inl rfl⟩

/-- Every node is spelled with a token at least, so fuel for the tokens is fuel for the nodes. -/
theorem length_pos_of_spells {ts : List Token} {n : Node} (h : Spells ts n) : 0 < ts.length := by
  obtain ⟨_, _, rfl, -⟩ := exists_cons_of_spells h
  exact Nat.zero_lt_succ _

theorem parses_scalar (fuel : Nat) (block bare : Bool) (style : ScalarStyle) (text : String) :
    Parses (node (fuel + 1) block bare) [.scalar style text] (.scalar none style text) := by
  rw [node]
  refine (looks_peek _).bind ?_
  refine (looks_properties (.inr ⟨style, text, rfl⟩)).bind ?_
  refine (looks_peek _).bind ?_
  exact (parses_skip _).bind (parses_counted 1 _)

/-- A mapping is what its pairs make, behind the token that opens it. -/
theorem parses_mapping {fuel : Nat} {ts : List Token} {ps : List (Node × Node)} (h : Parses (blockPairs fuel) ts ps)
    (bare : Bool) : Parses (node (fuel + 1) true bare) (.blockMapping :: ts) (.mapping none ps) := by
  rw [node]
  refine (looks_peek _).bind ?_
  refine (looks_properties (.inl rfl)).bind ?_
  refine (looks_peek _).bind ?_
  have hpairs := h.bind (f := fun pairs => counted 2 (.mapping none pairs)) (parses_counted 2 (.mapping none ps))
  rw [List.append_nil] at hpairs
  exact (parses_skip .blockMapping).bind hpairs

/-- A node that is spelled does not begin with a token that would stand for its absence. -/
theorem parses_nodeUnless {fuel : Nat} {ts : List Token} {n : Node} (hn : Spells ts n) {bare : Bool}
    (h : Parses (node fuel true bare) ts n) :
    Parses (nodeUnless (fuel + 1) [.key, .value, .blockEnd] true bare) ts n := by
  obtain ⟨t, ts', rfl, ht⟩ := exists_cons_of_spells hn
  have hmore : [Token.key, .value, .blockEnd].contains t = false := by
    obtain rfl | ⟨style, text, rfl⟩ := ht <;> rfl
  rw [nodeUnless]
  refine (looks_atAny _ _).bind ?_
  rw [hmore]
  exact h

/-- A value is the node behind its mark. -/
theorem parses_valueUnless {fuel : Nat} {ts : List Token} {n : Node} {ends : List Token}
    (h : Parses (nodeUnless fuel ends true true) ts n) :
    Parses (valueUnless (fuel + 1) ends true) (.value :: ts) n := by
  rw [valueUnless]
  refine (looks_atAny _ _).bind ?_
  exact (parses_skip .value).bind h

theorem parses_blockEnd (fuel : Nat) : Parses (blockPairs (fuel + 1)) [.blockEnd] [] := by
  rw [blockPairs]
  refine (looks_atAny _ _).bind ?_
  exact (parses_skip .blockEnd).bind (parses_pure [])

/-- A pair is a key and a value, and the other pairs follow. -/
theorem parses_pair {fuel : Nat} {kts vts ts : List Token} {k v : Node} {ps : List (Node × Node)}
    (hk : Parses (nodeUnless fuel [.key, .value, .blockEnd] true true) kts k)
    (hv : Parses (valueUnless fuel [.key, .value, .blockEnd] true) vts v) (h : Parses (blockPairs fuel) ts ps) :
    Parses (blockPairs (fuel + 1)) (.key :: kts ++ vts ++ ts) ((k, v) :: ps) := by
  have hrest := h.bind (f := fun ps => pure ((k, v) :: ps)) (parses_pure ((k, v) :: ps))
  rw [List.append_nil] at hrest
  rw [blockPairs, List.append_assoc, List.cons_append]
  refine (looks_atAny _ _).bind ?_
  exact (parses_expect .key).bind (hk.bind (hv.bind hrest))

mutual

/-- **A node that is spelled is read**, with fuel for every token of it. -/
theorem node_of_spells {ts : List Token} {n : Node} (h : Spells ts n) (fuel : Nat) (hfuel : ts.length ≤ fuel)
    (bare : Bool) : Parses (node fuel true bare) ts n := by
  cases h with
  | scalar style text =>
    obtain ⟨fuel, rfl⟩ : ∃ k, fuel = k + 1 := ⟨fuel - 1, by simp at hfuel; omega⟩
    exact parses_scalar fuel true bare style text
  | mapping h =>
    rw [List.length_cons] at hfuel
    obtain ⟨fuel, rfl⟩ : ∃ k, fuel = k + 1 := ⟨fuel - 1, by omega⟩
    exact parses_mapping (blockPairs_of_spells h fuel (by omega)) bare

/-- **Pairs that are spelled are read**, up to the end of their mapping. -/
theorem blockPairs_of_spells {ts : List Token} {ps : List (Node × Node)} (h : SpellsPairs ts ps) (fuel : Nat)
    (hfuel : ts.length ≤ fuel) : Parses (blockPairs fuel) ts ps := by
  cases h with
  | nil =>
    obtain ⟨fuel, rfl⟩ : ∃ k, fuel = k + 1 := ⟨fuel - 1, by simp at hfuel; omega⟩
    exact parses_blockEnd fuel
  | @cons kts vts ts k v ps hk hv h =>
    simp only [List.length_append, List.length_cons] at hfuel
    have hkts := length_pos_of_spells hk
    have hvts := length_pos_of_spells hv
    -- The readers on the way to a node take fuel for the tokens around it.
    obtain ⟨fuel, rfl⟩ : ∃ k, fuel = k + 3 := ⟨fuel - 3, by omega⟩
    have hkey := parses_nodeUnless hk (node_of_spells hk (fuel + 1) (by omega) true)
    have hvalue := parses_valueUnless (parses_nodeUnless hv (node_of_spells hv fuel (by omega) true))
    exact parses_pair hkey hvalue (blockPairs_of_spells h (fuel + 2) (by omega))

end

/-! ## Documents -/

theorem looks_directives {t : Token} (h : StartsNode t) (fuel : Nat) : Looks (directives (fuel + 1) false) t false := by
  intro r rest hr
  have hpeek := looks_peek t r rest hr
  obtain rfl | ⟨style, text, rfl⟩ := h
  · simp [directives, hpeek]
  · simp [directives, hpeek]

end Reader

/-- **A document is the node that its tokens spell.** -/
theorem Document.ofTokens?_of_spells {ts : List Token} {n : Node} (h : Spells ts n) :
    ∃ size, Document.ofTokens? ts = some ⟨some n, [], size⟩ := by
  obtain ⟨size, hnode⟩ := Reader.node_of_spells h (4 * ts.length + 8) (by omega) false
    ⟨ts, Reader.standardHandles, [], [], 0, 0⟩ [] (List.append_nil ts).symm
  obtain ⟨t, ts', hts, ht⟩ := Reader.exists_cons_of_spells h
  have hdirectives := Reader.looks_directives ht (4 * ts.length + 7) ⟨ts, [], [], [], 0, 0⟩ ts' hts
  have hpeek := Reader.looks_peek t ⟨ts, Reader.standardHandles, [], [], 0, 0⟩ ts' hts
  have hend : Reader.peek.run ⟨[], Reader.standardHandles, [], [], 0, size⟩ =
      some (none, ⟨[], Reader.standardHandles, [], [], 0, size⟩) := rfl
  refine ⟨size, ?_⟩
  -- No directive stands before the node, and nothing behind it.
  have hrun : Reader.document.run ⟨ts, [], [], [], 0, 0⟩ =
      some (some n, ⟨[], Reader.standardHandles, [], [], 0, size⟩) := by
    obtain rfl | ⟨style, text, rfl⟩ := ht
    · simp [Reader.document, hdirectives, hpeek, hnode, hend]
    · simp [Reader.document, hdirectives, hpeek, hnode, hend]
  rw [Document.ofTokens?, hrun]
  rfl

end HttpService.Yaml
