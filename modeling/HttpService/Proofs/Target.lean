import HttpService.Target

/-!
# Targets of a path are read as they are written

A request line carries path and query. For a target that names nothing else, that is the whole target.

* `Target.parsePath_spelling` — path and query are read back from the way they are spelled.
* `Target.Parsed`, `Target.parsed_of_parse` — the ways in which a text is read as a target.
* `Target.eq_ofPath_of_slash` — a target whose text begins with a slash names neither scheme nor authority.
* `Target.parse_requestText` — so what a request line carries of it is its text, and reads as the target.
-/

namespace HttpService.Target

/-! ## Results -/

theorem exists_of_bind_eq_ok {ε α β : Type} {x : Except ε α} {f : α → Except ε β} {b : β}
    (h : (x >>= f) = .ok b) : ∃ a, x = .ok a ∧ f a = .ok b := by
  cases x with
  | error e => cases h
  | ok a => exact ⟨a, rfl, h⟩

theorem exists_of_map_eq_ok {ε α β : Type} {x : Except ε α} {f : α → β} {b : β}
    (h : f <$> x = .ok b) : ∃ a, x = .ok a ∧ f a = b := by
  cases x with
  | error e => cases h
  | ok a => exact ⟨a, rfl, Except.ok.inj h⟩

/-! ## Paths and queries -/

/-- Path and query as they are spelled. -/
def spelling (path : List Char) (query : Option (List Char)) : List Char :=
  path ++ query.elim [] ('?' :: ·)

/-- A query ends where a fragment would begin. -/
theorem not_hash_of_isQueryChar {c : Char} (h : isQueryChar c = true) : c ≠ '#' := by
  rintro rfl
  cases h

/-- A path ends where a query or a fragment would begin. -/
theorem not_mark_of_isPathChar {c : Char} (h : isPathChar c = true) : c ≠ '#' ∧ c ≠ '?' := by
  constructor
  · rintro rfl
    cases h
  · rintro rfl
    cases h

theorem parseQuery_of_all {q : List Char} (h : ∀ c ∈ q, isQueryChar c = true) : parseQuery q = .ok q := by
  induction q with
  | nil => rfl
  | cons c q ih =>
    have hc := h c List.mem_cons_self
    have hrest := ih fun d hd => h d (List.mem_cons_of_mem c hd)
    rw [parseQuery, if_neg (by simpa using not_hash_of_isQueryChar hc), if_pos hc, hrest]
    rfl

/-- A query that was read is a beginning of the text, in characters of a query. -/
theorem parseQuery_eq_ok {cs q : List Char} (h : parseQuery cs = .ok q) :
    (∀ c ∈ q, isQueryChar c = true) ∧ q <+: cs := by
  induction cs generalizing q with
  | nil =>
    obtain rfl := Except.ok.inj h
    exact ⟨by simp, List.prefix_rfl⟩
  | cons c cs ih =>
    rw [parseQuery] at h
    split at h
    · obtain rfl := Except.ok.inj h
      exact ⟨by simp, List.nil_prefix⟩
    · split at h
      next hc =>
        obtain ⟨q', hrest, rfl⟩ := exists_of_map_eq_ok h
        obtain ⟨hall, hprefix⟩ := ih hrest
        exact ⟨List.forall_mem_cons.mpr ⟨hc, hall⟩, (List.prefix_cons_inj c).mpr hprefix⟩
      · cases h

/-- A path and a query that were written one behind the other are told apart by the first question mark. -/
theorem parsePath_spelling {p : List Char} {q : Option (List Char)} (hp : ∀ c ∈ p, isPathChar c = true)
    (hq : ∀ q' ∈ q, ∀ c ∈ q', isQueryChar c = true) : parsePath (spelling p q) = .ok (p, q) := by
  -- Over the path, of which no character is a mark, up to the mark that begins the query.
  induction p with
  | nil =>
    cases q with
    | none => rfl
    | some q' =>
      show parsePath ('?' :: q') = _
      rw [parsePath, if_neg (by decide), if_pos (by decide), parseQuery_of_all (hq q' rfl)]
      rfl
  | cons c p ih =>
    have hc := hp c List.mem_cons_self
    obtain ⟨hhash, hmark⟩ := not_mark_of_isPathChar hc
    show parsePath (c :: spelling p q) = _
    rw [parsePath, if_neg (by simpa using hhash), if_neg (by simpa using hmark), if_pos hc,
      ih fun d hd => hp d (List.mem_cons_of_mem c hd)]
    rfl

/-- What was read of a text is spelled at its beginning. -/
theorem parsePath_eq_ok {cs p : List Char} {q : Option (List Char)} (h : parsePath cs = .ok (p, q)) :
    (∀ c ∈ p, isPathChar c = true) ∧ (∀ q' ∈ q, ∀ c ∈ q', isQueryChar c = true) ∧ spelling p q <+: cs := by
  -- Character by character: a fragment ends the path, a question mark begins the query, and a path character goes on.
  induction cs generalizing p q with
  | nil =>
    obtain ⟨rfl, rfl⟩ := Prod.mk.inj (Except.ok.inj h)
    exact ⟨by simp, by simp, List.prefix_rfl⟩
  | cons c cs ih =>
    rw [parsePath] at h
    split at h
    · obtain ⟨rfl, rfl⟩ := Prod.mk.inj (Except.ok.inj h)
      exact ⟨by simp, by simp, List.nil_prefix⟩
    · split at h
      next hmark =>
        obtain rfl := eq_of_beq hmark
        obtain ⟨q', hquery, hread⟩ := exists_of_map_eq_ok h
        obtain ⟨rfl, rfl⟩ := Prod.mk.inj hread
        obtain ⟨hall, hprefix⟩ := parseQuery_eq_ok hquery
        refine ⟨by simp, ?_, (List.prefix_cons_inj '?').mpr hprefix⟩
        intro q'' hq''
        obtain rfl := Option.some.inj hq''
        exact hall
      · split at h
        next hc =>
          obtain ⟨⟨p', q'⟩, hrest, hread⟩ := exists_of_map_eq_ok h
          obtain ⟨rfl, rfl⟩ := Prod.mk.inj hread
          obtain ⟨hpath, hquery, hprefix⟩ := ih hrest
          exact ⟨List.forall_mem_cons.mpr ⟨hc, hpath⟩, hquery, (List.prefix_cons_inj c).mpr hprefix⟩
        · cases h

/-! ## How a target is read -/

/-- What follows the scheme is the end of the text, and without a scheme all of it. -/
theorem suffix_of_splitScheme {cs rest : List Char} {s : Option Scheme} (h : splitScheme cs = .ok (s, rest)) :
    rest <:+ cs ∧ (s = none → rest = cs) := by
  -- The two known schemes, then any other in front of a colon and two slashes, then none.
  unfold splitScheme at h
  split at h
  · obtain ⟨rfl, rfl⟩ := Prod.mk.inj (Except.ok.inj h)
    exact ⟨List.drop_suffix 7 cs, fun hnone => by cases hnone⟩
  · split at h
    · obtain ⟨rfl, rfl⟩ := Prod.mk.inj (Except.ok.inj h)
      exact ⟨List.drop_suffix 8 cs, fun hnone => by cases hnone⟩
    · simp only at h
      split at h
      next rest' hbehind =>
        split at h
        · obtain ⟨rfl, rfl⟩ := Prod.mk.inj (Except.ok.inj h)
          exact ⟨List.suffix_rfl, fun _ => rfl⟩
        · split at h
          · cases h
          · obtain ⟨rfl, rfl⟩ := Prod.mk.inj (Except.ok.inj h)
            refine ⟨List.IsSuffix.trans ?_ (List.dropWhile_suffix isSchemeChar), fun hnone => by cases hnone⟩
            rw [hbehind]
            exact List.suffix_append [':', '/', '/'] _
      next =>
        obtain ⟨rfl, rfl⟩ := Prod.mk.inj (Except.ok.inj h)
        exact ⟨List.suffix_rfl, fun _ => rfl⟩

/-- The ways in which characters are read as a target. -/
inductive Parsed (cs : List Char) : Target → Prop where
  | star : Parsed cs (ofPath ⟨"*", none⟩)
  | path {p rest : List Char} {q : Option (List Char)} (hchars : cs = '/' :: rest) (hread : parsePath cs = .ok (p, q)) :
      Parsed cs (ofPath ⟨String.ofList p, q.map String.ofList⟩)
  | authority {front : List Char} (hne : cs ≠ []) (hsplit : splitAuthority cs = .ok (front, [])) :
      Parsed cs ⟨none, String.ofList front, ⟨"", none⟩⟩
  | address {s : Scheme} {after front rest p : List Char} {q : Option (List Char)}
      (hscheme : splitScheme cs = .ok (some s, after)) (hsplit : splitAuthority after = .ok (front, rest))
      (hread : parsePath rest = .ok (p, q)) :
      Parsed cs ⟨some s, String.ofList front, ⟨String.ofList p, q.map String.ofList⟩⟩

/-- A text that is a target was read in one of the ways. -/
theorem parsed_of_parse {u : String} {t : Target} (h : parse u = .ok t) :
    u.utf8ByteSize ≤ maxLength ∧ Parsed u.toList t := by
  unfold parse at h
  split at h
  · cases h
  next hlen =>
    refine ⟨Nat.not_lt.mp hlen, ?_⟩
    split at h
    · cases h
    · obtain rfl := Except.ok.inj h
      exact .star
    next cs hchars =>
      obtain ⟨pq, hpathQuery, rfl⟩ := exists_of_map_eq_ok h
      obtain ⟨⟨p, q⟩, hread, rfl⟩ := exists_of_map_eq_ok hpathQuery
      exact .path hchars (hchars ▸ hread)
    next c _ _ hchars =>
      -- One character that is no slash is an authority.
      obtain ⟨⟨front, rest⟩, hsplit, hrest⟩ := exists_of_bind_eq_ok h
      simp only at hrest
      split at hrest
      next hempty =>
        obtain rfl := Except.ok.inj hrest
        obtain rfl := List.isEmpty_iff.mp hempty
        rw [hchars]
        exact .authority (List.cons_ne_nil c []) hsplit
      · cases hrest
    next hnil _ _ _ =>
      obtain ⟨⟨scheme, after⟩, hscheme, hrest⟩ := exists_of_bind_eq_ok h
      simp only at hrest
      split at hrest
      · cases hrest
      · obtain ⟨⟨front, rest⟩, hsplit, hend⟩ := exists_of_bind_eq_ok hrest
        simp only at hend
        cases scheme with
        | none =>
          -- Without a scheme the whole text is split, and nothing may be left of it.
          simp only at hend
          split at hend
          next hempty =>
            obtain rfl := Except.ok.inj hend
            obtain rfl := List.isEmpty_iff.mp hempty
            obtain rfl := (suffix_of_splitScheme hscheme).2 rfl
            exact .authority hnil hsplit
          · cases hend
        | some scheme =>
          simp only at hend
          split at hend
          · cases hend
          · obtain ⟨spelled, hspelled, hdone⟩ := exists_of_bind_eq_ok hend
            obtain rfl := Except.ok.inj hdone
            obtain ⟨⟨p, q⟩, hread, rfl⟩ := exists_of_map_eq_ok hspelled
            exact .address hscheme hsplit hread

/-- A part of a text takes no more octets than the text. -/
theorem utf8ByteSize_le_of_within {cs cs' : List Char} (h : cs <:+: cs') :
    (String.ofList cs).utf8ByteSize ≤ (String.ofList cs').utf8ByteSize := by
  obtain ⟨front, back, rfl⟩ := h
  rw [String.ofList_append, String.ofList_append, String.utf8ByteSize_append, String.utf8ByteSize_append]
  omega

/-- A path that begins with a slash, and a query, are read as they are spelled. -/
theorem parse_spelling {p : List Char} {q : Option (List Char)} (hp : ∀ c ∈ '/' :: p, isPathChar c = true)
    (hq : ∀ q' ∈ q, ∀ c ∈ q', isQueryChar c = true)
    (hlen : (String.ofList (spelling ('/' :: p) q)).utf8ByteSize ≤ maxLength) :
    parse (String.ofList (spelling ('/' :: p) q)) = .ok (ofPath ⟨String.ofList ('/' :: p), q.map String.ofList⟩) := by
  rw [parse, if_neg (Nat.not_lt.mpr hlen), String.toList_ofList]
  show ofPath <$> parsePathQuery (spelling ('/' :: p) q) = _
  rw [parsePathQuery, parsePath_spelling hp hq]
  rfl

/-! ## Targets that name nothing else -/

/-- A part up to a slash does not begin with one. -/
theorem head?_ne_slash_of_takeWhile {p : Char → Bool} (hp : p '/' = false) (cs rest : List Char)
    (hrest : rest.head? ≠ some '/') : (cs.takeWhile p ++ rest).head? ≠ some '/' := by
  cases hfront : cs.takeWhile p with
  | nil => exact hrest
  | cons c front =>
    intro hslash
    obtain rfl : c = '/' := Option.some.inj hslash
    have hmem := List.all_takeWhile (l := cs) (p := p)
    rw [hfront, List.all_cons, hp] at hmem
    cases hmem

/-- No slash stands in an authority. -/
theorem head?_ne_slash_of_splitAuthority {cs front rest : List Char}
    (h : splitAuthority cs = .ok (front, rest)) :
    ([] ++ ((String.ofList front).toList ++ [])).head? ≠ some '/' := by
  obtain ⟨_, -, hsplit⟩ := exists_of_bind_eq_ok h
  obtain ⟨rfl, -⟩ := Prod.mk.inj (Except.ok.inj hsplit)
  rw [String.toList_ofList]
  exact head?_ne_slash_of_takeWhile (by decide) cs [] (by simp)

/-- The text of an address begins with its scheme. -/
theorem head?_ne_slash_of_splitScheme {cs rest : List Char} {s : Scheme}
    (h : splitScheme cs = .ok (some s, rest)) (more : List Char) :
    (s.text.toList ++ ("://".toList ++ more)).head? ≠ some '/' := by
  -- The two known schemes begin with a letter, and any other with a character of its own.
  unfold splitScheme at h
  split at h
  · obtain ⟨hs, -⟩ := Prod.mk.inj (Except.ok.inj h)
    obtain rfl := Option.some.inj hs
    exact fun hslash => by cases hslash
  · split at h
    · obtain ⟨hs, -⟩ := Prod.mk.inj (Except.ok.inj h)
      obtain rfl := Option.some.inj hs
      exact fun hslash => by cases hslash
    · simp only at h
      split at h
      · split at h
        · cases (Prod.mk.inj (Except.ok.inj h)).1
        · split at h
          · cases h
          · obtain ⟨hs, -⟩ := Prod.mk.inj (Except.ok.inj h)
            obtain rfl := Option.some.inj hs
            rw [Scheme.text, String.toList_ofList]
            exact head?_ne_slash_of_takeWhile (by decide) cs _ fun hslash => by cases hslash
      · cases (Prod.mk.inj (Except.ok.inj h)).1

theorem text_toList (t : Target) :
    t.text.toList = (t.scheme.elim [] fun s => s.text.toList ++ "://".toList) ++
      (t.authority.toList ++ (t.path.toList ++ (t.query.elim [] fun q => "?".toList ++ q.toList))) := by
  unfold text
  cases t.scheme with
  | none => cases t.query <;> simp [String.toList_append]
  | some s => cases t.query <;> simp [String.toList_append]

/-- A target that was parsed and whose text begins with a slash was a path. -/
theorem eq_ofPath_of_slash {u : String} {t : Target} (hparse : parse u = .ok t)
    (hslash : t.text.toList.head? = some '/') :
    ∃ cs p q, u.utf8ByteSize ≤ maxLength ∧ u.toList = '/' :: cs ∧ parsePath ('/' :: cs) = .ok (p, q) ∧
      t = ofPath ⟨String.ofList p, q.map String.ofList⟩ := by
  rw [text_toList] at hslash
  obtain ⟨hlen, hparsed⟩ := parsed_of_parse hparse
  cases hparsed with
  | star => cases hslash
  | @path p cs q hchars hread => exact ⟨cs, p, q, hlen, hchars, hchars ▸ hread, rfl⟩
  | authority _ hsplit => exact absurd hslash (head?_ne_slash_of_splitAuthority hsplit)
  | address hscheme _ _ =>
    rw [Option.elim_some, List.append_assoc] at hslash
    exact absurd hslash (head?_ne_slash_of_splitScheme hscheme _)

/-- A slash in front belongs to the path. -/
theorem first_of_parsePath_slash {cs p : List Char} {q : Option (List Char)} (h : parsePath ('/' :: cs) = .ok (p, q)) :
    ∃ p', p = '/' :: p' := by
  have hstep : (fun r => ('/' :: r.1, r.2)) <$> parsePath cs = .ok (p, q) := h
  obtain ⟨r, -, hread⟩ := exists_of_map_eq_ok hstep
  exact ⟨r.1, (Prod.mk.inj hread).1.symm⟩

/-- A path that begins with a slash is spelled out. -/
theorem toList_text_of_slash (p : List Char) (q : Option (List Char)) :
    (ofPath ⟨String.ofList ('/' :: p), q.map String.ofList⟩).text.toList = spelling ('/' :: p) q ∧
      (ofPath ⟨String.ofList ('/' :: p), q.map String.ofList⟩).requestText.toList = spelling ('/' :: p) q := by
  have hempty : (String.ofList ('/' :: p)).isEmpty = false := by
    rw [Bool.eq_false_iff]
    intro h
    have hlist := congrArg String.toList (String.isEmpty_iff.mp h)
    rw [String.toList_ofList] at hlist
    cases hlist
  constructor
  · rw [text_toList]
    simp only [ofPath, path, query, hempty]
    cases q <;> simp [spelling]
  · simp only [requestText, PathQuery.text, ofPath, hempty]
    cases q <;> simp [spelling, String.toList_append]

/-- **What a request line carries of a path is its text, and reads as the target.** -/
theorem parse_requestText {u : String} {t : Target} (hparse : parse u = .ok t)
    (hslash : t.text.toList.head? = some '/') : t.requestText = t.text ∧ parse t.requestText = .ok t := by
  obtain ⟨cs, p, q, hlen, hu, hpath, rfl⟩ := eq_ofPath_of_slash hparse hslash
  obtain ⟨p, rfl⟩ := first_of_parsePath_slash hpath
  obtain ⟨htext, hrequest⟩ := toList_text_of_slash p q
  refine ⟨String.toList_injective (hrequest.trans htext.symm), ?_⟩
  obtain ⟨hp, hq, hbegin⟩ := parsePath_eq_ok hpath
  have hspelled : (ofPath ⟨String.ofList ('/' :: p), q.map String.ofList⟩).requestText =
      String.ofList (spelling ('/' :: p) q) :=
    String.toList_injective (by rw [hrequest, String.toList_ofList])
  rw [hspelled]
  -- What is carried is not longer than the text first parsed.
  refine parse_spelling hp hq (Nat.le_trans (utf8ByteSize_le_of_within hbegin.isInfix) ?_)
  rwa [← hu, String.ofList_toList]

end HttpService.Target
