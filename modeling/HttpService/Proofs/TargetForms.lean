import HttpService.Proofs.Target

/-!
# The forms of a target, and what a request line carries of them

A target is `*`, a path, an authority or an address. A request line carries path and query of it, and `/` where there is
neither. That is a target again, unless an address has a query and no path: of such a one the query is carried alone.

* `Target.Shape`, `Target.shape_of_parse` — what a text that was parsed looks like.
* `Target.IsBareQuery` — an address with a query and without a path.
* `Target.IsOriginForm`, `Target.Recovers` — what a request line has to carry, and what is to be read of it.
* `Target.parse_carried`, `Target.parse_carried_of_bareQuery` — what is read of a target that is carried.
-/

namespace HttpService.Target

/-! ## Forms -/

/-- What characters that spell a target look like. -/
inductive Shape (cs : List Char) : Target → Prop where
  | star : Shape cs (ofPath ⟨"*", none⟩)
  | path {p : List Char} {q : Option (List Char)} (hread : parsePath cs = .ok ('/' :: p, q)) :
      Shape cs (ofPath ⟨String.ofList ('/' :: p), q.map String.ofList⟩)
  | authority {front : List Char} (hne : front ≠ []) : Shape cs ⟨none, String.ofList front, ⟨"", none⟩⟩
  | address {s : Scheme} {front rest p : List Char} {q : Option (List Char)} (hback : rest <:+ cs)
      (hread : parsePath rest = .ok (p, q)) (hfirst : p = [] ∨ ∃ p', p = '/' :: p') :
      Shape cs ⟨some s, String.ofList front, ⟨String.ofList p, q.map String.ofList⟩⟩

/-- An authority and what follows it are the whole text, and what follows begins with what ends an authority. -/
theorem splitAuthority_eq_ok {cs front rest : List Char} (h : splitAuthority cs = .ok (front, rest)) :
    front ++ rest = cs ∧ ∀ c rest', rest = c :: rest' → endsAuthority c = true := by
  obtain ⟨_, -, hsplit⟩ := exists_of_bind_eq_ok h
  obtain ⟨rfl, rfl⟩ := Prod.mk.inj (Except.ok.inj hsplit)
  refine ⟨List.takeWhile_append_dropWhile, fun c rest' hrest => ?_⟩
  have hnot := List.head?_dropWhile_not (fun c => !endsAuthority c) cs
  rw [hrest] at hnot
  simpa using hnot

/-- A path that follows an authority is empty or begins with a slash. -/
theorem first_of_parsePath {rest p : List Char} {q : Option (List Char)} (h : parsePath rest = .ok (p, q))
    (hfirst : ∀ c rest', rest = c :: rest' → endsAuthority c = true) : p = [] ∨ ∃ p', p = '/' :: p' := by
  cases rest with
  | nil =>
    obtain ⟨rfl, -⟩ := Prod.mk.inj (Except.ok.inj h)
    exact .inl rfl
  | cons c rest =>
    have hends := hfirst c rest rfl
    rw [parsePath] at h
    -- Behind an authority stands a fragment, a query or a path, and only the last of them begins with a slash.
    split at h
    · obtain ⟨rfl, -⟩ := Prod.mk.inj (Except.ok.inj h)
      exact .inl rfl
    next hhash =>
      split at h
      · obtain ⟨_, -, hread⟩ := exists_of_map_eq_ok h
        exact .inl (Prod.mk.inj hread).1.symm
      next hmark =>
        split at h
        next hc =>
          obtain ⟨r, -, hread⟩ := exists_of_map_eq_ok h
          simp only [endsAuthority, hhash, hmark, Bool.or_false, beq_iff_eq] at hends
          exact .inr ⟨r.1, by rw [← (Prod.mk.inj hread).1, hends]⟩
        · cases h

/-- **A text that was read as a target has one of the forms**, and is not too long. -/
theorem shape_of_parse {u : String} {t : Target} (h : parse u = .ok t) :
    u.utf8ByteSize ≤ maxLength ∧ Shape u.toList t := by
  obtain ⟨hlen, hparsed⟩ := parsed_of_parse h
  refine ⟨hlen, ?_⟩
  cases hparsed with
  | star => exact .star
  | path hchars hread =>
    rw [hchars] at hread ⊢
    obtain ⟨p, rfl⟩ := first_of_parsePath_slash hread
    exact .path hread
  | authority hne hsplit =>
    have happend := (splitAuthority_eq_ok hsplit).1
    rw [List.append_nil] at happend
    exact .authority (happend ▸ hne)
  -- What is read behind the authority is an end of the text, since scheme and authority were taken from its front.
  | @address s after front rest p q hscheme hsplit hread =>
    obtain ⟨happend, hfirst⟩ := splitAuthority_eq_ok hsplit
    have hbehind : rest <:+ after := happend ▸ List.suffix_append front rest
    exact .address (hbehind.trans (suffix_of_splitScheme hscheme).1) hread (first_of_parsePath hread hfirst)

/-! ## What is carried -/

/-- An address with a query and without a path. -/
def IsBareQuery (t : Target) : Prop := t.spelled.path = "" ∧ t.query.isSome = true

instance (t : Target) : Decidable t.IsBareQuery := inferInstanceAs (Decidable (_ ∧ _))

/-- What begins with a question mark has no scheme. -/
theorem splitScheme_mark (q : List Char) : splitScheme ('?' :: q) = .ok (none, '?' :: q) := by
  have hhttp : ¬ sameWord (('?' :: q).take 7) "http://".toList = true := by
    rw [sameWord, List.take_succ_cons, List.map_cons]
    exact fun h => nomatch (List.cons.inj (eq_of_beq h)).1
  have hhttps : ¬ sameWord (('?' :: q).take 8) "https://".toList = true := by
    rw [sameWord, List.take_succ_cons, List.map_cons]
    exact fun h => nomatch (List.cons.inj (eq_of_beq h)).1
  rw [splitScheme, if_neg hhttp, if_neg hhttps]
  rfl

/-- A question mark with what follows it is no target: nothing stands before it that could be an address. -/
theorem exists_parse_error_of_mark (q : List Char) : ∃ fault, parse (String.ofList ('?' :: q)) = .error fault := by
  by_cases hlen : maxLength < (String.ofList ('?' :: q)).utf8ByteSize
  · exact ⟨.tooLong, by rw [parse, if_pos hlen]⟩
  · rw [parse, if_neg hlen, String.toList_ofList]
    cases q with
    | nil => exact ⟨.badCharacter, rfl⟩
    | cons c q =>
      refine ⟨.badForm, ?_⟩
      show (splitScheme ('?' :: c :: q) >>= _) = _
      rw [splitScheme_mark]
      rfl

variable {u : String} {t : Target}

/-- What is carried of path and query. -/
theorem toList_pathQuery_text (p : List Char) (q : Option (List Char)) :
    (PathQuery.text ⟨String.ofList p, q.map String.ofList⟩).toList =
      if p = [] ∧ q = none then ['/'] else spelling p q := by
  cases q with
  | some q => simp [PathQuery.text, spelling, String.toList_append]
  | none =>
    cases p with
    | nil => rfl
    | cons c p => simp [PathQuery.text, spelling]

theorem path_of_slash (s : Option Scheme) (authority : String) (p : List Char) (q : Option String) :
    path ⟨s, authority, ⟨String.ofList ('/' :: p), q⟩⟩ = String.ofList ('/' :: p) ∧
      String.ofList ('/' :: p) ≠ "" := by
  have hne : String.ofList ('/' :: p) ≠ "" := by simp
  exact ⟨if_neg (by simp), hne⟩

/-- A path that was read in some text is carried as it is spelled, and read again. -/
theorem parse_pathQuery_text {rest p : List Char} {q : Option (List Char)} (hread : parsePath rest = .ok ('/' :: p, q))
    (hlen : (String.ofList rest).utf8ByteSize ≤ maxLength) :
    parse (PathQuery.text ⟨String.ofList ('/' :: p), q.map String.ofList⟩) =
      .ok (ofPath ⟨String.ofList ('/' :: p), q.map String.ofList⟩) := by
  obtain ⟨hp, hq, hbegin⟩ := parsePath_eq_ok hread
  have htext : PathQuery.text ⟨String.ofList ('/' :: p), q.map String.ofList⟩ =
      String.ofList (spelling ('/' :: p) q) := by
    refine String.toList_injective ?_
    rw [toList_pathQuery_text, if_neg (fun h => List.cons_ne_nil _ _ h.1), String.toList_ofList]
  rw [htext]
  exact parse_spelling hp hq (Nat.le_trans (utf8ByteSize_le_of_within hbegin.isInfix) hlen)

/-- An authority alone asks for the root. -/
theorem requestText_of_authority {front : List Char} (hne : front ≠ []) (spelled : PathQuery) :
    requestText ⟨none, String.ofList front, spelled⟩ = "/" := by
  have hnot : (String.ofList front).isEmpty = false := by simpa using hne
  rw [requestText, hnot]
  rfl

/-- The one target has the query of the other, and its path or else the root. -/
structure Recovers (t' t : Target) : Prop where
  query : t'.query = t.query
  path : t'.path = if t.path = "" then "/" else t.path

/-- What a request line carries begins with a slash or is `*`. -/
def IsOriginForm (carried : String) : Prop := carried = "*" ∨ carried.toList.head? = some '/'

/-- A target whose path begins with a slash is carried in origin form, and comes back with this path and query. -/
theorem parse_carried_of_slash {s : Option Scheme} {authority : String} {rest p : List Char} {q : Option (List Char)}
    (ht : t = ⟨s, authority, ⟨String.ofList ('/' :: p), q.map String.ofList⟩⟩)
    (htext : t.requestText = t.spelled.text) (hread : parsePath rest = .ok ('/' :: p, q))
    (hlen : (String.ofList rest).utf8ByteSize ≤ maxLength) :
    IsOriginForm t.requestText ∧ ∃ t', parse t.requestText = .ok t' ∧ t'.Recovers t := by
  subst ht
  have hpath := path_of_slash s authority p (q.map String.ofList)
  have hpath' := path_of_slash none "" p (q.map String.ofList)
  rw [htext]
  refine ⟨.inr ?_, _, parse_pathQuery_text hread hlen, rfl, ?_⟩
  · rw [toList_pathQuery_text, if_neg (fun h => List.cons_ne_nil _ _ h.1)]
    rfl
  · rw [hpath.1, if_neg hpath.2]
    exact hpath'.1

/-- Without a path the root is asked for, and that comes back in the place of no path. -/
theorem parse_carried_of_root (hpath : t.path = "" ∨ t.path = "/") (hquery : t.query = none)
    (htext : t.requestText = "/") :
    IsOriginForm t.requestText ∧ ∃ t', parse t.requestText = .ok t' ∧ t'.Recovers t := by
  rw [htext]
  refine ⟨.inr rfl, ofPath ⟨"/", none⟩, rfl, hquery.symm, ?_⟩
  rcases hpath with hpath | hpath
  · rw [hpath]
    rfl
  · rw [hpath]
    rfl

/-- **What is carried of a target is read as a target with the same path and query**, unless it is a query alone. -/
theorem parse_carried (hparse : parse u = .ok t) (h : ¬ t.IsBareQuery) :
    IsOriginForm t.requestText ∧ ∃ t', parse t.requestText = .ok t' ∧ t'.Recovers t := by
  obtain ⟨hlen, hshape⟩ := shape_of_parse hparse
  rw [← String.ofList_toList (s := u)] at hlen
  cases hshape with
  | star => exact ⟨.inl rfl, ofPath ⟨"*", none⟩, rfl, rfl, rfl⟩
  | path hread => exact parse_carried_of_slash rfl rfl hread hlen
  | authority hne => exact parse_carried_of_root (.inl rfl) rfl (requestText_of_authority hne _)
  | @address s front rest p q hback hread hfirst =>
    -- Without a path there is the root to ask for, but only if no query takes the place of the path.
    rcases hfirst with rfl | ⟨p, rfl⟩
    · cases q with
      | none => exact parse_carried_of_root (.inr rfl) rfl rfl
      | some q => exact absurd ⟨rfl, rfl⟩ h
    · exact parse_carried_of_slash rfl rfl hread (Nat.le_trans (utf8ByteSize_le_of_within hback.isInfix) hlen)

/-- **Of a query alone a question mark is carried in front, and that is no target.** -/
theorem parse_carried_of_bareQuery (hparse : parse u = .ok t) (h : t.IsBareQuery) :
    ¬ IsOriginForm t.requestText ∧
      ∃ q, t.query = some q ∧ t.requestText = "?" ++ q ∧ ∃ fault, parse t.requestText = .error fault := by
  obtain ⟨hpath, hquery⟩ := h
  obtain ⟨-, hshape⟩ := shape_of_parse hparse
  -- Only a target with an authority can have a query and no path.
  cases hshape with
  | star => cases hquery
  | path hread => exact absurd hpath (by simp [ofPath])
  | authority hne => cases hquery
  | @address s front rest p q hback hread hfirst =>
    obtain rfl : p = [] := by simpa using hpath
    cases q with
    | none => cases hquery
    | some q =>
      -- What is sent is the query alone, which begins with its mark.
      have htext : "" ++ "?" ++ String.ofList q = String.ofList ('?' :: q) := by
        refine String.toList_injective ?_
        simp [String.toList_append]
      refine ⟨?_, String.ofList q, rfl, by simp [requestText, PathQuery.text], ?_⟩
      · show ¬ IsOriginForm ("" ++ "?" ++ String.ofList q)
        rw [htext, IsOriginForm, String.toList_ofList]
        rintro (hstar | hslash)
        · have hchars := congrArg String.toList hstar
          rw [String.toList_ofList] at hchars
          cases hchars
        · cases hslash
      · show ∃ fault, parse ("" ++ "?" ++ String.ofList q) = .error fault
        rw [htext]
        exact exists_parse_error_of_mark q

/-- What is carried is made of the characters of the text that spelled the target, of slash and of star. -/
theorem forall_mem_requestText {P : Char → Prop} (hslash : P '/') (hstar : P '*') (hparse : parse u = .ok t)
    (hu : ∀ c ∈ u.toList, P c) : ∀ c ∈ t.requestText.toList, P c := by
  -- What is sent of a path and a query was in the text already, but for the slash of an empty path.
  have hspelled {rest p : List Char} {q : Option (List Char)} (hread : parsePath rest = .ok (p, q))
      (hwithin : rest <:+: u.toList) :
      ∀ c ∈ (PathQuery.text ⟨String.ofList p, q.map String.ofList⟩).toList, P c := by
    rw [toList_pathQuery_text]
    split
    · simpa using hslash
    · exact fun c hc => hu c (hwithin.mem ((parsePath_eq_ok hread).2.2.mem hc))
  obtain ⟨-, hshape⟩ := shape_of_parse hparse
  cases hshape with
  | star => exact fun c hc => List.mem_singleton.mp hc ▸ hstar
  | path hread => exact hspelled hread List.infix_rfl
  | authority hne =>
    rw [requestText_of_authority hne]
    exact fun c hc => List.mem_singleton.mp hc ▸ hslash
  | address hback hread hfirst => exact hspelled hread hback.isInfix

end HttpService.Target
