import HttpService.Proofs.Address.RoundTrip
import HttpService.Target
import Mathlib.Data.List.DropRight

/-!
# Addresses as authorities

An authority names a host and a port. A host that is the number of a machine stands between brackets if it has colons,
since the colon in front of the port could not be told from them.

* `Authority.Names` — a text is an authority that names this machine and this port.
* `Target.foldlM_step` — what checking makes of the characters of a machine: nothing but their colons counts.
* `Address.names_text_iff` — the text of an address is an authority; it names the address unless it shows a zone.
* `IpAddress.names_beside_iff` — a machine in front of a colon and a port names them exactly if its number has four
  bytes.
-/

namespace HttpService

/-- Whether the number has four bytes. -/
def IpAddress.isFour : IpAddress → Bool
  | four .. => true
  | eight _ => false

/-! ## What an authority names -/

namespace Authority

/-- What stands behind the last of these marks; the whole text if there is none. -/
def behindLast (mark : Char) (cs : List Char) : List Char := cs.rtakeWhile (· != mark)

/-- The host, behind a user and in front of a port. Brackets belong to it. -/
def host (cs : List Char) : List Char :=
  match behindLast '@' cs with
  | '[' :: cs => '[' :: cs.takeWhile (· != ']') ++ [']']
  | cs => cs.takeWhile (· != ':')

/-- The port behind the last colon. -/
def port? (cs : List Char) : Option UInt16 :=
  if ':' ∈ cs then (Decimal.readBelow? 65536 (String.ofList (behindLast ':' cs))).map UInt16.ofNat else none

/-- The machine whose number a host is: eight groups between brackets, or four bytes without. -/
def machine? (host : List Char) : Option IpAddress :=
  if host.head? = some '[' then (IpAddress.read? (String.ofList host.tail.dropLast)).filter (!·.isFour)
  else (IpAddress.read? (String.ofList host)).filter (·.isFour)

/-- The text is an authority and nothing else, its host is the number of the machine, and it has the port. -/
structure Names (name : String) (ip : IpAddress) (port : UInt16) : Prop where
  valid : Target.splitAuthority name.toList = .ok (name.toList, [])
  machine : machine? (host name.toList) = some ip
  port : port? name.toList = some port

section Marks

variable {mark : Char} {front back cs : List Char}

/-- Text without a mark has none to stop at. -/
theorem bne_of_not_mem (h : mark ∉ cs) : ∀ c ∈ cs, (c != mark) = true := by
  intro c hc
  rw [bne_iff_ne]
  rintro rfl
  exact h hc

/-- Reading up to a mark stops at the first one. -/
theorem takeWhile_append_mark (h : mark ∉ front) (back : List Char) :
    (front ++ mark :: back).takeWhile (· != mark) = front := by
  rw [List.takeWhile_append_of_pos (bne_of_not_mem h), List.takeWhile_cons_of_neg (by simp), List.append_nil]

/-- Reading behind the last mark begins at the last one, wherever others are. -/
theorem behindLast_append (front : List Char) (h : mark ∉ back) : behindLast mark (front ++ mark :: back) = back := by
  have hback : mark ∉ back.reverse := fun hmem => h (List.mem_reverse.mp hmem)
  rw [behindLast, List.rtakeWhile, List.reverse_append, List.reverse_cons, List.append_assoc, List.singleton_append,
    takeWhile_append_mark hback, List.reverse_reverse]

/-- Without a mark, all of the text stands behind the last one. -/
theorem behindLast_of_not_mem (h : mark ∉ cs) : behindLast mark cs = cs :=
  List.rtakeWhile_eq_self_iff.mpr (bne_of_not_mem h)

end Marks

end Authority

/-! ## Characters -/

namespace IpAddress

/-- What the text of a machine is made of. -/
def alphabet : List Char := "0123456789abcdef.:".toList

/-- No part of a machine's text is taken for a user in front of it. -/
theorem at_not_mem_alphabet : '@' ∉ alphabet := by decide

theorem bracket_not_mem_alphabet : '[' ∉ alphabet := by decide

theorem digitChar_mem_alphabet {d : Nat} (h : d < 16) : d.digitChar ∈ alphabet := by
  have key : ∀ d ∈ List.range 16, d.digitChar ∈ alphabet := by decide
  exact key d (List.mem_range.mpr h)

theorem digits_subset_alphabet (n : Nat) : Decimal.digits n ⊆ alphabet := by
  intro c hc
  obtain ⟨d, hd, rfl⟩ := Decimal.exists_of_mem_toDigits (by decide) hc
  exact digitChar_mem_alphabet (by omega)

theorem dotted_subset_alphabet (a b c d : Nat) : (dotted a b c d).toList ⊆ alphabet := by
  have hpoint : '.' ∈ alphabet := by decide
  rw [toList_dotted]
  simp only [List.append_subset, List.cons_subset, digits_subset_alphabet, hpoint, and_self]

theorem groupChars_subset_alphabet (first : Bool) (gs : List UInt16) : groupChars first gs ⊆ alphabet := by
  intro c hc
  rcases of_mem_groupChars hc with rfl | ⟨d, hd, rfl⟩
  · decide
  · exact digitChar_mem_alphabet hd

/-- In whichever way eight groups are spelled, the alphabet is enough. -/
theorem Spelling.subset_alphabet {gs : List UInt16} {cs : List Char} (h : Spelling gs cs) : cs ⊆ alphabet := by
  have hcolon : ':' ∈ alphabet := by decide
  cases h with
  | whole => exact groupChars_subset_alphabet true gs
  | gap => simp only [List.append_subset, List.cons_subset, groupChars_subset_alphabet, hcolon, and_self]
  | bytes => exact List.append_subset.mpr ⟨by decide, dotted_subset_alphabet ..⟩

/-- The alphabet is enough for every machine. -/
theorem text_subset_alphabet (ip : IpAddress) : ip.text.toList ⊆ alphabet := by
  cases ip with
  | four a b c d => exact dotted_subset_alphabet ..
  | eight groups => exact (spelling_groupedText groups.toList).subset_alphabet

/-! ## Colons -/

/-- A group has no colon in it. -/
theorem count_hex (n : Nat) : (Text.hex n).count ':' = 0 := by
  refine List.count_eq_zero.mpr fun h => ?_
  have key : ∀ d ∈ List.range 16, ':' ≠ d.digitChar := by decide
  obtain ⟨d, hd, hdigit⟩ := Decimal.exists_of_mem_toDigits (by decide) h
  exact key d (List.mem_range.mpr hd) hdigit

/-- There is a colon in front of each group but the first. -/
theorem count_groupChars (first : Bool) (gs : List UInt16) :
    (groupChars first gs).count ':' = if first then gs.length - 1 else gs.length := by
  induction gs generalizing first with
  | nil => simp [groupChars]
  | cons g gs ih =>
    rw [groupChars, List.count_append, List.count_append, count_hex, ih]
    cases first with
    | true => simp
    | false => simp; omega

theorem not_mem_digits (n : Nat) : ':' ∉ Decimal.digits n :=
  fun h => absurd (Decimal.isDigit_of_mem_digits h) (by decide)

theorem not_mem_dotted (a b c d : Nat) : ':' ∉ (dotted a b c d).toList := by
  rw [toList_dotted]
  simp [not_mem_digits]

/-- A machine with a number of four bytes can be told from the port behind it. -/
theorem not_mem_text_four (a b c d : UInt8) : ':' ∉ (four a b c d).text.toList := not_mem_dotted _ _ _ _

/-- Eight groups are written with two colons at least, and not with more than seven. -/
theorem Spelling.count_colon {gs : List UInt16} {cs : List Char} (h : Spelling gs cs) (hlength : gs.length = 8) :
    2 ≤ cs.count ':' ∧ cs.count ':' ≤ 7 := by
  cases h with
  | whole =>
    rw [count_groupChars, hlength]
    decide
  | @gap front back n hn hgs =>
    rw [hgs, List.length_append, List.length_append, List.length_replicate] at hlength
    -- The gap stands for one group at least, so it leaves no more than seven colons.
    have hcount : (groupChars true front ++ ':' :: ':' :: groupChars true back).count ':' =
        (front.length - 1) + ((back.length - 1) + 1 + 1) := by
      simp [List.count_append, count_groupChars]
    omega
  | bytes =>
    rw [List.count_append, List.count_eq_zero.mpr (not_mem_dotted _ _ _ _)]
    decide

/-- A machine with eight groups has two colons at least, and no more than an authority may have next to that of the
port. -/
theorem count_colon_eight (groups : Vector UInt16 8) :
    2 ≤ (eight groups).text.toList.count ':' ∧ (eight groups).text.toList.count ':' ≤ 7 :=
  (spelling_groupedText groups.toList).count_colon groups.length_toList

end IpAddress

/-! ## Checking -/

namespace Target

open IpAddress

/-- Checking goes on where a character passes. -/
theorem foldlM_cons_of_ok {c : Char} {cs : List Char} {s s' : AuthorityScan} (h : s.step c = .ok s') :
    (c :: cs).foldlM AuthorityScan.step s = cs.foldlM AuthorityScan.step s' := by
  rw [List.foldlM_cons, h]
  rfl

/-- It goes on where a whole beginning passes. -/
theorem foldlM_append_of_ok {cs cs' : List Char} {s s' : AuthorityScan}
    (h : cs.foldlM AuthorityScan.step s = .ok s') :
    (cs ++ cs').foldlM AuthorityScan.step s = cs'.foldlM AuthorityScan.step s' := by
  rw [List.foldlM_append, h]
  rfl

/-- Nothing in the alphabet but a colon makes any difference to the check. -/
theorem step_of_mem_alphabet {c : Char} (hc : c ∈ alphabet) (hcolon : c ≠ ':') (s : AuthorityScan) :
    s.step c = .ok s := by
  have key : (alphabet.all fun c =>
      c == ':' || (c != '[' && c != ']' && c != '@' && c != '%' && isAuthorityChar c)) = true := by decide
  have hplain := List.all_eq_true.mp key c hc
  simp only [beq_eq_false_iff_ne.mpr hcolon, Bool.false_or, Bool.and_eq_true, bne_iff_ne] at hplain
  obtain ⟨⟨⟨⟨hopening, hclosing⟩, hat⟩, hpercent⟩, hchar⟩ := hplain
  simp [AuthorityScan.step, hcolon, hopening, hclosing, hat, hpercent, hchar]

theorem step_colon (s : AuthorityScan) : s.step ':' =
    if maxColons ≤ s.colons then .error .badAuthority else .ok { s with colons := s.colons + 1 } := rfl

/-- **Of the characters of a machine only the colons count**, and only up to a number of them. -/
theorem foldlM_step {cs : List Char} (hcs : cs ⊆ alphabet) (s : AuthorityScan) (hs : s.colons ≤ maxColons) :
    cs.foldlM AuthorityScan.step s =
      if s.colons + cs.count ':' ≤ maxColons then .ok { s with colons := s.colons + cs.count ':' }
      else .error .badAuthority := by
  -- On the characters: only a colon changes what is counted so far, and it fails where that is too much.
  induction cs generalizing s with
  | nil =>
    rw [List.count_nil, Nat.add_zero, if_pos hs]
    rfl
  | cons c cs ih =>
    obtain ⟨hc, hcs⟩ := List.cons_subset.mp hcs
    rw [List.foldlM_cons]
    by_cases hcolon : c = ':'
    · rw [hcolon, step_colon, List.count_cons_self]
      by_cases hlt : s.colons < maxColons
      · rw [if_neg (Nat.not_le.mpr hlt)]
        have hrest := ih hcs { s with colons := s.colons + 1 } hlt
        have hsum : s.colons + (cs.count ':' + 1) = s.colons + 1 + cs.count ':' := by omega
        rw [hsum]
        exact hrest
      · have hmany : ¬ s.colons + (cs.count ':' + 1) ≤ maxColons := by omega
        rw [if_pos (Nat.not_lt.mp hlt), if_neg hmany]
        rfl
    · rw [step_of_mem_alphabet hc hcolon, List.count_cons_of_ne hcolon]
      exact ih hcs s hs

/-- An authority that holds no mark behind which something else begins is the whole text. -/
theorem splitAuthority_of_forall {cs : List Char} (h : ∀ c ∈ cs, endsAuthority c = false) :
    splitAuthority cs = (fun _ => (cs, [])) <$> checkAuthority cs := by
  have hstays : ∀ c ∈ cs, (!endsAuthority c) = true := fun c hc => by rw [h c hc, Bool.not_false]
  rw [splitAuthority, List.takeWhile_eq_self_iff.mpr hstays, List.dropWhile_eq_nil_iff.mpr hstays]
  rfl

/-- A check that has come to the end. -/
theorem checkAuthority_of_scan {cs : List Char} {s : AuthorityScan} (h : cs.foldlM AuthorityScan.step {} = .ok s)
    (hat : '@' ∉ cs) : checkAuthority cs =
      if s.opened != s.closed || 1 < s.colons || s.percent then .error .badAuthority else .ok () := by
  have hlast : (cs.getLast? == some '@') = false := by
    rw [beq_eq_false_iff_ne]
    exact fun hlast => hat (List.mem_of_getLast? hlast)
  rw [checkAuthority, h]
  show (if s.opened != s.closed || 1 < s.colons || cs.getLast? == some '@' || s.percent then _ else _) = _
  rw [hlast, Bool.or_false]
  rfl

/-- A check that has failed on the way. -/
theorem checkAuthority_of_error {cs : List Char} {fault : TargetFault}
    (h : cs.foldlM AuthorityScan.step {} = .error fault) : checkAuthority cs = .error fault := by
  rw [checkAuthority, h]
  rfl

end Target

/-! ## Hosts and ports -/

/-- None of the characters of an address ends an authority or stands behind a user. -/
theorem ordinary_of_mem {c : Char} (h : c ∈ '[' :: ']' :: '%' :: IpAddress.alphabet) :
    Target.endsAuthority c = false ∧ c ≠ '@' := by
  have key : (('[' :: ']' :: '%' :: IpAddress.alphabet).all fun c =>
      !Target.endsAuthority c && c != '@') = true := by decide
  have hplain := List.all_eq_true.mp key c h
  rwa [Bool.and_eq_true, Bool.not_eq_true', bne_iff_ne] at hplain

namespace Authority

open IpAddress Target

/-- A host in front of a colon and a port. -/
def beside (host : List Char) (port : UInt16) : List Char := host ++ ':' :: Decimal.digits port.toNat

/-- A machine between brackets, with its zone. -/
def bracketed (machine : List Char) (zone : UInt32) : List Char := '[' :: (machine ++ Address.zoneChars zone) ++ [']']

variable {machine : List Char}

/-- The port that was put behind a host is found there, whatever the host. -/
theorem port?_beside (host : List Char) (port : UInt16) : port? (beside host port) = some port := by
  have hread : Decimal.readBelow? 65536 (String.ofList (Decimal.digits port.toNat)) = some port.toNat := by
    rw [Decimal.readBelow?, String.toList_ofList, Decimal.read?_digits, Option.filter_some,
      if_pos (decide_eq_true port.toNat_lt)]
  rw [port?, beside, if_pos (by simp), behindLast_append host (not_mem_digits port.toNat), hread, Option.map_some,
    UInt16.ofNat_toNat]

theorem ending_subset_alphabet (port : UInt16) : ':' :: Decimal.digits port.toNat ⊆ alphabet :=
  List.cons_subset.mpr ⟨by decide, digits_subset_alphabet port.toNat⟩

theorem beside_subset_alphabet (hmachine : machine ⊆ alphabet) (port : UInt16) : beside machine port ⊆ alphabet :=
  List.append_subset.mpr ⟨hmachine, ending_subset_alphabet port⟩

theorem count_ending (port : UInt16) : (':' :: Decimal.digits port.toNat).count ':' = 1 := by
  rw [List.count_cons_self, List.count_eq_zero.mpr (not_mem_digits port.toNat)]

/-- In front of a port such characters are an authority if there is no colon among them. -/
theorem splitAuthority_of_subset (hmachine : machine ⊆ alphabet) (port : UInt16) :
    splitAuthority (beside machine port) =
      if machine.count ':' = 0 then .ok (beside machine port, []) else .error .badAuthority := by
  have hsubset := beside_subset_alphabet hmachine port
  -- The port brings one colon of its own.
  have hcount : (beside machine port).count ':' = machine.count ':' + 1 := by
    rw [beside, List.count_append, count_ending]
  have hordinary : ∀ c ∈ beside machine port, endsAuthority c = false ∧ c ≠ '@' :=
    fun c hc => ordinary_of_mem (by simp [hsubset hc])
  have hat : '@' ∉ beside machine port := fun h => (hordinary '@' h).2 rfl
  have hscan := foldlM_step hsubset {} (Nat.zero_le _)
  rw [hcount] at hscan
  rw [splitAuthority_of_forall fun c hc => (hordinary c hc).1]
  -- One colon is that of the port; with more there would have to be brackets.
  by_cases hnone : machine.count ':' = 0
  · rw [hnone, if_pos (by decide)] at hscan
    rw [checkAuthority_of_scan hscan hat, if_pos hnone]
    rfl
  · rw [if_neg hnone]
    split at hscan
    · have hmany : decide (1 < 0 + (machine.count ':' + 1)) = true := decide_eq_true (by omega)
      rw [checkAuthority_of_scan hscan hat, hmany]
      rfl
    · rw [checkAuthority_of_error hscan]
      rfl

/-- The characters of a zone leave nothing but a percent sign. -/
theorem exists_foldlM_zoneChars (zone : UInt32) {s : AuthorityScan} (hs : s.colons ≤ maxColons) :
    ∃ percent, (Address.zoneChars zone).foldlM AuthorityScan.step s = .ok { s with percent } := by
  unfold Address.zoneChars
  split
  · exact ⟨s.percent, rfl⟩
  · have hdigits := foldlM_step (digits_subset_alphabet zone.toNat) { s with percent := true } hs
    rw [List.count_eq_zero.mpr (not_mem_digits zone.toNat), Nat.add_zero, if_pos hs] at hdigits
    exact ⟨true, (foldlM_cons_of_ok rfl).trans hdigits⟩

/-- A zone adds the percent sign in front of it. -/
theorem zoneChars_subset (zone : UInt32) : Address.zoneChars zone ⊆ '%' :: alphabet := by
  unfold Address.zoneChars
  split
  · exact List.nil_subset _
  · exact List.cons_subset_cons '%' (digits_subset_alphabet _)

/-- So the text between brackets has no character outside of those two. -/
theorem machine_zone_subset (hmachine : machine ⊆ alphabet) (zone : UInt32) :
    machine ++ Address.zoneChars zone ⊆ '%' :: alphabet :=
  List.append_subset.mpr ⟨List.subset_cons_of_subset '%' hmachine, zoneChars_subset zone⟩

/-- A machine between brackets neither ends the authority nor has a user. -/
theorem ordinary_of_mem_bracketed (hmachine : machine ⊆ alphabet) (zone : UInt32) (port : UInt16) :
    ∀ c ∈ beside (bracketed machine zone) port, endsAuthority c = false ∧ c ≠ '@' := by
  have hinside := machine_zone_subset hmachine zone
  have hending := ending_subset_alphabet port
  intro c hc
  refine ordinary_of_mem ?_
  simp only [beside, bracketed, List.cons_append, List.append_assoc, List.nil_append, List.mem_cons] at hc ⊢
  rcases hc with hc | hc
  · exact .inl hc
  · rw [← List.append_assoc, List.mem_append, List.mem_cons] at hc
    rcases hc with hc | hc | hc
    · exact .inr (.inr (List.mem_cons.mp (hinside hc)))
    · exact .inr (.inl hc)
    · exact .inr (.inr (.inr (hending hc)))

/-- Between brackets the colons do not matter. -/
theorem foldlM_bracketed (hmachine : machine ⊆ alphabet) (hcount : machine.count ':' ≤ maxColons) (zone : UInt32) :
    (bracketed machine zone).foldlM AuthorityScan.step {} = .ok { opened := true, closed := true } := by
  have hinside := foldlM_step hmachine { opened := true } (Nat.zero_le _)
  rw [Nat.zero_add, if_pos hcount] at hinside
  obtain ⟨percent, hzone⟩ : ∃ percent, (Address.zoneChars zone).foldlM AuthorityScan.step
      { colons := machine.count ':', opened := true } = .ok { colons := machine.count ':', opened := true, percent } :=
    exists_foldlM_zoneChars zone hcount
  have hchars : bracketed machine zone = '[' :: (machine ++ (Address.zoneChars zone ++ [']'])) := by simp [bracketed]
  calc
    _ = (machine ++ (Address.zoneChars zone ++ [']'])).foldlM AuthorityScan.step { opened := true } :=
        hchars ▸ foldlM_cons_of_ok rfl
    _ = (Address.zoneChars zone ++ [']']).foldlM AuthorityScan.step { colons := machine.count ':', opened := true } :=
        foldlM_append_of_ok hinside
    _ = [']'].foldlM AuthorityScan.step { colons := machine.count ':', opened := true, percent } :=
        foldlM_append_of_ok hzone
    -- The bracket forgets colons and percent signs.
    _ = _ := foldlM_cons_of_ok rfl

/-- With brackets, a machine and its port pass the check. -/
theorem splitAuthority_bracketed (hmachine : machine ⊆ alphabet) (hcount : machine.count ':' ≤ maxColons)
    (zone : UInt32) (port : UInt16) :
    splitAuthority (beside (bracketed machine zone) port) = .ok (beside (bracketed machine zone) port, []) := by
  have hbehind := foldlM_step (ending_subset_alphabet port) { opened := true, closed := true } (Nat.zero_le _)
  rw [count_ending, if_pos (by decide)] at hbehind
  have hscan : (beside (bracketed machine zone) port).foldlM AuthorityScan.step {} =
      .ok { colons := 1, opened := true, closed := true } :=
    (foldlM_append_of_ok (foldlM_bracketed hmachine hcount zone)).trans hbehind
  have hordinary := ordinary_of_mem_bracketed hmachine zone port
  rw [splitAuthority_of_forall fun c hc => (hordinary c hc).1,
    checkAuthority_of_scan hscan fun h => (hordinary '@' h).2 rfl]
  rfl

/-! ## What is named -/

/-- Without colons in it, what stands in front of the port is the host. -/
theorem host_beside (hmachine : machine ⊆ alphabet) (hcolon : ':' ∉ machine) (port : UInt16) :
    host (beside machine port) = machine := by
  have hsubset := beside_subset_alphabet hmachine port
  rw [host, behindLast_of_not_mem fun h => at_not_mem_alphabet (hsubset h)]
  split
  next cs hcs => exact absurd (hsubset (hcs ▸ List.mem_cons_self)) bracket_not_mem_alphabet
  next => exact takeWhile_append_mark hcolon _

/-- The brackets are where the host is found. -/
theorem host_bracketed (hmachine : machine ⊆ alphabet) (zone : UInt32) (port : UInt16) :
    host (beside (bracketed machine zone) port) = bracketed machine zone := by
  have hbracket : ']' ∉ machine ++ Address.zoneChars zone := fun h => by
    have hnot : ']' ∉ '%' :: alphabet := by decide
    exact hnot (machine_zone_subset hmachine zone h)
  have hat : '@' ∉ beside (bracketed machine zone) port :=
    fun h => (ordinary_of_mem_bracketed hmachine zone port '@' h).2 rfl
  rw [host, behindLast_of_not_mem hat, beside, bracketed, List.append_assoc, List.cons_append]
  simp only [List.singleton_append]
  rw [takeWhile_append_mark hbracket]

/-- Without brackets, a text is only taken for a machine with four bytes. -/
theorem machine?_text (ip : IpAddress) : machine? ip.text.toList = if ip.isFour then some ip else none := by
  have hbracket : ip.text.toList.head? ≠ some '[' := fun h =>
    bracket_not_mem_alphabet (ip.text_subset_alphabet (List.mem_of_mem_head? h))
  rw [machine?, if_neg hbracket, String.ofList_toList, read?_text, Option.filter_some]

/-- Between brackets a machine of eight groups is read, if there is no zone. -/
theorem machine?_bracketed (groups : Vector UInt16 8) (zone : UInt32) :
    machine? (bracketed (eight groups).text.toList zone) = if zone = 0 then some (.eight groups) else none := by
  have hhead : (bracketed (eight groups).text.toList zone).head? = some '[' := rfl
  have htail : (bracketed (eight groups).text.toList zone).tail.dropLast =
      (eight groups).text.toList ++ Address.zoneChars zone := List.dropLast_concat
  rw [machine?, if_pos hhead, htail, read?_zone]
  split
  · rfl
  · rfl

end Authority

open Authority

namespace IpAddress

variable (ip : IpAddress) (port : UInt16) {name : String}

/-- A machine in front of a colon and a port is an authority exactly if its number has four bytes. -/
theorem splitAuthority_beside_iff (hname : name.toList = beside ip.text.toList port) :
    Target.splitAuthority name.toList = .ok (name.toList, []) ↔ ip.isFour = true := by
  rw [hname, splitAuthority_of_subset ip.text_subset_alphabet]
  cases ip with
  | four a b c d =>
    rw [if_pos (List.count_eq_zero.mpr (not_mem_text_four a b c d))]
    exact iff_of_true rfl rfl
  | eight groups =>
    have hsome := (count_colon_eight groups).1
    rw [if_neg (by omega)]
    exact iff_of_false nofun Bool.false_ne_true

/-- **A machine in front of a colon and a port** names them exactly if its number has four bytes. -/
theorem names_beside_iff (hname : name.toList = beside ip.text.toList port) :
    Names name ip port ↔ ip.isFour = true := by
  have hvalid := ip.splitAuthority_beside_iff port hname
  refine ⟨fun h => hvalid.mp h.valid, fun hfour => ⟨hvalid.mpr hfour, ?_, ?_⟩⟩
  · cases ip with
    | four a b c d =>
      rw [hname, host_beside (text_subset_alphabet _) (not_mem_text_four a b c d), machine?_text, if_pos hfour]
    | eight groups => cases hfour
  · rw [hname, port?_beside]

end IpAddress

namespace Address

open IpAddress

/-- The text of an address with eight groups is of this form. -/
theorem toList_text_bracketed (groups : Vector UInt16 8) (port : UInt16) (zone : UInt32) :
    (text ⟨.eight groups, port, zone⟩).toList = beside (bracketed (IpAddress.eight groups).text.toList zone) port := by
  rw [toList_text_eight, beside, bracketed]
  simp

/-- The text of an address is an authority. -/
theorem splitAuthority_text (a : Address) : Target.splitAuthority a.text.toList = .ok (a.text.toList, []) := by
  obtain ⟨ip, port, zone⟩ := a
  cases ip with
  | four b c d e => exact (splitAuthority_beside_iff _ port (toList_text_four b c d e port zone)).mpr rfl
  | eight groups =>
    have hcount := Nat.le_trans (count_colon_eight groups).2 (show 7 ≤ Target.maxColons by decide)
    rw [toList_text_bracketed]
    exact splitAuthority_bracketed (text_subset_alphabet _) hcount zone port

/-- The text of an address is its machine in front of a colon and its port exactly if the machine has four bytes. -/
theorem eq_text_iff (a : Address) {name : String} (hname : name.toList = beside a.ip.text.toList a.port) :
    name = a.text ↔ a.ip.isFour = true := by
  constructor
  · -- The text of an address is an authority.
    rintro rfl
    exact (a.ip.splitAuthority_beside_iff a.port hname).mp a.splitAuthority_text
  · intro hfour
    obtain ⟨ip, port, zone⟩ := a
    cases ip with
    | four b c d e => exact String.toList_inj.mp (hname.trans (toList_text_four b c d e port zone).symm)
    | eight groups => cases hfour

/-- **The text of an address names the address**, unless it shows a zone. -/
theorem names_text_iff (a : Address) : Names a.text a.ip a.port ↔ a.ip.isFour = true ∨ a.zone = 0 := by
  have hvalid := a.splitAuthority_text
  obtain ⟨ip, port, zone⟩ := a
  cases ip with
  | four b c d e =>
    exact iff_of_true ((names_beside_iff _ port (toList_text_four b c d e port zone)).mpr rfl) (.inl rfl)
  | eight groups =>
    have hchars := toList_text_bracketed groups port zone
    have hmachine := machine?_bracketed groups zone
    rw [← host_bracketed (text_subset_alphabet _) zone port, ← hchars] at hmachine
    have hport := port?_beside (bracketed (IpAddress.eight groups).text.toList zone) port
    rw [← hchars] at hport
    -- The reader of hosts takes no zone, so an address with one names no machine.
    by_cases hzone : zone = 0
    · rw [if_pos hzone] at hmachine
      exact iff_of_true ⟨hvalid, hmachine, hport⟩ (.inr hzone)
    · rw [if_neg hzone] at hmachine
      refine iff_of_false (fun h => ?_) (not_or.mpr ⟨Bool.false_ne_true, hzone⟩)
      cases hmachine.symm.trans h.machine

end Address

end HttpService
