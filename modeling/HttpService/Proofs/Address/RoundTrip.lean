import HttpService.Address.Reading
import HttpService.Proofs.Text.Decimal

/-!
# Addresses are read as they are written

Where the number of a machine stands at the front of a text, its reader takes it and stops behind it, if what follows
cannot be taken for a part of it.

* `Address.Reading.number_toDigits` — a number is read from its digits.
* `IpAddress.Spelling`, `IpAddress.spelling_groupedText` — the three forms in which eight groups are written: one by
  one, with a run of zero groups left out, or ending in four bytes.
* `Address.Reading.eight_of_spelling` — each of the three is read as those groups.
* `IpAddress.read?_text`, `Address.read?_text` — so a machine is read back from its text, and so is an address.
-/

namespace HttpService

namespace IpAddress

/-! ## How numbers are written -/

theorem toList_dotted (a b c d : Nat) : (dotted a b c d).toList =
    Decimal.digits a ++ '.' :: (Decimal.digits b ++ '.' :: (Decimal.digits c ++ '.' :: Decimal.digits d)) := by
  simp [dotted, Decimal.text]

/-- Groups with colons between them, and one in front unless they are the first. -/
def groupChars (first : Bool) : List UInt16 → List Char
  | [] => []
  | g :: gs => (if first then [] else [':']) ++ (Text.hex g.toNat ++ groupChars false gs)

theorem toList_groupsText (gs : List UInt16) : (groupsText gs).toList = groupChars true gs := by
  unfold groupsText
  rw [String.toList_intercalate]
  induction gs with
  | nil => rfl
  | cons g gs ih =>
    cases gs with
    | nil => simp [groupChars]
    | cons g' gs =>
      simp only [List.map_cons, List.intercalate_cons_cons] at ih ⊢
      rw [ih, String.toList_ofList]
      simp [groupChars]

/-- Written groups are made of colons and hexadecimal digits. -/
theorem of_mem_groupChars {first : Bool} {gs : List UInt16} {c : Char} (h : c ∈ groupChars first gs) :
    c = ':' ∨ ∃ d < 16, c = d.digitChar := by
  induction gs generalizing first with
  | nil => exact absurd h List.not_mem_nil
  | cons g gs ih =>
    rw [groupChars, List.mem_append, List.mem_append] at h
    rcases h with h | h | h
    · split at h
      · exact absurd h List.not_mem_nil
      · exact .inl (List.mem_singleton.mp h)
    · exact .inr (Decimal.exists_of_mem_toDigits (by decide) h)
    · exact ih h

/-- So no point is in them, by which four bytes would be told. -/
theorem point_not_mem_groupChars (first : Bool) (gs : List UInt16) : '.' ∉ groupChars first gs := by
  intro hmem
  have key : ∀ d ∈ List.range 16, '.' ≠ d.digitChar := by decide
  rcases of_mem_groupChars hmem with hcolon | ⟨d, hd, hdigit⟩
  · cases hcolon
  · exact key d (List.mem_range.mpr hd) hdigit

/-- In these groups there is such a run of zeros. -/
def HasZeros (gs : List UInt16) (r : ZeroRun) : Prop :=
  ∃ front back, gs = front ++ List.replicate r.length 0 ++ back ∧ front.length = r.start

/-- What is found is a run of zeros, if the best one so far is and the current one reaches up to here. -/
theorem hasZeros_longestZeros {best current : ZeroRun} {before front gs : List UInt16}
    (hbest : HasZeros (before ++ gs) best) (hbefore : before = front ++ List.replicate current.length 0)
    (hcurrent : current.length ≠ 0 → front.length = current.start) :
    HasZeros (before ++ gs) (longestZeros best current before.length gs) := by
  -- On the groups still to be seen: the best run so far is one, and the current one reaches up to here.
  induction gs generalizing best current before front with
  | nil => exact hbest
  | cons g gs ih =>
    have hsplit : before ++ g :: gs = (before ++ [g]) ++ gs := List.append_cons before g gs
    have hplace : before.length + 1 = (before ++ [g]).length := by simp
    rw [longestZeros, hplace]
    rw [hsplit] at hbest ⊢
    split
    next hg =>
      subst hg
      -- A zero makes the current run longer by one, or begins it here.
      have hlonger : before ++ [0] = front ++ List.replicate (current.length + 1) 0 := by
        rw [hbefore, List.replicate_succ', List.append_assoc]
      have hstart : front.length = if current.length = 0 then before.length else current.start := by
        split
        next hzero => rw [hbefore, hzero, List.replicate_zero, List.append_nil]
        next hzero => exact hcurrent hzero
      have hbetter : HasZeros (before ++ [0] ++ gs)
          ⟨if current.length = 0 then before.length else current.start, current.length + 1⟩ :=
        ⟨front, gs, by rw [hlonger], hstart⟩
      refine ih ?_ hlonger fun _ => hstart
      by_cases hlt : best.length < current.length + 1
      · rw [if_pos hlt]
        exact hbetter
      · rw [if_neg hlt]
        exact hbest
    next => exact ih hbest (List.append_nil _).symm fun h => absurd rfl h

/-- The ways in which groups are written. -/
inductive Spelling (gs : List UInt16) : List Char → Prop where
  /-- One by one. -/
  | whole : Spelling gs (groupChars true gs)
  /-- With two colons in the place of some zero groups. -/
  | gap {front back : List UInt16} {n : Nat} (hn : 1 < n) (hgs : gs = front ++ List.replicate n 0 ++ back) :
      Spelling gs (groupChars true front ++ ':' :: ':' :: groupChars true back)
  /-- As four bytes, which are the last two groups. -/
  | bytes {high low : UInt16} (hgs : gs = [0, 0, 0, 0, 0, 0xFFFF, high, low]) :
      Spelling gs ("::ffff:".toList ++
        (dotted (high.toNat / 256) (high.toNat % 256) (low.toNat / 256) (low.toNat % 256)).toList)

/-- However the longest run of zeros turns out, the text is one of the spellings of its groups. -/
theorem spelling_groupedText (gs : List UInt16) : Spelling gs (groupedText gs).toList := by
  unfold groupedText
  split
  next high low =>
    rw [String.toList_append]
    exact .bytes rfl
  next =>
    simp only
    split
    next hn =>
      -- The search begins with no run at all, which is one of length zero.
      have hnone : HasZeros gs ⟨0, 0⟩ := ⟨[], gs, rfl, rfl⟩
      have hfound : HasZeros gs (longestZeros ⟨0, 0⟩ ⟨0, 0⟩ 0 gs) :=
        hasZeros_longestZeros (show HasZeros ([] ++ gs) ⟨0, 0⟩ from hnone) (List.nil_append []).symm nofun
      obtain ⟨front, back, hgs, hstart⟩ := hfound
      generalize longestZeros ⟨0, 0⟩ ⟨0, 0⟩ 0 gs = zeros at hn hgs hstart
      -- The gap is where the run was found: the groups on its two sides are written as they are.
      have hfront : gs.take zeros.start = front := by rw [hgs, ← hstart, List.append_assoc, List.take_left]
      have hback : gs.drop (zeros.start + zeros.length) = back := by
        have hlength : (front ++ List.replicate zeros.length (0 : UInt16)).length = zeros.start + zeros.length := by
          rw [List.length_append, List.length_replicate, hstart]
        rw [hgs, ← hlength, List.drop_left]
      have htext := Spelling.gap hn hgs
      rw [hfront, hback]
      simpa [toList_groupsText] using htext
    next =>
      rw [toList_groupsText]
      exact .whole

end IpAddress

/-- How a zone is written: zone zero not at all. -/
def Address.zoneChars (zone : UInt32) : List Char := if zone = 0 then [] else '%' :: Decimal.digits zone.toNat

namespace Address.Reading

/-! ## Readers -/

section Readers

variable {α β : Type} {r : Reads α} {f : α → Reads β} {a : α} {cs rest : List Char}

theorem bind_of_some (h : r cs = some (a, rest)) : (r >>= f) cs = f a rest := by
  show (r cs).bind _ = _
  rw [h]
  rfl

theorem bind_of_none (h : r cs = none) : (r >>= f) cs = none := by
  show (r cs).bind _ = _
  rw [h]
  rfl

theorem map_of_some {g : α → β} (h : r cs = some (a, rest)) : (g <$> r) cs = some (g a, rest) := by
  show (r cs).bind _ = _
  rw [h]
  rfl

theorem map_of_none {g : α → β} (h : r cs = none) : (g <$> r) cs = none := by
  show (r cs).bind _ = _
  rw [h]
  rfl

theorem optional_of_some (h : r cs = some (a, rest)) : optional r cs = some (some a, rest) := by
  show ((some <$> r) cs <|> _) = _
  rw [map_of_some h]
  rfl

theorem optional_of_none (h : r cs = none) : optional r cs = some (none, cs) := by
  show ((some <$> r) cs <|> _) = _
  rw [map_of_none h]
  rfl

theorem orElse_of_some {r' : Reads α} (h : r cs = some (a, rest)) : (r <|> r') cs = some (a, rest) := by
  show (r cs <|> _) = _
  rw [h]
  rfl

theorem orElse_of_none {r' : Reads α} (h : r cs = none) : (r <|> r') cs = r' cs := by
  show (r cs <|> _) = _
  rw [h]
  rfl

theorem mark_self (c : Char) (cs : List Char) : mark c (c :: cs) = some ((), cs) := if_pos rfl

theorem mark_of_head {c : Char} (h : ∀ d ∈ cs.head?, d ≠ c) : mark c cs = none := by
  cases cs with
  | nil => rfl
  | cons d cs => exact if_neg (h d rfl).symm

end Readers

/-! ## Numbers -/

/-- The value of a digit of a base. -/
def digit? (base : Nat) (c : Char) : Option Nat :=
  if c.toNat < 128 then (Octet.hexValue? (octet c)).filter (· < base) else none

/-- A digit is worth what it was written for. -/
theorem digit?_digitChar {base d : Nat} (hbase : base ≤ 16) (hd : d < base) : digit? base d.digitChar = some d := by
  have key : ∀ d ∈ List.range 16, d.digitChar.toNat < 128 ∧ Octet.hexValue? (octet d.digitChar) = some d := by decide
  obtain ⟨hascii, hvalue⟩ := key d (List.mem_range.mpr (Nat.lt_of_lt_of_le hd hbase))
  rw [digit?, if_pos hascii, hvalue, Option.filter_some, if_pos (decide_eq_true hd)]

/-- What does not begin with a digit stops a number. -/
theorem forall_head?_cons {base : Nat} {d : Char} (h : digit? base d = none) (cs : List Char) :
    ∀ c ∈ (d :: cs).head?, digit? base c = none := by
  rintro c ⟨⟩
  exact h

/-- What is no hexadecimal digit is no decimal digit. -/
theorem digit?_ten_of_sixteen {c : Char} (h : digit? 16 c = none) : digit? 10 c = none := by
  unfold digit? at h ⊢
  split
  next hascii =>
    rw [if_pos hascii] at h
    -- Both read the value of base sixteen, and the base only bounds it.
    cases hvalue : Octet.hexValue? (octet c) with
    | none => rfl
    | some d =>
      rw [hvalue, Option.filter_some] at h
      rw [Option.filter_some]
      split at h
      · cases h
      next hd =>
        refine if_neg ?_
        simp only [decide_eq_true_eq] at hd ⊢
        omega
  next => rfl

/-- The value of the digits of a number is the number. -/
theorem foldl_toDigits {base : Nat} (hbase : 1 < base) (hbase' : base ≤ 16) (n : Nat) :
    (Nat.toDigits base n).foldl (fun n c => n * base + (digit? base c).getD 0) 0 = n := by
  induction n using Nat.strongRecOn with
  | ind n ih =>
    by_cases hn : n < base
    · rw [Nat.toDigits_of_lt_base hn, List.foldl_cons, digit?_digitChar hbase' hn]
      simp
    · have hle : base ≤ n := Nat.not_lt.mp hn
      have hlast : n % base < base := Nat.mod_lt n (by omega)
      rw [Nat.toDigits_of_base_le hbase hle, List.foldl_append, ih (n / base) (Nat.div_lt_self (by omega) hbase),
        List.foldl_cons, digit?_digitChar hbase' hlast]
      exact Nat.div_add_mod' n base

section Numbers

variable {base bound n : Nat} {most : Option Nat} {zeroLed : Bool} {cs rest : List Char}

theorem takeWhile_of_head (h : ∀ c ∈ cs.head?, digit? base c = none) :
    cs.takeWhile (fun c => (digit? base c).isSome) = [] := by
  cases cs with
  | nil => rfl
  | cons c cs => exact List.takeWhile_cons_of_neg (by simp [h c rfl])

/-- What is read depends on the digits in front alone. -/
theorem number_of_takeWhile {ds : List Char} (hds : cs.takeWhile (fun c => (digit? base c).isSome) = ds)
    (hn : ds.foldl (fun n c => n * base + (digit? base c).getD 0) 0 = n) :
    number base bound most zeroLed cs =
      if ds.isEmpty || most.any (· < ds.length) || bound ≤ n ||
          (!zeroLed && 1 < ds.length && ds.head? == some '0') then none
      else some (n, cs.drop ds.length) := by
  rw [← hn, ← hds]
  rfl

theorem number_of_head (h : ∀ c ∈ cs.head?, digit? base c = none) : number base bound most zeroLed cs = none := by
  rw [number_of_takeWhile (takeWhile_of_head h) rfl]
  rfl

/-- **A number is read from its digits**, if it fits. -/
theorem number_toDigits (hbase : 1 < base) (hbase' : base ≤ 16) (hn : n < bound)
    (hmost : ∀ k ∈ most, (Nat.toDigits base n).length ≤ k) (hrest : ∀ c ∈ rest.head?, digit? base c = none) :
    number base bound most zeroLed (Nat.toDigits base n ++ rest) = some (n, rest) := by
  have hdigits : ∀ c ∈ Nat.toDigits base n, (digit? base c).isSome = true := by
    intro c hc
    obtain ⟨d, hd, rfl⟩ := Decimal.exists_of_mem_toDigits hbase hc
    rw [digit?_digitChar hbase' hd]
    rfl
  have htake : (Nat.toDigits base n ++ rest).takeWhile (fun c => (digit? base c).isSome) = Nat.toDigits base n := by
    rw [List.takeWhile_append_of_pos hdigits, takeWhile_of_head hrest, List.append_nil]
  -- None of the reasons to refuse the digits is there.
  have hgiven : (Nat.toDigits base n).isEmpty = false := List.isEmpty_eq_false_iff.mpr Nat.toDigits_ne_nil
  have hfew : most.any (· < (Nat.toDigits base n).length) = false := by
    cases most with
    | none => rfl
    | some k => exact decide_eq_false (Nat.not_lt.mpr (hmost k rfl))
  have hled : (!zeroLed && 1 < (Nat.toDigits base n).length && (Nat.toDigits base n).head? == some '0') = false := by
    by_cases hzero : n = 0
    · rw [hzero, Nat.toDigits_of_lt_base (by omega)]
      simp
    · rw [beq_eq_false_iff_ne.mpr (Decimal.head?_toDigits hbase hbase' hzero), Bool.and_false]
  have hfits : decide (bound ≤ n) = false := decide_eq_false (Nat.not_le.mpr hn)
  rw [number_of_takeWhile htake (foldl_toDigits hbase hbase' n), hgiven, hfew, hled, hfits, List.drop_left]
  rfl

/-- What is left behind a number is the back of the text. -/
theorem suffix_of_number (h : number base bound most zeroLed cs = some (n, rest)) : rest <:+ cs := by
  rw [number_of_takeWhile rfl rfl] at h
  split at h
  · cases h
  · cases h
    exact List.drop_suffix _ _

end Numbers

/-! ## Four bytes -/

section Bytes

variable {cs rest : List Char}

/-- A byte is read back, if no digit follows it. -/
theorem byte_digits (a : UInt8) (hrest : ∀ c ∈ rest.head?, digit? 10 c = none) :
    byte (Decimal.digits a.toNat ++ rest) = some (a, rest) := by
  have hlt : a.toNat < 256 := a.toNat_lt
  have hfew : (Nat.toDigits 10 a.toNat).length ≤ 3 :=
    (Nat.length_toDigits_le_iff (by decide) (by decide)).mpr (by omega)
  have hnumber : number 10 256 (some 3) false (Decimal.digits a.toNat ++ rest) = some (a.toNat, rest) := by
    refine number_toDigits (by decide) (by decide) hlt (fun k hk => ?_) hrest
    obtain rfl := Option.some.inj hk
    exact hfew
  rw [byte, map_of_some hnumber, UInt8.ofNat_toNat]

/-- Four bytes, one by one. -/
theorem dotted_of_bytes {a b c d : UInt8} {cs₁ cs₂ cs₃ : List Char} (ha : byte cs = some (a, '.' :: cs₁))
    (hb : byte cs₁ = some (b, '.' :: cs₂)) (hc : byte cs₂ = some (c, '.' :: cs₃)) (hd : byte cs₃ = some (d, rest)) :
    dotted cs = some ((a, b, c, d), rest) := by
  rw [dotted, bind_of_some ha, bind_of_some (mark_self '.' cs₁), bind_of_some hb, bind_of_some (mark_self '.' cs₂),
    bind_of_some hc, bind_of_some (mark_self '.' cs₃), bind_of_some hd]
  rfl

/-- **Four bytes are read as they are written.** -/
theorem dotted_text (a b c d : UInt8) (hrest : ∀ c ∈ rest.head?, digit? 10 c = none) :
    dotted ((IpAddress.dotted a.toNat b.toNat c.toNat d.toNat).toList ++ rest) = some ((a, b, c, d), rest) := by
  have hpoint := forall_head?_cons (show digit? 10 '.' = none by decide)
  rw [IpAddress.toList_dotted]
  simp only [List.append_assoc, List.cons_append]
  exact dotted_of_bytes (byte_digits a (hpoint _)) (byte_digits b (hpoint _)) (byte_digits c (hpoint _))
    (byte_digits d hrest)

/-- Without a first digit there are no four bytes. -/
theorem dotted_of_head (h : ∀ c ∈ cs.head?, digit? 10 c = none) : dotted cs = none :=
  bind_of_none (map_of_none (number_of_head h))

/-- Without a point there are no four bytes. -/
theorem dotted_of_not_mem (h : '.' ∉ cs) : dotted cs = none := by
  cases hnumber : number 10 256 (some 3) false cs with
  | none => exact bind_of_none (map_of_none hnumber)
  | some read =>
    obtain ⟨n, rest⟩ := read
    have hpoint : '.' ∉ rest := fun hmem => h ((suffix_of_number hnumber).subset hmem)
    have hmark : mark '.' rest = none := mark_of_head fun d hd => by
      rintro rfl
      exact hpoint (List.mem_of_mem_head? hd)
    have hbyte : byte cs = some (UInt8.ofNat n, rest) := map_of_some hnumber
    rw [dotted, bind_of_some hbyte]
    exact bind_of_none hmark

end Bytes

/-! ## Groups -/

/-- Neither a group nor a colon in front of a group stands here. -/
structure Ends (cs : List Char) : Prop where
  head : ∀ c ∈ cs.head?, digit? 16 c = none
  behindColon : ∀ cs', cs = ':' :: cs' → ∀ c ∈ cs'.head?, digit? 16 c = none

section Groups

variable {α : Type} {first bytes : Bool} {room g : Nat} {a b c d : UInt8} {more : List UInt16}
  {cs rest rest' : List Char}

/-- In front of the first group no colon is read. -/
theorem colon_first (r : Reads α) (cs : List Char) : (colon true *> r) cs = r cs := rfl

theorem colon_next (r : Reads α) (cs : List Char) : (colon false *> r) (':' :: cs) = r cs := rfl

/-- What is read behind the colon that stands in front of a group, if there is to be one. -/
theorem colon_cases (first : Bool) (r : Reads α) (cs : List Char) :
    (colon first *> r) cs = none ∨ (colon first *> r) cs = r cs ∨
      ∃ cs', cs = ':' :: cs' ∧ (colon first *> r) cs = r cs' := by
  cases first with
  | true => exact .inr (.inl (colon_first r cs))
  | false =>
    cases cs with
    | nil => exact .inl rfl
    | cons d cs =>
      by_cases hd : d = ':'
      · rw [hd]
        exact .inr (.inr ⟨cs, rfl, colon_next r cs⟩)
      · have hmark : mark ':' (d :: cs) = none := if_neg (Ne.symm hd)
        exact .inl (bind_of_none hmark)

/-- Two colons end a run of groups, for neither of them is in front of a group. -/
theorem ends_colons (cs : List Char) : Ends (':' :: ':' :: cs) where
  head := forall_head?_cons (by decide) _
  behindColon := by
    rintro cs' ⟨⟩
    exact forall_head?_cons (by decide) cs

/-- What reads nothing where no hexadecimal digit stands reads nothing here, colon or not. -/
theorem Ends.eq_none (h : Ends cs) {r : Reads α}
    (hr : ∀ cs : List Char, (∀ c ∈ cs.head?, digit? 16 c = none) → r cs = none) (first : Bool) :
    (colon first *> r) cs = none := by
  rcases colon_cases first r cs with hnone | heq | ⟨cs', rfl, heq⟩
  · exact hnone
  · exact heq.trans (hr cs h.head)
  · exact heq.trans (hr cs' (h.behindColon cs' rfl))

/-- Where no four bytes stand they are passed over, whether or not there would be room for them. -/
theorem optional_four_of_none (h : (colon first *> dotted) cs = none) (room : Nat) :
    optional (if 0 < room then colon first *> dotted else failure) cs = some (none, cs) := by
  refine optional_of_none ?_
  split
  · exact h
  · rfl

/-- Where nothing stands that could be read, no group is. -/
theorem groups_of_ends (h : Ends cs) (first : Bool) (room : Nat) : groups first room cs = some (([], false), cs) := by
  have hfour : (colon first *> dotted) cs = none :=
    h.eq_none (fun cs hcs => dotted_of_head fun c hc => digit?_ten_of_sixteen (hcs c hc)) first
  have hgroup : (colon first *> number 16 65536 (some 4) true) cs = none :=
    h.eq_none (fun cs hcs => number_of_head hcs) first
  cases room with
  | zero => rfl
  | succ room =>
    rw [groups, bind_of_some (optional_four_of_none hfour room)]
    exact bind_of_some (optional_of_none hgroup)

/-- A group is read, and then the groups behind it. -/
theorem groups_succ_of_group (hfour : (colon first *> dotted) cs = none)
    (hgroup : (colon first *> number 16 65536 (some 4) true) cs = some (g, rest))
    (hmore : groups false room rest = some ((more, bytes), rest')) :
    groups first (room + 1) cs = some ((UInt16.ofNat g :: more, bytes), rest') := by
  rw [groups, bind_of_some (optional_four_of_none hfour room)]
  refine (bind_of_some (optional_of_some hgroup)).trans ?_
  exact bind_of_some hmore

/-- Four bytes are read as the last two groups. -/
theorem groups_succ_of_four (hroom : 0 < room) (hfour : (colon first *> dotted) cs = some ((a, b, c, d), rest)) :
    groups first (room + 1) cs = some (([joined a b, joined c d], true), rest) := by
  rw [groups, if_pos hroom, bind_of_some (optional_of_some hfour)]
  rfl

/-- Without a point there are no four bytes, behind a colon or not. -/
theorem four_of_not_mem (h : '.' ∉ cs) (first : Bool) : (colon first *> dotted) cs = none := by
  rcases colon_cases first dotted cs with hnone | heq | ⟨cs', rfl, heq⟩
  · exact hnone
  · exact heq.trans (dotted_of_not_mem h)
  · exact heq.trans (dotted_of_not_mem fun hmem => h (List.mem_cons_of_mem ':' hmem))

/-- A group is read back, with the colon that was written in front of it. -/
theorem group_hex (first : Bool) (g : UInt16) (hrest : ∀ c ∈ rest.head?, digit? 16 c = none) :
    (colon first *> number 16 65536 (some 4) true) ((if first then [] else [':']) ++ (Text.hex g.toNat ++ rest)) =
      some (g.toNat, rest) := by
  have hlt : g.toNat < 65536 := g.toNat_lt
  have hfew : (Nat.toDigits 16 g.toNat).length ≤ 4 :=
    (Nat.length_toDigits_le_iff (by decide) (by decide)).mpr (by omega)
  have hnumber : number 16 65536 (some 4) true (Text.hex g.toNat ++ rest) = some (g.toNat, rest) := by
    refine number_toDigits (by decide) (by decide) hlt (fun k hk => ?_) hrest
    obtain rfl := Option.some.inj hk
    exact hfew
  cases first with
  | true => exact (colon_first _ _).trans hnumber
  | false => exact (colon_next _ _).trans hnumber

end Groups

/-- What cannot be taken for a part of a number: no point, no hexadecimal digit and no colon in front. -/
structure Stops (cs : List Char) : Prop where
  head : ∀ c ∈ cs.head?, digit? 16 c = none ∧ c ≠ ':'
  noPoint : '.' ∉ cs

/-- The end of the text stops a number. -/
theorem stops_nil : Stops [] := ⟨nofun, List.not_mem_nil⟩

/-- What stops a number also ends its groups. -/
theorem Stops.ends {cs : List Char} (h : Stops cs) : Ends cs where
  head c hc := (h.head c hc).1
  behindColon := by
    rintro cs' rfl
    exact absurd rfl (h.head ':' rfl).2

/-- Groups are read up to where no more follow. -/
theorem groups_groupChars {gs : List UInt16} {room : Nat} (first : Bool) {rest : List Char} (hroom : gs.length ≤ room)
    (hends : Ends rest) (hpoint : '.' ∉ rest) :
    groups first room (IpAddress.groupChars first gs ++ rest) = some ((gs, false), rest) := by
  induction gs generalizing first room with
  | nil => exact groups_of_ends hends first room
  | cons g gs ih =>
    cases room with
    | zero => exact absurd hroom (Nat.not_succ_le_zero _)
    | succ room =>
      have hnone : '.' ∉ IpAddress.groupChars first (g :: gs) ++ rest := by
        rw [List.mem_append, not_or]
        exact ⟨IpAddress.point_not_mem_groupChars first (g :: gs), hpoint⟩
      -- Behind a group stands the colon of the next one, or what follows all of them.
      have hbehind : ∀ c ∈ (IpAddress.groupChars false gs ++ rest).head?, digit? 16 c = none := by
        cases gs with
        | nil => exact hends.head
        | cons g' gs => exact forall_head?_cons (by decide) _
      have hmore : groups false room _ = _ := ih false (Nat.le_of_succ_le_succ hroom)
      rw [IpAddress.groupChars, List.append_assoc, List.append_assoc] at hnone ⊢
      rw [groups_succ_of_group (four_of_not_mem hnone first) (group_hex first g hbehind) hmore, UInt16.ofNat_toNat]

/-- Two groups that are written as four bytes are read as the two groups. -/
theorem dotted_split (high low : UInt16) {rest : List Char} (hrest : ∀ c ∈ rest.head?, digit? 10 c = none) :
    ∃ a b c d, dotted ((IpAddress.dotted (high.toNat / 256) (high.toNat % 256) (low.toNat / 256)
        (low.toNat % 256)).toList ++ rest) = some ((a, b, c, d), rest) ∧ joined a b = high ∧ joined c d = low := by
  have hbyte : ∀ n < 256, (UInt8.ofNat n).toNat = n := fun n hn => UInt8.toNat_ofNat_of_lt' hn
  have hhigh : ∀ g : UInt16, g.toNat / 256 < 256 := fun g => by
    have := g.toNat_lt
    omega
  have hlow : ∀ g : UInt16, g.toNat % 256 < 256 := fun g => Nat.mod_lt _ (by decide)
  -- Two bytes of a group put together are the group.
  have hjoined : ∀ g : UInt16, joined (UInt8.ofNat (g.toNat / 256)) (UInt8.ofNat (g.toNat % 256)) = g := by
    intro g
    rw [joined, hbyte _ (hhigh g), hbyte _ (hlow g), Nat.div_add_mod' g.toNat 256, UInt16.ofNat_toNat]
  have hread := dotted_text (UInt8.ofNat (high.toNat / 256)) (UInt8.ofNat (high.toNat % 256))
    (UInt8.ofNat (low.toNat / 256)) (UInt8.ofNat (low.toNat % 256)) hrest
  rw [hbyte _ (hhigh high), hbyte _ (hlow high), hbyte _ (hhigh low), hbyte _ (hlow low)] at hread
  exact ⟨_, _, _, _, hread, hjoined high, hjoined low⟩

/-! ## Eight groups -/

section Eight

variable {gs : Vector UInt16 8} {front back : List UInt16} {bytes : Bool} {cs cs' rest : List Char}

/-- Eight groups that are there are taken. -/
theorem taken_of_eq {all : List UInt16} (hall : all = gs.toList) :
    (if h : all.length = 8 then (return ⟨all.toArray, h⟩ : Reads (Vector UInt16 8)) else failure) rest =
      some (gs, rest) := by
  subst hall
  rw [dif_pos gs.length_toList]
  rfl

/-- Eight groups that are all written are read one by one. -/
theorem eight_of_whole (h : groups true 8 cs = some ((gs.toList, bytes), rest)) : eight cs = some (gs, rest) := by
  rw [eight, bind_of_some h]
  simp only
  rw [if_pos gs.length_toList]
  exact taken_of_eq rfl

/-- With a gap, the groups on its two sides are read and the gap is filled with zeros. -/
theorem eight_of_gap (hfront : groups true 8 cs = some ((front, false), ':' :: ':' :: cs')) (hlt : front.length < 8)
    (hback : groups true (7 - front.length) cs' = some ((back, bytes), rest)) (hgs : filled front back = gs.toList) :
    eight cs = some (gs, rest) := by
  rw [eight, bind_of_some hfront]
  simp only
  rw [if_neg (Nat.ne_of_lt hlt), if_neg Bool.false_ne_true, bind_of_some (mark_self ':' (':' :: cs')),
    bind_of_some (mark_self ':' cs'), bind_of_some hback]
  exact taken_of_eq hgs

/-- Four bytes at the end of fewer than eight groups without a gap are no number of a machine. -/
theorem eight_of_bytes (h : groups true 8 cs = some ((front, true), rest)) (hne : front.length ≠ 8) :
    eight cs = none := by
  rw [eight, bind_of_some h]
  simp only
  rw [if_neg hne, if_pos trivial]
  rfl

/-- A gap is read as the zero groups that it stands for. -/
theorem eight_of_filled (hgs : filled front back = gs.toList) (hlength : front.length + back.length < 7)
    (hrest : Stops rest) :
    eight (IpAddress.groupChars true front ++ ':' :: ':' :: (IpAddress.groupChars true back ++ rest)) =
      some (gs, rest) := by
  have hback : groups true (7 - front.length) (IpAddress.groupChars true back ++ rest) = some ((back, false), rest) :=
    groups_groupChars true (by omega) hrest.ends hrest.noPoint
  have hpoint : '.' ∉ ':' :: ':' :: (IpAddress.groupChars true back ++ rest) := by
    simp [IpAddress.point_not_mem_groupChars, hrest.noPoint]
  have hfront : groups true 8 (IpAddress.groupChars true front ++ _) = some ((front, false), _) :=
    groups_groupChars true (by omega) (ends_colons (IpAddress.groupChars true back ++ rest)) hpoint
  exact eight_of_gap hfront (by omega) hback hgs

/-- Four bytes behind a gap are read as the last two groups. -/
theorem eight_of_dotted {a b c d : UInt8} (hdotted : dotted cs = some ((a, b, c, d), rest))
    (hgs : [0, 0, 0, 0, 0, 0xFFFF, joined a b, joined c d] = gs.toList) :
    eight ("::ffff:".toList ++ cs) = some (gs, rest) := by
  have hlast : groups false 6 (':' :: cs) = some (([joined a b, joined c d], true), rest) :=
    groups_succ_of_four (by decide) ((colon_next dotted _).trans hdotted)
  have hletter : ∀ c ∈ ("ffff".toList ++ ':' :: cs).head?, digit? 10 c = none := forall_head?_cons (by decide) _
  have hcolon := forall_head?_cons (show digit? 16 ':' = none by decide) cs
  have hfour : (colon true *> dotted) ("ffff".toList ++ ':' :: cs) = none :=
    (colon_first dotted _).trans (dotted_of_head hletter)
  have hback := groups_succ_of_group hfour (group_hex true 0xFFFF hcolon) hlast
  exact eight_of_gap (groups_of_ends (ends_colons _) true 8) (by decide) hback hgs

/-- **Eight groups are read in whatever way they are written.** -/
theorem eight_of_spelling (h : IpAddress.Spelling gs.toList cs) (hrest : Stops rest) :
    eight (cs ++ rest) = some (gs, rest) := by
  have hlength : gs.toList.length = 8 := gs.length_toList
  -- By the form the address is spelled in, each read by its own branch.
  cases h with
  | whole => exact eight_of_whole (groups_groupChars true (Nat.le_of_eq hlength) hrest.ends hrest.noPoint)
  | @gap front back n hn hgs =>
    rw [hgs, List.length_append, List.length_append, List.length_replicate] at hlength
    have hzeros : 8 - front.length - back.length = n := by omega
    have hfilled : filled front back = gs.toList := by rw [filled, hzeros, hgs]
    rw [List.append_assoc]
    exact eight_of_filled hfilled (by omega) hrest
  | @bytes high low hgs =>
    obtain ⟨a, b, c, d, hdotted, rfl, rfl⟩ :=
      dotted_split high low fun c hc => digit?_ten_of_sixteen (hrest.ends.head c hc)
    rw [List.append_assoc]
    exact eight_of_dotted hdotted hgs.symm

end Eight

/-! ## Machines and addresses -/

section Machines

variable {rest : List Char}

/-- The text of eight groups is read back as these, whichever way it was spelled and whatever stops it. -/
theorem eight_text (groups : Vector UInt16 8) (hrest : Stops rest) :
    eight ((IpAddress.eight groups).text.toList ++ rest) = some (groups, rest) :=
  eight_of_spelling (IpAddress.spelling_groupedText groups.toList) hrest

/-- **A machine is read as it is written**, up to what cannot be a part of it. -/
theorem machine_text (ip : IpAddress) (hrest : Stops rest) : machine (ip.text.toList ++ rest) = some (ip, rest) := by
  cases ip with
  | four a b c d =>
    have hdotted : dotted ((IpAddress.four a b c d).text.toList ++ rest) = some ((a, b, c, d), rest) :=
      dotted_text a b c d fun c hc => digit?_ten_of_sixteen (hrest.ends.head c hc)
    -- Four bytes could be the end of eight groups, but the other groups are missing.
    have hfour := (colon_first dotted ((IpAddress.four a b c d).text.toList ++ rest)).trans hdotted
    have height := eight_of_bytes (groups_succ_of_four (Nat.succ_pos 6) hfour) (by simp)
    refine (orElse_of_none (bind_of_none height)).trans ?_
    exact bind_of_some hdotted
  | eight groups => exact orElse_of_some (bind_of_some (eight_text groups hrest))

/-- A text is read as a whole where nothing of it is left. -/
theorem whole?_of_some {α : Type} {r : Reads α} {a : α} {s : String} (h : r s.toList = some (a, [])) :
    whole? r s = some a := by
  rw [whole?, h]

/-- The port is read back, at the end of the text. -/
theorem ending_text (port : UInt16) : ending (':' :: Decimal.digits port.toNat) = some (port, []) := by
  have hnumber : number 10 65536 none true (Decimal.digits port.toNat ++ []) = some (port.toNat, []) :=
    number_toDigits (by decide) (by decide) port.toNat_lt nofun nofun
  rw [List.append_nil] at hnumber
  rw [ending, bind_of_some (mark_self ':' _), bind_of_some hnumber, UInt16.ofNat_toNat]
  rfl

/-- A zone is read back, and one that was not written is zero. -/
theorem zoned_zoneChars (zone : UInt32) : zoned (zoneChars zone ++ ']' :: rest) = some (zone, ']' :: rest) := by
  have hbracket := forall_head?_cons (show digit? 10 ']' = none by decide) rest
  unfold zoneChars
  split
  -- No zone is written for zero, and none is read where the bracket closes at once.
  next hzero =>
    have hnone : (mark '%' *> number 10 (Nat.pow 2 32) none true) (']' :: rest) = none := rfl
    rw [hzero, List.nil_append, zoned, bind_of_some (optional_of_none hnone)]
    rfl
  next =>
    have hnumber : number 10 (Nat.pow 2 32) none true (Decimal.digits zone.toNat ++ ']' :: rest) =
        some (zone.toNat, ']' :: rest) :=
      number_toDigits (by decide) (by decide) zone.toNat_lt nofun hbracket
    have hsome : (mark '%' *> number 10 (Nat.pow 2 32) none true)
        ('%' :: (Decimal.digits zone.toNat ++ ']' :: rest)) = some (zone.toNat, ']' :: rest) := hnumber
    rw [List.cons_append, zoned, bind_of_some (optional_of_some hsome), Option.getD_some, UInt32.ofNat_toNat]
    rfl

/-- A zone may follow a machine if what follows the zone may. -/
theorem stops_zoneChars (zone : UInt32) (hrest : Stops rest) : Stops (zoneChars zone ++ rest) := by
  unfold zoneChars
  split
  · exact hrest
  · refine ⟨?_, ?_⟩
    · rintro c ⟨⟩
      decide
    · have hdigits : '.' ∉ Decimal.digits zone.toNat := fun h => absurd (Decimal.isDigit_of_mem_digits h) (by decide)
      simp [hdigits, hrest.noPoint]

/-- A closing bracket stops the number in front of it, and its port has no point either. -/
theorem stops_bracket (port : Nat) : Stops (']' :: ':' :: Decimal.digits port) where
  head := by
    rintro c ⟨⟩
    decide
  noPoint := by
    have hdigits : '.' ∉ Decimal.digits port := fun h => absurd (Decimal.isDigit_of_mem_digits h) (by decide)
    simp [hdigits]

end Machines

end Address.Reading

open Address.Reading

/-- **The number of a machine is read back from its text.** -/
theorem IpAddress.read?_text (ip : IpAddress) : IpAddress.read? ip.text = some ip := by
  have hmachine := machine_text ip stops_nil
  rw [List.append_nil] at hmachine
  exact whole?_of_some hmachine

/-- With a zone behind it, the text of a machine is none. -/
theorem IpAddress.read?_zone (ip : IpAddress) (zone : UInt32) :
    IpAddress.read? (String.ofList (ip.text.toList ++ Address.zoneChars zone)) =
      if zone = 0 then some ip else none := by
  have hmachine := machine_text ip (stops_zoneChars zone stops_nil)
  rw [List.append_nil] at hmachine
  rw [IpAddress.read?, whole?, String.toList_ofList, hmachine, Address.zoneChars]
  by_cases hzone : zone = 0
  · rw [if_pos hzone, if_pos hzone]
  · rw [if_neg hzone, if_neg hzone]

namespace Address

theorem toList_text_four (a b c d : UInt8) (port : UInt16) (zone : UInt32) :
    (text ⟨.four a b c d, port, zone⟩).toList =
      (IpAddress.four a b c d).text.toList ++ ':' :: Decimal.digits port.toNat := by
  simp [text, Decimal.text]

/-- The text of an address with eight groups, which stand between brackets with their zone. -/
theorem toList_text_eight (groups : Vector UInt16 8) (port : UInt16) (zone : UInt32) :
    (text ⟨.eight groups, port, zone⟩).toList =
      '[' :: ((IpAddress.eight groups).text.toList ++
        (zoneChars zone ++ ']' :: ':' :: Decimal.digits port.toNat)) := by
  by_cases hzone : zone = 0
  · simp [text, Decimal.text, zoneChars, hzone]
  · simp [text, Decimal.text, zoneChars, hzone]

/-- **An address is read back from its text.** Only a machine of eight groups has a zone. -/
theorem read?_text (a : Address) (hzone : ∀ b c d e, a.ip = .four b c d e → a.zone = 0) :
    read? a.text = some a := by
  obtain ⟨ip, port, zone⟩ := a
  refine whole?_of_some ?_
  cases ip with
  | four b c d e =>
    obtain rfl : zone = 0 := hzone b c d e rfl
    have hcolon := forall_head?_cons (show digit? 10 ':' = none by decide) (Decimal.digits port.toNat)
    have hdotted := dotted_text b c d e hcolon
    rw [toList_text_four]
    refine orElse_of_some ((bind_of_some hdotted).trans ?_)
    exact bind_of_some (ending_text port)
  -- The form with dots is tried first, and the bracket turns it away.
  | eight groups =>
    rw [toList_text_eight]
    refine (orElse_of_none (bind_of_none (dotted_of_head (forall_head?_cons (by decide) _)))).trans ?_
    rw [eightAddress, bind_of_some (mark_self '[' _),
      bind_of_some (eight_text groups (stops_zoneChars zone (stops_bracket port.toNat))),
      bind_of_some (zoned_zoneChars zone), bind_of_some (mark_self ']' _), bind_of_some (ending_text port)]
    rfl

end Address

end HttpService
