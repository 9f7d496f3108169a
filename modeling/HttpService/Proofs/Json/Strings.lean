import HttpService.Json.Printing
import HttpService.Json.Reading
import HttpService.Octets.Ascii

/-!
# Strings of JSON are read as they were written

Between its quotes a text is escaped character by character, and each escape is read as the character that it was
written for. So a reader comes to the closing quote with the text, whatever the text holds.

* `Json.stringFrom_escaped` — a string is read back, up to and with its closing quote.
* `Json.read?_quoted`, `Json.read?_text_member` — so are a string as a value and an object whose one member is a string.
* `Json.length_octets_quoted_le` — an escape has six octets at most.
-/

namespace HttpService.Json

/-! ## Characters -/

/-- What four digits spell does not depend on what follows them. -/
theorem unit?_append {ds : List Char} {n : Nat} (h : unit? ds = some (n, [])) (rest : List Char) :
    unit? (ds ++ rest) = some (n, rest) := by
  unfold unit? at h
  split at h
  next a b c d cs =>
    simp only [Option.bind_eq_bind, Option.bind_eq_some_iff, pure, Option.some.injEq, Prod.mk.injEq] at h
    obtain ⟨va, ha, vb, hb, vc, hc, vd, hd, hn, rfl⟩ := h
    simp only [List.cons_append, List.nil_append, unit?, ha, hb, hc, hd, Option.bind_eq_bind, Option.bind_some, ← hn]
    rfl
  next => cases h

/-- The controls are spelled with four digits. -/
theorem unit?_fourDigits {n : Nat} (h : n < 0x20) : unit? (fourDigits n) = some (n, []) := by
  have key : ∀ n ∈ List.range 0x20, unit? (fourDigits n) = some (n, []) := by decide +kernel
  exact key n (List.mem_range.mpr h)

/-- A control character is escaped by four digits of one octet each. -/
theorem ascii_fourDigits {n : Nat} (h : n < 0x20) :
    (fourDigits n).length = 4 ∧ ∀ d ∈ fourDigits n, d.toNat < 128 := by
  have key : ∀ n ∈ List.range 0x20, (fourDigits n).length = 4 ∧ ((fourDigits n).all fun d => d.toNat < 128) = true := by
    decide +kernel
  obtain ⟨hlen, hall⟩ := key n (List.mem_range.mpr h)
  exact ⟨hlen, fun d hd => of_decide_eq_true (List.all_eq_true.mp hall d hd)⟩

/-- A control is read from its four digits: it is neither half of a pair. -/
theorem escape?_fourDigits {c : Char} (h : c.toNat < 0x20) (rest : List Char) :
    escape? ('u' :: fourDigits c.toNat ++ rest) = some (c, rest) := by
  have hlow : ¬ (0xDC00 ≤ c.toNat ∧ c.toNat ≤ 0xDFFF) := by omega
  have hhigh : ¬ (0xD800 ≤ c.toNat ∧ c.toNat ≤ 0xDBFF) := by omega
  rw [List.cons_append, escape?, unit?_append (unit?_fourDigits h)]
  simp only [Option.bind_eq_bind, Option.bind_some, Bool.and_eq_true, decide_eq_true_eq, if_neg hlow, if_neg hhigh,
    Char.ofNat_toNat]

/-- What a character is written as: itself, or a backslash with what it is read from. -/
inductive Escape (c : Char) : List Char → Prop where
  | plain (hquote : c ≠ '\x22') (hslash : c ≠ '\\') (hshown : ¬ c.toNat < 0x20) : Escape c [c]
  | escape {cs : List Char} (hlen : cs.length ≤ 5) (hascii : ∀ d ∈ cs, d.toNat < 128)
      (hread : ∀ rest, escape? (cs ++ rest) = some (c, rest)) : Escape c ('\\' :: cs)

/-- A character is escaped in a way that is read back. -/
theorem escape_escaped (c : Char) : Escape c (escaped c) := by
  have hsingle {d : Char} (hd : d.toNat < 128) (hread : ∀ rest, escape? (d :: rest) = some (c, rest)) :
      Escape c ['\\', d] :=
    .escape (Nat.le_add_left 1 4) (fun _ hmem => List.mem_singleton.mp hmem ▸ hd) hread
  unfold escaped
  -- Seven characters have an escape of one letter; the other controls are spelled with digits.
  split
  · exact hsingle (by decide) fun _ => rfl
  · exact hsingle (by decide) fun _ => rfl
  · exact hsingle (by decide) fun _ => rfl
  · exact hsingle (by decide) fun _ => rfl
  · exact hsingle (by decide) fun _ => rfl
  · exact hsingle (by decide) fun _ => rfl
  · exact hsingle (by decide) fun _ => rfl
  next hquote hslash _ _ _ _ _ =>
    split
    next hcontrol =>
      obtain ⟨hlen, hascii⟩ := ascii_fourDigits hcontrol
      exact .escape (Nat.le_of_eq (congrArg Nat.succ hlen)) (List.forall_mem_cons.mpr ⟨by decide, hascii⟩)
        (escape?_fourDigits hcontrol)
    next hshown => exact .plain hquote hslash hshown

/-! ## Strings -/

/-- **A string is read back** with whatever was read before it, if there is fuel for its characters. -/
theorem stringFrom_escaped {fuel : Nat} {cs : List Char} (hfuel : cs.length < fuel) (read rest : List Char) :
    stringFrom fuel read (cs.flatMap escaped ++ '\x22' :: rest) = some (String.ofList (read.reverse ++ cs), rest) := by
  induction cs generalizing fuel read with
  | nil =>
    obtain ⟨fuel, rfl⟩ : ∃ k, fuel = k + 1 := ⟨fuel - 1, by omega⟩
    rw [List.append_nil]
    rfl
  | cons c cs ih =>
    rw [List.length_cons] at hfuel
    obtain ⟨fuel, rfl⟩ : ∃ k, fuel = k + 1 := ⟨fuel - 1, by omega⟩
    have hrest := ih (Nat.lt_of_succ_lt_succ hfuel) (c :: read)
    rw [List.reverse_cons, List.append_assoc, List.singleton_append] at hrest
    rw [List.flatMap_cons, List.append_assoc, ← hrest]
    -- The reader has to come past the character, to the place where the rest is read.
    have hc := escape_escaped c
    generalize escaped c = written at hc
    cases hc with
    | plain hquote hslash hshown =>
      rw [List.singleton_append, stringFrom, if_neg hshown]
      · exact hquote
      · exact hslash
    | escape _ _ hread =>
      rw [List.cons_append, stringFrom, hread]
      rfl

/-- A quoted text with what follows it, behind its opening quote. -/
theorem toList_quoted (s : String) : (quoted s).toList = '\x22' :: (s.toList.flatMap escaped ++ ['\x22']) := by
  rw [quoted, String.toList_ofList, List.cons_append]

/-- Escaping does not make a text shorter. -/
theorem length_le_flatMap_escaped (cs : List Char) : cs.length ≤ (cs.flatMap escaped).length := by
  induction cs with
  | nil => exact Nat.le_refl 0
  | cons c cs ih =>
    have hpos : 1 ≤ (escaped c).length := by
      have hc := escape_escaped c
      generalize escaped c = written at hc
      cases hc with
      | plain => exact Nat.le_refl 1
      | escape => exact Nat.le_add_left 1 _
    rw [List.flatMap_cons, List.length_append, List.length_cons]
    omega

/-- The reader of strings has fuel for the rest of the text, and so for a string in it. -/
theorem stringFrom_quoted (s : String) (rest : List Char) :
    stringFrom ((s.toList.flatMap escaped ++ '\x22' :: rest).length + 1) []
        (s.toList.flatMap escaped ++ '\x22' :: rest) = some (s, rest) := by
  have hlen := length_le_flatMap_escaped s.toList
  have hfuel : s.toList.length < (s.toList.flatMap escaped ++ '\x22' :: rest).length + 1 := by
    rw [List.length_append]
    omega
  rw [stringFrom_escaped hfuel, List.reverse_nil, List.nil_append, String.ofList_toList]

/-! ## Values -/

/-- A string is read back as a value. -/
theorem value?_quoted (fuel depth : Nat) (s : String) (rest : List Char) :
    value? (fuel + 1) depth ((quoted s).toList ++ rest) = some (.string s, rest) := by
  rw [toList_quoted, List.cons_append, List.append_assoc, List.singleton_append]
  show (stringFrom _ [] _).map _ = _
  rw [stringFrom_quoted]
  rfl

/-- **A string is read back from its text.** -/
theorem read?_quoted (s : String) : read? (quoted s) = some (.string s) := by
  have hvalue := value?_quoted (2 * (quoted s).toList.length + 1) maxDepth s []
  rw [List.append_nil] at hvalue
  show (value? ((2 * (quoted s).toList.length + 1) + 1) maxDepth (quoted s).toList >>= _) = _
  rw [hvalue]
  rfl

/-- The one member of an object is read back, with the brace that closes the object. -/
theorem members?_quoted (fuel depth : Nat) (name s : String) (rest : List Char) :
    members? (fuel + 2) depth ((quoted name).toList ++ ':' :: ((quoted s).toList ++ '\x7d' :: rest)) =
      some ([(name, .string s)], rest) := by
  have hquote (cs : List Char) : skipBlanks ('\x22' :: cs) = '\x22' :: cs := rfl
  have hcolon (cs : List Char) : skipBlanks (':' :: cs) = ':' :: cs := rfl
  have hbrace (cs : List Char) : skipBlanks ('\x7d' :: cs) = '\x7d' :: cs := rfl
  rw [toList_quoted name, List.cons_append, List.append_assoc, List.singleton_append, members?]
  simp only [hquote, stringFrom_quoted, hcolon, value?_quoted, hbrace, Option.bind_eq_bind, Option.bind_some]

/-- An object with a member is read from its opening brace on. -/
theorem value?_brace (fuel depth : Nat) (name : String) (rest : List Char) :
    value? (fuel + 1) (depth + 2) ('\x7b' :: ((quoted name).toList ++ rest)) =
      (members? fuel (depth + 1) ((quoted name).toList ++ rest)).map fun p => (JsonValue.ofMembers p.1, p.2) := by
  rw [toList_quoted, List.cons_append]
  rfl

/-- **An object with one member that is a string is read back from its text.** -/
theorem read?_text_member (name s : String) :
    read? (JsonValue.ofMembers [(name, .string s)]).text = some (.ofMembers [(name, .string s)]) := by
  have htext : (JsonValue.ofMembers [(name, .string s)]).text.toList =
      '\x7b' :: ((quoted name).toList ++ ':' :: ((quoted s).toList ++ '\x7d' :: [])) := by
    show ("\x7b" ++ (quoted name ++ ":" ++ quoted s) ++ "\x7d").toList = _
    simp [String.toList_append]
  -- An object with one member takes three steps of fuel, of which the text gives more.
  have hvalue (fuel : Nat) : value? (fuel + 3) maxDepth
      ('\x7b' :: ((quoted name).toList ++ ':' :: ((quoted s).toList ++ '\x7d' :: []))) =
        some (.ofMembers [(name, .string s)], []) := by
    rw [maxDepth, value?_brace, members?_quoted]
    rfl
  unfold read?
  rw [htext]
  show (value? ((2 * _ + 1) + 3) maxDepth _ >>= _) = _
  rw [hvalue]
  rfl

/-! ## Lengths -/

/-- It makes a character at most six times as long. -/
theorem length_octets_escaped_le (c : Char) :
    (octets (String.ofList (escaped c))).length ≤ 6 * (octets (String.ofList [c])).length := by
  have hc := escape_escaped c
  generalize escaped c = written at hc
  cases hc with
  | plain => exact Nat.le_mul_of_pos_left _ (by decide)
  | escape hlen hascii _ =>
    have hone : 1 ≤ (octets (String.ofList [c])).length := by
      rw [octets_ofList, List.flatMap_singleton, String.length_utf8EncodeChar]
      exact c.utf8Size_pos
    rw [octets_ofList_of_ascii (List.forall_mem_cons.mpr ⟨by decide, hascii⟩), List.length_map, List.length_cons]
    omega

/-- **An escape has six octets at most**, and there is one quote on either side. -/
theorem length_octets_quoted_le (s : String) : (octets (quoted s)).length ≤ 6 * (octets s).length + 2 := by
  -- The longest escape takes six octets, and stands for one at least.
  have hescaped (cs : List Char) : (octets (String.ofList (cs.flatMap escaped))).length ≤
      6 * (octets (String.ofList cs)).length := by
    induction cs with
    | nil => exact Nat.le_refl 0
    | cons c cs ih =>
      have hc := length_octets_escaped_le c
      rw [← List.singleton_append (x := c), List.flatMap_append, List.flatMap_singleton, String.ofList_append,
        String.ofList_append, octets_append, octets_append, List.length_append, List.length_append]
      omega
  have hchars := hescaped s.toList
  have hquote : (octets (String.ofList ['\x22'])).length = 1 := by decide
  rw [String.ofList_toList] at hchars
  rw [quoted, ← List.singleton_append (x := '\x22'), String.ofList_append, String.ofList_append, octets_append,
    octets_append, List.length_append, List.length_append, hquote]
  omega

end HttpService.Json
