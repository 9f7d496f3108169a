import HttpService.Octets

/-!
# Octets of ASCII text

A text of ASCII characters has one octet for each character (`octets_ofList_of_ascii`), so what is said of its
characters can be said of its octets.
-/

namespace HttpService

/-- The octets of a text are those of its characters, in order. -/
theorem octets_ofList (cs : List Char) :
    octets (String.ofList cs) = cs.flatMap String.utf8EncodeChar := by
  simp [octets, List.utf8Encode]

/-- A character of the lower half is one octet. -/
theorem utf8EncodeChar_of_ascii {c : Char} (h : c.toNat < 128) : String.utf8EncodeChar c = [octet c] := by
  -- One octet is enough for a character of seven bits.
  have hv : c.val.toNat ≤ 127 := Nat.le_of_lt_succ h
  unfold String.utf8EncodeChar
  simp only [if_pos hv]
  rfl

/-- An ASCII text has one octet for each character. -/
theorem octets_ofList_of_ascii {cs : List Char} (h : ∀ c ∈ cs, c.toNat < 128) :
    octets (String.ofList cs) = cs.map octet := by
  rw [octets_ofList]
  induction cs with
  | nil => rfl
  | cons c cs ih =>
    have hc := h c List.mem_cons_self
    have hcs := ih fun d hd => h d (List.mem_cons_of_mem _ hd)
    rw [List.flatMap_cons, utf8EncodeChar_of_ascii hc, hcs]
    rfl

theorem length_octets (s : String) : (octets s).length = s.utf8ByteSize := Array.length_toList

/-- Texts one after the other have their octets one after the other. -/
theorem octets_append (s t : String) : octets (s ++ t) = octets s ++ octets t := by
  simp [octets]

/-- The character numbered as an octet has the octet's number. -/
theorem toNat_ofNat_octet (b : UInt8) : (Char.ofNat b.toNat).toNat = b.toNat := by
  -- No number of eight bits is a surrogate.
  have h : b.toNat.isValidChar := Or.inl (Nat.lt_trans b.toNat_lt (by decide))
  rw [Char.ofNat, dif_pos h]
  rfl

/-- The character numbered as an octet has that octet. -/
theorem octet_ofNat {b : UInt8} : octet (Char.ofNat b.toNat) = b := by
  apply UInt8.toNat_inj.mp
  rw [octet, UInt32.toNat_toUInt8]
  exact (congrArg (· % 256) (toNat_ofNat_octet b)).trans (Nat.mod_eq_of_lt b.toNat_lt)

end HttpService
