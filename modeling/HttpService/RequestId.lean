import HttpService.Json.Value
import HttpService.Text.Blank

/-!
# Correlation identifiers

A request carries a number of 128 bits by which its traces are found again. It is spelled with 26 characters
of five bits each, from an alphabet without the letters that are easily misread. Both cases of a letter are
read, capitals are written, and white space around the characters is dropped.

The 26 characters hold 130 bits; the two highest are ignored in reading, so a text whose first character is
above `7` denotes the same identifier as one with a smaller first character.
-/

namespace HttpService

/-- A correlation identifier. -/
structure RequestId where
  value : Nat
  inRange : value < Nat.pow 2 128
deriving DecidableEq, Repr

namespace RequestId

/-- The characters, each at the place of its value. -/
def alphabet : List Char := "0123456789ABCDEFGHJKMNPQRSTVWXYZ".toList

/-- How many characters an identifier has. -/
def width : Nat := 26

/-- The character of a value below 32. -/
def digit (n : Nat) : Char := alphabet.getD n '0'

/-- The value of a character in either case. -/
def digitValue? (c : Char) : Option Nat := alphabet.idxOf? c.toUpper

/-- The last `width` characters of a number, highest first. -/
def spell : Nat → Nat → List Char
  | 0, _ => []
  | width + 1, n => spell width (n / 32) ++ [digit (n % 32)]

/-- The number that some characters spell after those already read. -/
def value? (led : Nat) : List Char → Option Nat
  | [] => some led
  | c :: cs => (digitValue? c).bind fun d => value? (led * 32 + d) cs

/-- Why a text is no identifier. -/
inductive Fault where
  | badLength
  | badCharacter
deriving DecidableEq, Repr

/-- The fault in words. -/
def Fault.message : Fault → String
  | .badLength => "invalid length"
  | .badCharacter => "invalid character"

/-- The identifier of the low 128 bits of a number. -/
def ofNat (n : Nat) : RequestId := ⟨n % Nat.pow 2 128, Nat.mod_lt _ (by decide)⟩

/-- The identifier made at a time, in milliseconds, with a random number of 80 bits. -/
def made (time random : Nat) : RequestId := ofNat (time % Nat.pow 2 48 * Nat.pow 2 80 + random % Nat.pow 2 80)

/-- The identifier that a text spells. Its length is counted in octets. -/
def ofText? (s : String) : Except Fault RequestId :=
  let t := Text.trim s
  -- The length is tested first, so a short text with a bad character fails by its length.
  if t.utf8ByteSize ≠ width then .error .badLength
  else
    match value? 0 t.toList with
    | some n => .ok (ofNat n)
    | none => .error .badCharacter

/-- The identifier as text. -/
def text (id : RequestId) : String := String.ofList (spell width id.value)

/-- The identifier that a header names, or else a fresh one. -/
def ofHeader (value : Option String) (fresh : RequestId) : RequestId :=
  match value.map ofText? with
  | some (.ok id) => id
  | _ => fresh

/-- The identifier as a value of JSON. -/
def json (id : RequestId) : JsonValue := .string id.text

/-- The identifier that a value of JSON spells. -/
def ofJson? (v : JsonValue) : Option RequestId := v.text?.bind fun s => (ofText? s).toOption

/-- The alphabet has a character for each value and no character twice. -/
theorem alphabet_nodup : alphabet.length = 32 ∧ alphabet.Nodup := by decide

/-- Every value is read back from its character. -/
theorem digitValue?_digit {n : Nat} (h : n < 32) : digitValue? (digit n) = some n := by
  -- There are only 32 values to look at.
  have key : ∀ n ∈ List.range 32, digitValue? (digit n) = some n := by decide
  exact key n (List.mem_range.mpr h)

/-- Every number is spelled with so many digits. -/
theorem length_spell (width n : Nat) : (spell width n).length = width := by
  induction width generalizing n with
  | zero => rfl
  | succ width ih => simp [spell, ih]

/-- Digits are read from the left, and those read before count for more. -/
theorem value?_append (led : Nat) (cs ds : List Char) :
    value? led (cs ++ ds) = (value? led cs).bind fun n => value? n ds := by
  induction cs generalizing led with
  | nil => rfl
  | cons c cs ih =>
    simp only [List.cons_append, value?, Option.bind_assoc]
    exact congrArg _ (funext fun d => ih _)

/-- A number with enough characters is read back from them. -/
theorem value?_spell (led : Nat) {width n : Nat} (h : n < Nat.pow 32 width) :
    value? led (spell width n) = some (led * Nat.pow 32 width + n) := by
  induction width generalizing n with
  | zero => simp_all [spell, value?]
  | succ width ih =>
    -- All characters but the last spell the number's 32nd part.
    have hpow : Nat.pow 32 (width + 1) = Nat.pow 32 width * 32 := rfl
    have hd : n / 32 < Nat.pow 32 width := Nat.div_lt_of_lt_mul (by rw [hpow] at h; omega)
    rw [spell, value?_append, ih hd]
    simp only [Option.bind_some, value?, digitValue?_digit (Nat.mod_lt n (by decide)), Option.some.injEq]
    rw [hpow, Nat.add_mul, Nat.mul_assoc]
    omega

end RequestId

end HttpService
