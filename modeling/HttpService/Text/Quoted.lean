import HttpService.Text.Shown

/-!
# Quoted text

A text between double quotes on one line, for reports: a quote, a backslash and the blanks that break a line
stand behind a backslash, and every character that does not show by itself is spelled by its number.
-/

namespace HttpService.Text

/-- A number in hexadecimal digits, small letters, without leading zeros. -/
def hex (n : Nat) : List Char := Nat.toDigits 16 n

/-- One character inside quotes. -/
def quotedChar (c : Char) : List Char :=
  match c with
  | '\x00' => ['\\', '0']
  | '\t' => ['\\', 't']
  | '\r' => ['\\', 'r']
  | '\n' => ['\\', 'n']
  | '\\' => ['\\', '\\']
  | '\x22' => ['\\', '\x22']
  | c => if isShown c then [c] else ['\\', 'u', '\x7b'] ++ hex c.toNat ++ ['\x7d']

/-- A text between quotes. -/
def quoted (s : String) : String :=
  String.ofList (('\x22' :: s.toList.flatMap quotedChar) ++ ['\x22'])

/-- Texts between brackets, each quoted. -/
def quotedList (ss : List String) : String := "[" ++ ", ".intercalate (ss.map quoted) ++ "]"

end HttpService.Text
