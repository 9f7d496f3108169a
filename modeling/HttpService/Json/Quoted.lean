import HttpService.Text.Quoted

/-!
# Strings of JSON

How a text is written between quotes. Only what has to be escaped is: the quote, the backslash and the controls,
some of which have an escape of their own.
-/

namespace HttpService.Json

/-- Four hexadecimal digits of a number. -/
def fourDigits (n : Nat) : List Char :=
  let ds := Text.hex n
  List.replicate (4 - ds.length) '0' ++ ds

/-- One character of a string. -/
def escaped (c : Char) : List Char :=
  match c with
  | '\x22' => ['\\', '\x22']
  | '\\' => ['\\', '\\']
  | '\x08' => ['\\', 'b']
  | '\x0c' => ['\\', 'f']
  | '\n' => ['\\', 'n']
  | '\r' => ['\\', 'r']
  | '\t' => ['\\', 't']
  | c => if c.toNat < 0x20 then '\\' :: 'u' :: fourDigits c.toNat else [c]

/-- A text as a string. -/
def quoted (s : String) : String :=
  String.ofList (('\x22' :: s.toList.flatMap escaped) ++ ['\x22'])

end HttpService.Json
