import HttpService.Json.Quoted
import HttpService.Json.Value
import HttpService.Text.Shortest

/-!
# JSON values as text

A value in the shortest form: no blanks, members in their order. A number that is not finite is written as
`null`.
-/

namespace HttpService

/-- A number as text. -/
def JsonNumber.text : JsonNumber → String
  | .int n => if n < 0 then "-" ++ Decimal.text n.natAbs else Decimal.text n.natAbs
  | .real x => (Decimal.realText? x).getD "null"

namespace JsonValue

mutual

/-- A value as text. -/
def text : JsonValue → String
  | .null => "null"
  | .bool b => if b then "true" else "false"
  | .number n => n.text
  | .string s => Json.quoted s
  | .array items => "[" ++ ",".intercalate (itemTexts items) ++ "]"
  | .object members => "\x7b" ++ ",".intercalate (memberTexts members) ++ "\x7d"

/-- The texts of some values. -/
def itemTexts : List JsonValue → List String
  | [] => []
  | v :: vs => v.text :: itemTexts vs

/-- The texts of some members. -/
def memberTexts : List (String × JsonValue) → List String
  | [] => []
  | m :: ms => (Json.quoted m.1 ++ ":" ++ m.2.text) :: memberTexts ms

end

end JsonValue

end HttpService
