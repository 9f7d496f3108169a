/-!
# JSON values

Values of JSON. The members of an object are in the order of their names, and no name occurs twice: of several
members of one name the last one counts (`JsonValue.ofMembers`).

A number is an integer where it is written as one and fits 64 bits, and otherwise a floating-point number.
-/

namespace HttpService

/-- A number of JSON. -/
inductive JsonNumber where
  | int (n : Int)
  | real (x : Float)

/-- A value of JSON. -/
inductive JsonValue where
  | null
  | bool (b : Bool)
  | number (n : JsonNumber)
  | string (s : String)
  | array (items : List JsonValue)
  | object (members : List (String × JsonValue))

instance : Inhabited JsonValue := ⟨.null⟩

namespace JsonValue

/-- Puts a member in its place, over one of the same name. -/
def place (name : String) (value : JsonValue) : List (String × JsonValue) → List (String × JsonValue)
  | [] => [(name, value)]
  | m :: ms =>
    if m.1 < name then m :: place name value ms
    else if m.1 = name then (name, value) :: ms
    else (name, value) :: m :: ms

/-- The object of these members, the last of a name counting. -/
def ofMembers (ms : List (String × JsonValue)) : JsonValue :=
  .object (ms.foldl (fun acc m => place m.1 m.2 acc) [])

/-- The members of an object. -/
def members? : JsonValue → Option (List (String × JsonValue))
  | .object ms => some ms
  | _ => none

/-- The items of an array. -/
def items? : JsonValue → Option (List JsonValue)
  | .array items => some items
  | _ => none

/-- The text of a string. -/
def text? : JsonValue → Option String
  | .string s => some s
  | _ => none

/-- The member of an object under a name. -/
def get? (v : JsonValue) (name : String) : Option JsonValue := v.members?.bind (·.lookup name)

end JsonValue

end HttpService
