import HttpService.Yaml.Document
import HttpService.Yaml.Plain

/-!
# Documents as values

The value of JSON that a document stands for. Keys are scalars and are taken as texts, the last of several equal
ones counting. A tag of the core schema has to fit its scalar, a tag of the document's own has no value.

Aliases make a document stand for more than it holds, so two limits keep its value finite: how deep collections
may be nested, and how often aliases may be followed.
-/

namespace HttpService.Yaml

/-- The most collections around each other. -/
def maxDepth : Nat := 128

/-- How often aliases may be followed for each start or end of a node. -/
def maxFollows : Nat := 100

/-- A tag of the core schema. -/
def coreTag (name : String) : Octets := octets ("tag:yaml.org,2002:" ++ name)

/-- Whether a tag is one of the document's own. -/
def isOwnTag (tag : Option Octets) : Bool := tag.any fun t => t.head? == some (octet '!')

/-- The value of a scalar. -/
def scalarValue? (tag : Option Octets) (style : ScalarStyle) (s : String) : Option JsonValue :=
  match tag with
  | none => if style = .plain then Plain.value? s else some (.string s)
  | some t =>
    if isOwnTag tag then none
    else if t = coreTag "bool" then (Plain.bool? s).map .bool
    else if t = coreTag "int" then (Plain.integerValue? s).join
    else if t = coreTag "float" then (Plain.real? s.toList).map Plain.Real.value
    else if t = coreTag "null" then (if Plain.isNull s then some .null else none)
    else some (.string s)

namespace Document

/-- A computation that may follow aliases only so often. -/
abbrev Following := StateT Nat Option

/-- The node itself, or the one that it stands for if aliases may still be followed. -/
def follow (d : Document) : Node → Following Node
  | .alias number => do
    let left ← get
    if left = 0 then failure
    set (left - 1)
    d.target? number
  | n => return n

/-- The text of a key. -/
def key (d : Document) (n : Node) : Following String := do
  match ← d.follow n with
  -- A key's own tag and style say nothing: it is taken as its text.
  | .scalar _ _ s => return s
  | _ => failure

/-- The value of a node inside of which collections may be nested `depth` deep. -/
def nodeValue (d : Document) (depth : Nat) (n : Node) : Following JsonValue := do
  match ← d.follow n with
  | .scalar tag style s => scalarValue? tag style s
  | .sequence tag items =>
    match depth with
    | 0 => failure
    | depth + 1 =>
      if isOwnTag tag then failure
      return .array (← items.mapM (nodeValue d depth))
  | .mapping tag pairs =>
    match depth with
    | 0 => failure
    | depth + 1 =>
      if isOwnTag tag then failure
      return .ofMembers (← pairs.mapM fun p => do return (← d.key p.1, ← nodeValue d depth p.2))
  | .alias _ => failure

/-- The value of a document. A text without a document stands for null. -/
def value? (d : Document) : Option JsonValue :=
  match d.root with
  | none => some .null
  | some n => (nodeValue d maxDepth n).run' (d.size * maxFollows)

end Document

/-- The value that a text spells. -/
def readValue? (s : String) : Option JsonValue := do (← Document.read? s).value?

end HttpService.Yaml
