import HttpService.Yaml.Node
import HttpService.Yaml.Token.Lexer

/-!
# From tokens to a document

The document that a text spells, if it spells one and nothing else. Each function here reads one part of it:
a node, the items or pairs of a collection that has been opened, a value behind its key.

A node may be left out wherever an item, a key or a value is expected; it is then an empty scalar.
-/

namespace HttpService.Yaml

/-- The tokens still to be read, and what is known about anchors and tags. -/
structure Reading where
  tokens : List Token
  handles : List (String × Octets)
  names : List (String × Nat)
  anchored : List Anchored
  /-- How many anchored nodes have started. -/
  places : Nat
  size : Nat

/-- A reader of a part of a document. -/
abbrev Reader := StateT Reading Option

namespace Reader

/-- The next token. -/
def peek : Reader (Option Token) := do return (← get).tokens.head?

/-- Goes past the next token. -/
def skip : Reader Unit := modify fun r => { r with tokens := r.tokens.drop 1 }

/-- Goes past this token. -/
def expect (t : Token) : Reader Unit := do if (← peek) == some t then skip else failure

/-- Counts the starts and ends of a node. -/
def counted (n : Nat) (node : Node) : Reader Node := do
  modify fun r => { r with size := r.size + n }
  return node

/-- Whether one of these tokens comes next. -/
def atAny (ts : List Token) : Reader Bool := do return (← peek).any ts.contains

/-- An empty scalar. -/
def nothing : Reader Node := counted 1 .nothing

/-- The handles that need no declaration. -/
def standardHandles : List (String × Octets) := [("!", octets "!"), ("!!", octets "tag:yaml.org,2002:")]

/-! ## Properties of nodes -/

/-- An anchor in front. -/
def anchor? : Reader (Option String) := do
  match ← peek with
  | some (.anchor name) => skip; return some name
  | _ => return none

/-- A tag in front, with its handle replaced by what it stands for. -/
def tag? : Reader (Option Octets) := do
  match ← peek with
  | some (.tag handle suffix) =>
    skip
    if handle = "" then return some suffix
    match (← get).handles.lookup handle with
    | some expansion => return some (expansion ++ suffix)
    | none => failure
  | _ => return none

/-- An anchor and a tag in front, in either order. -/
def properties : Reader (Option String × Option Octets) := do
  match ← anchor? with
  | some name => return (some name, ← tag?)
  | none =>
    let tag ← tag?
    return (← if tag.isSome then anchor? else pure none, tag)

/-- Numbers the node that starts here, if it has an anchor. -/
def number (name : String) : Reader (Nat × Nat) := do
  let r ← get
  let n := r.names.length
  let names := if (r.names.lookup name).isSome
    then r.names.map fun e => if e.1 = name then (name, n) else e
    else r.names ++ [(name, n)]
  set { r with names := names, places := r.places + 1 }
  return (n, r.places)

/-- Reads a node and keeps it for the aliases that stand for it. -/
def anchoring (name : Option String) (read : Reader Node) : Reader Node := do
  match name with
  | none => read
  | some name =>
    let (n, place) ← number name
    let node ← read
    modify fun r => { r with anchored := ⟨n, place, node⟩ :: r.anchored }
    return node

/-- The number that an alias refers to. -/
def aliasNumber (name : String) : Reader Nat := do
  match (← get).names.lookup name with
  | some n => return n
  | none => failure

/-! ## Nodes -/

mutual

/-- A node. Only where `block` holds may it be a block collection, and only where `bare` holds a sequence that
is no deeper than its key. -/
def node (fuel : Nat) (block bare : Bool) : Reader Node :=
  match fuel with
  | 0 => failure
  | fuel + 1 => do
    match ← peek with
    | some (.alias name) =>
      skip
      let n ← aliasNumber name
      counted 1 (.alias n)
    | _ =>
      let (name, tag) ← properties
      anchoring name do
        match ← peek with
        | some (.scalar style text) =>
          skip
          counted 1 (.scalar tag style text)
        | some .flowSequence =>
          skip
          let items ← flowItems fuel true
          counted 2 (.sequence tag items)
        | some .flowMapping =>
          skip
          let pairs ← flowPairs fuel true
          counted 2 (.mapping tag pairs)
        | some .blockSequence =>
          if !block then failure
          skip
          let items ← blockItems fuel
          counted 2 (.sequence tag items)
        | some .blockMapping =>
          if !block then failure
          skip
          let pairs ← blockPairs fuel
          counted 2 (.mapping tag pairs)
        | t =>
          if bare && t == some .blockItem then
            let items ← bareItems fuel
            counted 2 (.sequence tag items)
          -- An anchor or a tag alone makes an empty scalar.
          else if name.isSome || tag.isSome then counted 1 (.scalar tag .plain "")
          else failure

/-- A node, or an empty one if one of these tokens comes next. -/
def nodeUnless (fuel : Nat) (ends : List Token) (block bare : Bool) : Reader Node :=
  match fuel with
  | 0 => failure
  | fuel + 1 => do if ← atAny ends then nothing else node fuel block bare

/-- The items of a block sequence, up to its end. -/
def blockItems (fuel : Nat) : Reader (List Node) :=
  match fuel with
  | 0 => failure
  | fuel + 1 => do
    if ← atAny [.blockEnd] then
      skip
      return []
    expect .blockItem
    let item ← nodeUnless fuel [.blockItem, .blockEnd] true false
    return item :: (← blockItems fuel)

/-- The items of a sequence that is no deeper than its key. -/
def bareItems (fuel : Nat) : Reader (List Node) :=
  match fuel with
  | 0 => failure
  | fuel + 1 => do
    if !(← atAny [.blockItem]) then return []
    skip
    let item ← nodeUnless fuel [.blockItem, .key, .value, .blockEnd] true false
    return item :: (← bareItems fuel)

/-- A value, if the token that announces one comes next. -/
def valueUnless (fuel : Nat) (ends : List Token) (block : Bool) : Reader Node :=
  match fuel with
  | 0 => failure
  | fuel + 1 => do
    if ← atAny [.value] then
      skip
      nodeUnless fuel ends block block
    else nothing

/-- The pairs of a block mapping, up to its end. -/
def blockPairs (fuel : Nat) : Reader (List (Node × Node)) :=
  match fuel with
  | 0 => failure
  | fuel + 1 => do
    if ← atAny [.blockEnd] then
      skip
      return []
    expect .key
    let key ← nodeUnless fuel [.key, .value, .blockEnd] true true
    let value ← valueUnless fuel [.key, .value, .blockEnd] true
    return (key, value) :: (← blockPairs fuel)

/-- The items of a flow sequence, up to its end. A key makes an item a mapping of one pair. If such a key is
left out, the token in its place is passed over. -/
def flowItems (fuel : Nat) (first : Bool) : Reader (List Node) :=
  match fuel with
  | 0 => failure
  | fuel + 1 => do
    if ← atAny [.flowSequenceEnd] then
      skip
      return []
    if !first then expect .flowItem
    if ← atAny [.flowSequenceEnd] then
      skip
      return []
    let item ← if ← atAny [.key] then do
        skip
        let key ← if ← atAny [.value, .flowItem, .flowSequenceEnd] then
            skip
            nothing
          else node fuel false false
        let value ← valueUnless fuel [.flowItem, .flowSequenceEnd] false
        counted 2 (.mapping none [(key, value)])
      else node fuel false false
    return item :: (← flowItems fuel false)

/-- The pairs of a flow mapping, up to its end. -/
def flowPairs (fuel : Nat) (first : Bool) : Reader (List (Node × Node)) :=
  match fuel with
  | 0 => failure
  | fuel + 1 => do
    if ← atAny [.flowMappingEnd] then
      skip
      return []
    if !first then expect .flowItem
    if ← atAny [.flowMappingEnd] then
      skip
      return []
    let pair ← if ← atAny [.key] then do
        skip
        let key ← nodeUnless fuel [.value, .flowItem, .flowMappingEnd] false false
        let value ← valueUnless fuel [.flowItem, .flowMappingEnd] false
        pure (key, value)
      else do
        let key ← node fuel false false
        pure (key, ← nothing)
    return pair :: (← flowPairs fuel false)

end

/-! ## Documents -/

/-- The directives before a document; says whether there are any. -/
def directives : Nat → Bool → Reader Bool
  | 0, _ => return false
  | fuel + 1, versioned => do
    match ← peek with
    | some (.version major minor) =>
      if versioned || major ≠ 1 || (minor ≠ 1 && minor ≠ 2) then failure
      skip
      let _ ← directives fuel true
      return true
    | some (.tagDirective handle expansion) =>
      if ((← get).handles.lookup handle).isSome then failure
      skip
      modify fun r => { r with handles := (handle, expansion) :: r.handles }
      let _ ← directives fuel versioned
      return true
    | _ => return false

/-- The only document of a text, up to the end of the text. -/
def document : Reader (Option Node) := do
  -- Every token is looked at by a few readers at most before it is passed.
  let fuel := 4 * (← get).tokens.length + 8
  let declared ← directives fuel false
  modify fun r => { r with handles := r.handles ++ standardHandles }
  let root ← match ← peek with
    | none => if declared then failure else pure none
    | some .documentStart =>
      skip
      match ← peek with
      | none | some .documentStart | some .documentEnd | some (.version ..) | some (.tagDirective ..) =>
        some <$> nothing
      | _ => some <$> node fuel true false
    | _ => if declared then failure else some <$> node fuel true false
  modify fun r => { r with tokens := r.tokens.dropWhile (· == .documentEnd) }
  -- A second document makes the text none.
  if (← peek).isSome then failure
  return root

end Reader

/-- The document of some tokens. -/
def Document.ofTokens? (ts : List Token) : Option Document := do
  let (root, r) ← Reader.document.run ⟨ts, [], [], [], 0, 0⟩
  return ⟨root, r.anchored, r.size⟩

/-- The document that a text spells. -/
def Document.read? (s : String) : Option Document := do Document.ofTokens? (← tokens? (← source? s))

end HttpService.Yaml
