import HttpService.Octets
import HttpService.Text.Pieces
import HttpService.Url.Name.Label

/-!
# Names of hosts

A name of a host on the web: labels with dots between them. Whatever way it is written, it is brought to one
spelling first, folded and composed, and its labels are looked at after that. `ofText?` is the name that a text
spells.

A forbidden character makes a text no name even where it comes about by folding; one that vanishes when the name
is composed does not.
-/

namespace HttpService.Url.Name

/-- What may not stand in a name. -/
def isForbidden (c : Char) : Bool :=
  c.toNat ≤ 0x20 || c.toNat == 0x7F || "%#/:<>?@[\\]^|".toList.contains c

/-- Whether labels that may stand in a name may stand in one together. -/
def agree (labels : List (List Char)) : Bool :=
  !(labels.any (·.any isFromRight)) || labels.all isDirected

/-- The name that a text spells. -/
def ofText? (cs : List Char) : Option (List Char) := do
  let name := Text.composed (← folded? cs)
  if name.isEmpty || name.any isForbidden then none
  let labels ← (pieces '.' name).mapM read?
  if labels.all isWellFormed && agree labels then return name else none

end HttpService.Url.Name
