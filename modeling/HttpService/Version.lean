/-!
# Protocol versions

The versions a message may carry. Only 1.0 and 1.1 have a written form: every version but 1.0 is written
as 1.1, which is what a peer of either kind understands.
-/

namespace HttpService

/-- The version of a message. -/
inductive Version where
  | http09
  | http10
  | http11
  | http2
deriving DecidableEq, Repr

/-- The version as it stands on the first line of a message. -/
def Version.text : Version → String
  | .http10 => "HTTP/1.0"
  | _ => "HTTP/1.1"

end HttpService
