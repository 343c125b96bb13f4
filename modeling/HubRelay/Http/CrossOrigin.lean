import HubRelay.Http.Message

/-!
Contract: which origins the answers of the web interface may be shown to.

Owns: the policy that a list of origins stands for, and the origin that an answer names.

Does not own: where the list comes from.
-/

namespace HubRelay.Http

/-- Which origins may see answers. -/
inductive OriginPolicy where
  | any
  | listed (origins : List (List UInt8))
deriving DecidableEq, Repr

namespace OriginPolicy

/-- The policy of a list of origins.

Entries that cannot stand in a header are left out; if none is left, any origin will do. -/
def ofList (origins : List String) : OriginPolicy :=
  match (origins.map Text.Utf8.encodeString).filter fun origin => origin.all Header.isLegal with
  | [] => .any
  | origins => .listed origins

/-- The origin that the answer to a request names, if it names one. -/
def allowed (policy : OriginPolicy) (headers : List Header) : Option (List UInt8) :=
  match policy with
  | .any => some (Text.Utf8.encodeString "*")
  | .listed origins => (Header.first? headers "origin").filter origins.contains

end OriginPolicy

end HubRelay.Http
