/-!
# Availability

Whether the batch helper was found in the debuggee, as far as is known.
-/

namespace BatchStringify

/-- What is known about the batch helper. -/
inductive Availability where
  | unknown
  | available
  | unavailable
  deriving DecidableEq, Repr, Inhabited

/-- The name of an availability. -/
def Availability.name : Availability → String
  | .unknown => "Unknown"
  | .available => "Available"
  | .unavailable => "Unavailable"

end BatchStringify
