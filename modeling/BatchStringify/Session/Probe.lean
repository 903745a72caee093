import BatchStringify.Session.Script

/-!
# The probe

What a session knows about the batch helper: nothing yet, where it is, or that there is none.
-/

namespace BatchStringify

/-- What is known about the batch helper, and where it is. -/
inductive Probe where
  | unknown
  | available (helper : Helper)
  | unavailable
  deriving DecidableEq, Repr, Inhabited

namespace Probe

/-- What is known, without the helper. -/
def availability : Probe → Availability
  | .unknown => .unknown
  | .available _ => .available
  | .unavailable => .unavailable

/-- The helper, if it was found. -/
def helper? : Probe → Option Helper
  | .available helper => some helper
  | _ => none

/-- The state after a look-up. -/
def ofHelper : Option Helper → Probe
  | some helper => .available helper
  | none => .unavailable

/-- Whether the state says that batches can be evaluated. -/
def allows (probe : Probe) : Bool := probe.helper?.isSome

end Probe

end BatchStringify
