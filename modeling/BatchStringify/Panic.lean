/-!
# Panics

A panic abandons the work in progress. Its payload is a message, or something that cannot be read.
-/

namespace BatchStringify

/-- What a panic carries. -/
inductive Panic where
  | text (message : String)
  | unreadable
  deriving DecidableEq, Repr, Inhabited

/-- The text that a panic is reported with. -/
def Panic.message : Panic → String
  | .text message => message
  | .unreadable => "<non-string panic payload>"

end BatchStringify
