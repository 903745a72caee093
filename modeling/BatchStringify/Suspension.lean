import BatchStringify.Debuggee.Value

/-!
# Suspensions

While the debuggee is attached it can be stopped; a scope is one such stop, seen from the thread
that the debugger may use, if any. A scope is valid until it is invalidated or its attachment is
detached, and neither can be undone. Scopes are numbered from 1 in the order of the stops, across
attachments.
-/

namespace BatchStringify

/-- One stop of the debuggee. -/
structure Scope where
  /-- Its number, which no other scope has. -/
  id : Nat
  /-- The suspended thread that may run code, if there is one. -/
  thread : Option ThreadId
  /-- The attachment that it belongs to. -/
  attachment : Nat
  deriving DecidableEq, Repr

/-- The name of a scope in messages. -/
def Scope.name (id : Nat) : String := "suspend#" ++ toString id

/-- All attachments and scopes of a session. -/
structure Suspensions where
  /-- For each attachment whether it was detached. -/
  detached : List Bool := [false]
  scopes : List Scope := []
  /-- The numbers of the scopes that were invalidated. -/
  invalidated : List Nat := []

namespace Suspensions

variable (u : Suspensions)

/-- Adds an attachment. -/
def attach : Suspensions := { u with detached := u.detached ++ [false] }

/-- Detaches an attachment, which ends all its scopes. -/
def detach (attachment : Nat) : Suspensions := { u with detached := u.detached.set attachment true }

/-- Whether an attachment was detached. -/
def isDetached (attachment : Nat) : Bool := u.detached.getD attachment false

/-- The scope that the next stop under an attachment gets. -/
def nextScope (attachment : Nat) (thread : Option ThreadId) : Scope :=
  ⟨u.scopes.length + 1, thread, attachment⟩

/-- Stops the debuggee under an attachment. -/
def suspend (attachment : Nat) (thread : Option ThreadId) : Suspensions :=
  { u with scopes := u.scopes ++ [u.nextScope attachment thread] }

/-- Ends one scope. -/
def invalidate (scope : Scope) : Suspensions :=
  { u with invalidated := scope.id :: u.invalidated }

/-- Whether a scope is still there to be used. -/
def isValid (scope : Scope) : Bool :=
  !u.invalidated.contains scope.id && !u.isDetached scope.attachment

end Suspensions

end BatchStringify
