import BatchStringify.Session.Journal
import BatchStringify.Suspension

/-!
# Which calls end a scope

Four calls change the scopes of a session or their validity: attaching, stopping, invalidating a scope
and detaching. What the calls so far make of the first suspensions is the state that validity is read
from, so a scope is valid exactly as long as no call among them ended it (`isValid_history_iff`). A
detachment also ends the scopes that are to come under it.
-/

namespace BatchStringify

/-- A call that changes the scopes of a session or their validity. -/
inductive ScopeCall where
  | attach
  | suspend (attachment : Nat) (thread : Option ThreadId)
  | invalidate (index : Nat)
  | detach (attachment : Nat)
  deriving DecidableEq, Repr

namespace Suspensions

/-- The suspensions after a call. -/
def call (u : Suspensions) : ScopeCall → Suspensions
  | .attach => u.attach
  | .suspend attachment thread => u.suspend attachment thread
  | .invalidate index => u.scopes[index]?.elim u u.invalidate
  | .detach attachment => u.detach attachment

/-- Whether a call ends a scope: it invalidates the scope, or it detaches the attachment of the scope. -/
def Ends (u : Suspensions) (scope : Scope) : ScopeCall → Prop
  | .invalidate index => ∃ x, u.scopes[index]? = some x ∧ x.id = scope.id
  | .detach attachment => attachment = scope.attachment ∧ attachment < u.detached.length
  | _ => False

/-- Whether one of several calls ended a scope. -/
def Ended (u : Suspensions) (calls : List ScopeCall) (scope : Scope) : Prop :=
  ∃ before c after, calls = before ++ c :: after ∧ (before.foldl call u).Ends scope c

variable {u : Suspensions} {scope : Scope}

theorem call_invalidate (index : Nat) :
    u.call (.invalidate index) = u.scopes[index]?.elim u u.invalidate := rfl

theorem isValid_iff : u.isValid scope = true ↔
    scope.id ∉ u.invalidated ∧ u.isDetached scope.attachment = false := by
  simp [isValid]

theorem isDetached_detach (attachment : Nat) : (u.detach attachment).isDetached scope.attachment =
    (u.isDetached scope.attachment ||
      decide (attachment = scope.attachment ∧ attachment < u.detached.length)) := by
  unfold isDetached detach
  simp only [List.getD_eq_getElem?_getD, List.getElem?_set]
  by_cases ha : attachment = scope.attachment
  · subst ha
    by_cases hl : scope.attachment < u.detached.length
    · simp [hl]
    · simp [hl]
  · simp [ha]

/-- A call takes the validity of a scope exactly if it ends the scope, and no call gives it back. -/
theorem isValid_call_iff (c : ScopeCall) :
    (u.call c).isValid scope = true ↔ u.isValid scope = true ∧ ¬u.Ends scope c := by
  cases c with
  | attach =>
    have hd : u.attach.isDetached scope.attachment = u.isDetached scope.attachment := by
      unfold attach isDetached
      simp only [List.getD_eq_getElem?_getD, List.getElem?_append]
      by_cases hl : scope.attachment < u.detached.length
      · simp [hl]
      · rw [if_neg hl, List.getElem?_eq_none (Nat.le_of_not_lt hl)]
        cases scope.attachment - u.detached.length <;> rfl
    simp only [call, Ends, not_false_eq_true, and_true]
    rw [isValid_iff, isValid_iff, hd]
    rfl
  | suspend attachment thread => simp [call, Ends, isValid, suspend, isDetached]
  | invalidate index =>
    rw [call_invalidate]
    simp only [Ends]
    cases hx : u.scopes[index]? with
    | none => simp
    | some x =>
      have hends : (∃ y, some x = some y ∧ y.id = scope.id) ↔ scope.id = x.id := by
        simp [eq_comm]
      rw [Option.elim_some, hends, isValid_iff, isValid_iff, and_right_comm]
      simp only [invalidate, List.mem_cons, not_or, isDetached]
      rw [and_comm (a := scope.id ∉ u.invalidated)]
  | detach attachment =>
    simp only [call, Ends]
    rw [isValid_iff, isValid_iff, isDetached_detach, and_assoc]
    simp only [detach, Bool.or_eq_false_iff, decide_eq_false_iff_not]

theorem ended_cons_iff (c : ScopeCall) (calls : List ScopeCall) :
    u.Ended (c :: calls) scope ↔ u.Ends scope c ∨ (u.call c).Ended calls scope := by
  constructor
  · rintro ⟨before, c', after, happ, hends⟩
    cases before with
    | nil =>
      obtain ⟨rfl, -⟩ := List.cons.inj happ
      exact .inl hends
    | cons d before =>
      obtain ⟨rfl, rfl⟩ := List.cons.inj happ
      exact .inr ⟨before, c', after, rfl, hends⟩
  · rintro (hends | ⟨before, c', after, rfl, hends⟩)
    · exact ⟨[], c, calls, rfl, hends⟩
    · exact ⟨c :: before, c', after, rfl, hends⟩

/-- After several calls a scope is valid exactly if it was and none of them ended it. -/
theorem isValid_foldl_iff (calls : List ScopeCall) :
    (calls.foldl call u).isValid scope = true ↔
      u.isValid scope = true ∧ ¬u.Ended calls scope := by
  induction calls generalizing u with
  | nil => simp [Ended]
  | cons c calls ih =>
    rw [List.foldl_cons, ih, isValid_call_iff, ended_cons_iff, not_or, and_assoc]

/-- Validity does not come back. -/
theorem isValid_of_foldl {calls : List ScopeCall} (h : (calls.foldl call u).isValid scope = true) :
    u.isValid scope = true := (isValid_foldl_iff calls).1 h |>.1

/-- A scope is valid exactly if no call since the start of the session ended it. -/
theorem isValid_history_iff (calls : List ScopeCall) (scope : Scope) :
    (calls.foldl call {}).isValid scope = true ↔ ¬Ended {} calls scope := by
  have hstart : ({} : Suspensions).isValid scope = true := by
    rw [isValid_iff]
    refine ⟨List.not_mem_nil, ?_⟩
    unfold isDetached
    cases scope.attachment <;> rfl
  rw [isValid_foldl_iff]
  simp [hstart]

/-- Only a stop adds a scope. -/
theorem scopes_foldl {calls : List ScopeCall}
    (h : ∀ c ∈ calls, ∀ attachment thread, c ≠ .suspend attachment thread) :
    (calls.foldl call u).scopes = u.scopes := by
  induction calls generalizing u with
  | nil => rfl
  | cons c calls ih =>
    have hcall : (u.call c).scopes = u.scopes := by
      cases c with
      | attach => rfl
      | suspend attachment thread => exact absurd rfl (h _ List.mem_cons_self attachment thread)
      | invalidate index =>
        rw [call_invalidate]
        cases u.scopes[index]? <;> rfl
      | detach attachment => rfl
    rw [List.foldl_cons, ih fun d hd => h d (List.mem_cons_of_mem _ hd), hcall]

end Suspensions

end BatchStringify
