import BatchStringify.Proofs.Keeping

/-!
# No object stays pinned

A batch attempt pins the string that it reads and lets it go again, whether or not it can be read; if the string
cannot be pinned, it is not pinned. So while an attempt is under way one more object can be pinned, and afterwards
none is: what is pinned between two tasks was pinned by the embedder, however many attempts failed
(`pinned_play`).
-/

namespace BatchStringify

/-- Whether a step pins an object by a call of its own. -/
def Step.pins : Step → Bool
  | .call (.disableCollection _) => true
  | _ => false

namespace Debuggee

/-- Whether no objects are pinned but these. -/
def PinsWithin (ids : List ObjectId) (d : Debuggee) : Prop := ∀ id ∈ d.pinned, id ∈ ids

variable {ids : List ObjectId} {d d' : Debuggee}

theorem PinsWithin.of_eq (h : d.PinsWithin ids) (pinned : d'.pinned = d.pinned) :
    d'.PinsWithin ids := by
  rw [PinsWithin, pinned]
  exact h

/-! ## Calls -/

/-- No other call changes what is pinned. -/
theorem pinned_afterCall (d : Debuggee) {call : Call} (h : call.isPinning = false) :
    (d.afterCall call).pinned = d.pinned := by
  cases call with
  | invokeStatic thread owner method args =>
    have hsettle : ∀ (asked : Debuggee) reply, (asked.settle reply).2.pinned = asked.pinned :=
      fun asked reply => by cases reply <;> rfl
    obtain ⟨asked, hsame, hcall | ⟨reply, hcall⟩⟩ :=
      d.sameObjects_invokeStatic thread owner method args
    · exact (congrArg pinned hcall).trans hsame.pinned
    · exact (congrArg pinned hcall).trans ((hsettle asked reply).trans hsame.pinned)
  | disableCollection id => cases h
  | enableCollection id => cases h
  | _ => exact (d.sameObjects_afterCall rfl).pinned

theorem PinsWithin.afterCall (h : d.PinsWithin ids) (call : Call) (other : call.isPinning = false) :
    (d.afterCall call).PinsWithin ids := h.of_eq (d.pinned_afterCall other)

/-- An object is pinned, or the call fails and none is. -/
theorem PinsWithin.disableCollection (h : d.PinsWithin ids) (id : ObjectId) :
    (d.disableCollection id).2.PinsWithin (id :: ids) ∧
      ∀ error, (d.disableCollection id).1 = .error error →
        (d.disableCollection id).2.PinsWithin ids := by
  have hmore : d.PinsWithin (id :: ids) := fun other hp => List.mem_cons_of_mem _ (h other hp)
  unfold Debuggee.disableCollection
  dsimp only
  split
  · exact ⟨hmore, fun _ _ => h⟩
  · split
    · exact ⟨hmore, fun _ _ => h⟩
    · refine ⟨fun other hp => ?_, fun error he => by cases he⟩
      rcases List.mem_cons.1 hp with rfl | hp
      · exact List.mem_cons_self
      · exact hmore other (List.mem_of_mem_erase hp)

/-- An object that is let go is not pinned. -/
theorem PinsWithin.enableCollection {id : ObjectId} (h : d.PinsWithin (id :: ids)) :
    (d.enableCollection id).2.PinsWithin ids := by
  intro other hp
  obtain ⟨hp, hne⟩ := List.mem_filter.1 hp
  exact (List.mem_cons.1 (h other hp)).resolve_left (of_decide_eq_true hne)

end Debuggee

/-! ## Attempts -/

namespace Attempt

variable {ids : List ObjectId}

/-- A fault of a call is its error. -/
theorem ask_eq_fault {α : Type} {call : Link → Except RemoteError α × Link}
    {fault : RemoteError → BatchFault} {link l : Link} {cause : BatchFault}
    (h : (ask call fault).run.run.run link = (.ok (.error cause), l)) :
    ∃ error, call link = (.error error, l) := by
  replace h : ask call fault link = (.ok (.error cause), l) := h
  unfold ask at h
  rcases hr : call link with ⟨error | x, l'⟩ <;> rw [hr] at h <;> cases h
  exact ⟨error, rfl⟩

theorem release_pinsWithin {id : ObjectId} {link : Link}
    (h : link.debuggee.PinsWithin (id :: ids)) : (release id link).debuggee.PinsWithin ids := by
  have hlet : (link.enableCollection id).2.debuggee.PinsWithin ids := h.enableCollection
  unfold release
  rcases hr : link.enableCollection id with ⟨error | _, l⟩ <;> rwa [hr] at hlet

/-- A string that was pinned to be read is let go, also if it could not be read. -/
theorem ask_readAndRelease_pinsWithin {id : ObjectId} {link : Link}
    (h : link.debuggee.PinsWithin (id :: ids)) :
    ((ask (readAndRelease id)).run.run.run link).2.debuggee.PinsWithin ids := by
  have hread : (link.stringValue id).2.debuggee.PinsWithin (id :: ids) :=
    h.afterCall (.stringValue id) rfl
  have hrelease := release_pinsWithin hread
  show (ask (readAndRelease id) .remote link).2.debuggee.PinsWithin ids
  unfold ask readAndRelease
  rcases hr : link.stringValue id with ⟨error | text, l⟩ <;> rwa [hr] at hrelease

/-- Reading a reply leaves no more pinned than before. -/
theorem replyText_keeps_pins (reply : Value) :
    Keeps (Debuggee.PinsWithin ids) (replyText reply) := by
  unfold replyText
  cases stringId? reply with
  | none => exact .of_throw _
  | some id =>
    intro link h
    obtain ⟨hpinned, hunpinned⟩ := h.disableCollection id
    rw [run_bind]
    rcases hr : (ask (·.disableCollection id)).run.run.run link with ⟨payload | fault | _, l⟩
    · exact absurd hr (ask_ne_panic _ _ _ _ _)
    · obtain ⟨error, hcall⟩ := ask_eq_fault hr
      have herror := hunpinned error (congrArg Prod.fst hcall)
      rwa [show l.debuggee = (link.debuggee.disableCollection id).2 from
        congrArg (fun r => r.2.debuggee) hcall.symm]
    · rw [show (link.debuggee.disableCollection id).2 = l.debuggee from
        congrArg (fun r => r.2.debuggee) (ask_eq_ok_iff.1 hr)] at hpinned
      exact ask_readAndRelease_pinsWithin hpinned

end Attempt

/-! ## Runs -/

namespace Debuggee

variable (ids : List ObjectId)

/-- What a session does of its own accord leaves no more pinned than before. -/
theorem lasting_pins : Lasting (PinsWithin ids) where
  lookUp d call lookUp h := by
    cases call with
    | findClass thread name loader => exact h.afterCall _ rfl
    | findMethod owner name signature => exact h.afterCall _ rfl
    | _ => cases lookUp
  display d call display h := by
    cases call with
    | invokeToString thread id => exact h.afterCall _ rfl
    | _ => cases display
  attempt := Attempt.keeps_evaluate (fun _ call other h => h.afterCall call other)
    Attempt.replyText_keeps_pins

end Debuggee

/-- A step that does not pin an object itself leaves no more pinned than before. -/
theorem Step.spares_pins (ids : List ObjectId) {step : Step}
    (h : step.pins = false) : step.Spares (Debuggee.PinsWithin ids) := by
  cases step with
  | call asked =>
    intro d hp
    cases asked with
    | disableCollection id => cases h
    | enableCollection id =>
      have hmore : d.PinsWithin (id :: ids) := fun other hother =>
        List.mem_cons_of_mem _ (hp other hother)
      exact hmore.enableCollection
    | _ => exact hp.afterCall _ rfl
  | defineClass name => exact fun d hp => hp.of_eq (d.sameObjects_defineClass name).pinned
  | defineMethod owner name signature =>
    exact fun d hp => hp.of_eq (d.sameObjects_defineMethod owner name signature).pinned
  | setDisplay id outcome => exact fun d hp => hp
  | fail operation error => exact fun d hp => hp
  | setHandler handler => exact fun d hp => hp
  | _ => trivial

/-- If only the session pins objects, then in every run nothing is pinned between two tasks that was not pinned in the
beginning. -/
theorem Session.pinned_play {s : Session} {events : List Event}
    (own : ∀ p ∈ s.steps events, p.2.pins = false) {id : ObjectId}
    (h : (s.play events).link.debuggee.isPinned id = true) : s.link.debuggee.isPinned id = true := by
  have hkeeps : Keeps (Debuggee.PinsWithin s.link.debuggee.pinned) s (s.play events) :=
    keeps_play (Debuggee.lasting_pins _) fun p hp => Step.spares_pins _ (own p hp)
  unfold Debuggee.isPinned at h ⊢
  rw [List.contains_iff_mem] at h ⊢
  exact hkeeps (fun _ hid => hid) id h

end BatchStringify
