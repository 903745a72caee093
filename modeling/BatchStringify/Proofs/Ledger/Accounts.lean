import BatchStringify.Proofs.Ledger.Waiting
import Mathlib.Data.List.Perm.Subperm

/-!
# Accounting for requests

A request that was accepted waits until its task is taken, and from then on it belongs to the past.
The past of a run is a list of requests, each with whether its scope was valid when its task was
taken. `Ledger.Accounts past` says that the books are in order: no request has two places, while the
queue is open none is missing, none was completed before its time, and as long as nothing panicked
those of the past were completed exactly if their scopes were valid.
-/

namespace BatchStringify

namespace Ledger

variable {l l' : Ledger} {past : List (Request × Bool)}

/-! ## The books -/

/-- The books of a ledger are in order, given the requests whose task was taken and whether their
scope was valid then. -/
structure Accounts (past : List (Request × Bool)) (l : Ledger) : Prop where
  accepted_nodup : (l.accepted.map (·.serial)).Nodup
  accepted_lt : ∀ r ∈ l.accepted, r.serial < l.made
  completed_nodup : (l.completed.map (·.1.serial)).Nodup
  completed_lt : ∀ p ∈ l.completed, p.1.serial < l.made
  /-- No request has two places. -/
  owed : (past.map (·.1) ++ l.waiting).Subperm l.accepted
  /-- No request is missing. -/
  owing : l.isOpen = true → l.accepted.Perm (past.map (·.1) ++ l.waiting)
  not_early : ∀ p ∈ l.completed, ∀ r ∈ l.waiting, p.1.serial ≠ r.serial
  fates : l.panics = [] → ∀ e ∈ past,
    (e.2 = true → ∃ completion, (e.1, completion) ∈ l.completed) ∧
    (e.2 = false → ∀ p ∈ l.completed, p.1.serial ≠ e.1.serial)

/-- No request is taken twice, or taken and still waiting. -/
theorem Accounts.owed_nodup (h : l.Accounts past) :
    ((past.map (·.1) ++ l.waiting).map (·.serial)).Nodup := by
  obtain ⟨some, hperm, hsub⟩ := h.owed
  exact (hperm.map _).nodup_iff.1 ((hsub.map _).nodup h.accepted_nodup)

/-- So a request that was taken waits no more. -/
theorem Accounts.past_ne_waiting (h : l.Accounts past) {e : Request × Bool} (he : e ∈ past)
    {r : Request} (hr : r ∈ l.waiting) : r.serial ≠ e.1.serial := by
  have hn := h.owed_nodup
  rw [List.map_append, List.nodup_append] at hn
  refine (hn.2.2 _ ?_ _ (List.mem_map_of_mem hr)).symm
  exact List.mem_map_of_mem (List.mem_map_of_mem he)

/-- Requests that wait were made. -/
theorem Accounts.waiting_lt (h : l.Accounts past) {r : Request} (hr : r ∈ l.waiting) :
    r.serial < l.made :=
  h.accepted_lt r (h.owed.subset (List.mem_append_right _ hr))

/-- So were those that were taken. -/
theorem Accounts.past_lt (h : l.Accounts past) {e : Request × Bool} (he : e ∈ past) :
    e.1.serial < l.made :=
  h.accepted_lt _ (h.owed.subset (List.mem_append_left _ (List.mem_map_of_mem he)))

/-! ## Steps -/

/-- Requests that were completed by hand are new ones, which nobody waits for. -/
theorem Accounts.byHand (h : l.Accounts past) {n : Nat} {done : List (Request × Completion)}
    (serials : done.map (·.1.serial) <+: List.range' l.made n) :
    ((l.make n).complete done).Accounts past := by
  have hdone : ∀ p ∈ done, l.made ≤ p.1.serial ∧ p.1.serial < l.made + n := by
    intro p hp
    have hm := serials.subset (List.mem_map.2 ⟨p, hp, rfl⟩)
    rw [List.mem_range'_1] at hm
    exact hm
  refine ⟨h.accepted_nodup, ?_, ?_, ?_, h.owed, h.owing, ?_, ?_⟩
  · -- accepted_lt
    intro r hr
    exact Nat.lt_add_right n (h.accepted_lt r hr)
  · -- completed_nodup
    show ((l.completed ++ done).map (·.1.serial)).Nodup
    rw [List.map_append, List.nodup_append]
    refine ⟨h.completed_nodup, serials.sublist.nodup List.nodup_range', ?_⟩
    intro a ha b hb hab
    obtain ⟨p, hp, rfl⟩ := List.mem_map.1 ha
    obtain ⟨q, hq, rfl⟩ := List.mem_map.1 hb
    have hlt := h.completed_lt p hp
    have hle := (hdone q hq).1
    omega
  · -- completed_lt
    intro p hp
    rcases List.mem_append.1 hp with hp | hp
    · exact Nat.lt_add_right n (h.completed_lt p hp)
    · exact (hdone p hp).2
  · -- not_early
    intro p hp r hr
    rcases List.mem_append.1 hp with hp | hp
    · exact h.not_early p hp r hr
    · have hle := (hdone p hp).1
      have hlt := h.waiting_lt hr
      omega
  · -- fates
    intro hpanics e he
    obtain ⟨hvalid, hgone⟩ := h.fates hpanics e he
    refine ⟨fun hv => ?_, fun hv p hp => ?_⟩
    · obtain ⟨completion, hc⟩ := hvalid hv
      exact ⟨completion, List.mem_append_left _ hc⟩
    · rcases List.mem_append.1 hp with hp | hp
      · exact hgone hv p hp
      · have hle := (hdone p hp).1
        have hlt := h.past_lt he
        omega

/-- A new request waits from the moment at which it is accepted, unless the queue is closed. -/
theorem Accounts.accept (h : l.Accounts past) {request : Request}
    (serial_eq : request.serial = l.made) {isOpen : Bool} {l' : Ledger}
    (isOpen_eq : l.isOpen = isOpen)
    (eq : l' = { l with
      pending := l'.pending, flushes := l'.flushes, singles := l'.singles, made := l.made + 1
      accepted := l.accepted ++ [request] })
    (waiting : l'.waiting.Perm (l.waiting ++ [request]) ∨ isOpen = false ∧ l'.waiting = l.waiting) :
    l'.Accounts past := by
  have hmade : l'.made = l.made + 1 := by rw [eq]
  have haccepted : l'.accepted = l.accepted ++ [request] := by rw [eq]
  have hcompleted : l'.completed = l.completed := by rw [eq]
  have hpanics : l'.panics = l.panics := by rw [eq]
  have hopen : l'.isOpen = l.isOpen := by rw [eq]
  -- its number is the next one, and all numbers before it are smaller
  have hfresh : ∀ r ∈ l.accepted, r.serial ≠ request.serial := by
    intro r hr
    have hlt := h.accepted_lt r hr
    omega
  have hwait : ∀ r ∈ l'.waiting, r ∈ l.waiting ∨ r = request := by
    intro r hr
    rcases waiting with hw | ⟨-, hw⟩
    · simpa using hw.subset hr
    · exact .inl (hw ▸ hr)
  refine ⟨?_, ?_, ?_, ?_, ?_, ?_, ?_, ?_⟩
  · -- accepted_nodup
    rw [haccepted, List.map_append, List.nodup_append]
    refine ⟨h.accepted_nodup, List.nodup_singleton _, ?_⟩
    intro a ha b hb
    obtain ⟨r, hr, rfl⟩ := List.mem_map.1 ha
    rw [List.map_singleton, List.mem_singleton] at hb
    rw [hb]
    exact hfresh r hr
  · -- accepted_lt
    intro r hr
    rw [haccepted, List.mem_append, List.mem_singleton] at hr
    rw [hmade]
    rcases hr with hr | rfl
    · exact Nat.lt_succ_of_lt (h.accepted_lt r hr)
    · rw [serial_eq]
      exact Nat.lt_succ_self _
  · -- completed_nodup
    rw [hcompleted]
    exact h.completed_nodup
  · -- completed_lt
    intro p hp
    rw [hcompleted] at hp
    rw [hmade]
    exact Nat.lt_succ_of_lt (h.completed_lt p hp)
  · -- owed
    rw [haccepted]
    rcases waiting with hw | ⟨-, hw⟩
    · refine (hw.append_left _).subperm.trans ?_
      rw [← List.append_assoc]
      exact (List.subperm_append_right [request]).2 h.owed
    · rw [hw]
      exact h.owed.trans (List.sublist_append_left _ _).subperm
  · -- owing
    intro ho
    rw [hopen] at ho
    rcases waiting with hw | ⟨hc, -⟩
    · rw [haccepted]
      refine ((h.owing ho).append_right [request]).trans ?_
      rw [List.append_assoc]
      exact (hw.append_left _).symm
    · rw [isOpen_eq, hc] at ho
      cases ho
  · -- not_early
    intro p hp r hr
    rw [hcompleted] at hp
    rcases hwait r hr with hr | rfl
    · exact h.not_early p hp r hr
    · have hlt := h.completed_lt p hp
      omega
  · -- fates
    rw [hpanics, hcompleted]
    exact h.fates

/-- A step of the ledger leaves the accounts right, for it takes no request. -/
theorem Accounts.step (step : Ledger.Step l l') (h : l.Accounts past) : l'.Accounts past := by
  cases step with
  | suspend scope id_eq => exact ⟨h.1, h.2, h.3, h.4, h.5, h.6, h.7, h.8⟩
  | byHand n done serials => exact h.byHand serials
  | single request serial_eq scope_mem =>
    refine h.accept serial_eq rfl rfl ?_
    have hw : (((l.make 1).accept request).enqueue request).waiting =
        if l.isOpen then l.waiting ++ [request] else l.waiting := waiting_enqueue _ request
    by_cases ho : l.isOpen
    · rw [if_pos ho] at hw
      exact .inl (.of_eq hw)
    · rw [if_neg ho] at hw
      exact .inr ⟨by simpa using ho, hw⟩
  | join request serial_eq scope_mem isObject =>
    refine h.accept serial_eq rfl ?_ (.inl (((l.make 1).accept request).waiting_join request))
    unfold Ledger.join
    dsimp only
    split <;> rfl

/-! ## Turns -/

/-- The requests of a task move from those that wait to the past. -/
theorem Accounts.take (h : l.Accounts past) (hl : l.Sound) {scope : Scope} {requests : List Request}
    (takes : l.Takes scope requests l') {valid : Bool} {done : List (Request × Completion)}
    {more : List Panic} (first : done.map (·.1) <+: requests)
    (cancelled : valid = false → done = [])
    (finished : valid = true → more = [] → done.map (·.1) = requests) :
    ((l'.complete done).panic more).Accounts (past ++ requests.map fun r => (r, valid)) := by
  have hwaiting := takes.waiting_perm hl
  obtain ⟨haccepted, hcompleted, hmade, hopen, hpanics⟩ := takes.keeps
  have hdone : ∀ p ∈ done, p.1 ∈ requests := fun p hp => first.subset (List.mem_map_of_mem hp)
  have hgone : ∀ r ∈ requests, r ∈ l.waiting :=
    fun r hr => hwaiting.symm.subset (List.mem_append_left _ hr)
  have hstill : ∀ r ∈ l'.waiting, r ∈ l.waiting :=
    fun r hr => hwaiting.symm.subset (List.mem_append_right _ hr)
  have hwn : ((requests ++ l'.waiting).map (·.serial)).Nodup := by
    have hn := h.owed_nodup
    rw [List.map_append, List.nodup_append] at hn
    exact (hwaiting.map _).nodup_iff.1 hn.2.1
  rw [List.map_append, List.nodup_append] at hwn
  obtain ⟨hrequests, -, hapart⟩ := hwn
  have hmoved : ((past ++ requests.map fun r => (r, valid)).map (·.1) ++ l'.waiting).Perm
      (past.map (·.1) ++ l.waiting) := by
    rw [List.map_append, List.append_assoc, List.map_map]
    refine List.Perm.append_left _ ?_
    rw [show ((·.1) ∘ fun r : Request => (r, valid)) = id from rfl, List.map_id]
    exact hwaiting.symm
  refine ⟨?_, ?_, ?_, ?_, ?_, ?_, ?_, ?_⟩
  · -- accepted_nodup
    show (l'.accepted.map _).Nodup
    rw [haccepted]
    exact h.accepted_nodup
  · -- accepted_lt
    show ∀ r ∈ l'.accepted, r.serial < l'.made
    rw [haccepted, hmade]
    exact h.accepted_lt
  · -- completed_nodup
    show ((l'.completed ++ done).map (·.1.serial)).Nodup
    rw [hcompleted, List.map_append, List.nodup_append]
    refine ⟨h.completed_nodup, ?_, ?_⟩
    · have hs := (first.sublist.map (·.serial)).nodup hrequests
      rwa [List.map_map] at hs
    · intro a ha b hb
      obtain ⟨p, hp, rfl⟩ := List.mem_map.1 ha
      obtain ⟨q, hq, rfl⟩ := List.mem_map.1 hb
      exact h.not_early p hp q.1 (hgone _ (hdone q hq))
  · -- completed_lt
    intro p hp
    show p.1.serial < l'.made
    rw [hmade]
    rcases List.mem_append.1 hp with hp | hp
    · exact h.completed_lt p (hcompleted ▸ hp)
    · exact h.waiting_lt (hgone _ (hdone p hp))
  · -- owed
    show List.Subperm _ l'.accepted
    rw [haccepted]
    exact hmoved.subperm.trans h.owed
  · -- owing
    intro ho
    show l'.accepted.Perm _
    rw [haccepted]
    exact (h.owing (hopen ▸ ho)).trans hmoved.symm
  · -- not_early
    intro p hp r hr
    rcases List.mem_append.1 hp with hp | hp
    · exact h.not_early p (hcompleted ▸ hp) r (hstill r hr)
    · exact hapart _ (List.mem_map_of_mem (hdone p hp)) _ (List.mem_map_of_mem hr)
  · -- fates
    intro hnone e he
    obtain ⟨hnone, hmore⟩ := List.append_eq_nil_iff.1 hnone
    rcases List.mem_append.1 he with he | he
    · obtain ⟨hvalid, hinvalid⟩ := h.fates (hpanics ▸ hnone) e he
      refine ⟨fun hv => ?_, fun hv p hp => ?_⟩
      · obtain ⟨completion, hc⟩ := hvalid hv
        exact ⟨completion, List.mem_append_left _ (hcompleted.symm ▸ hc)⟩
      · rcases List.mem_append.1 hp with hp | hp
        · exact hinvalid hv p (hcompleted ▸ hp)
        · exact h.past_ne_waiting he (hgone _ (hdone p hp))
    · -- a request that was taken just now waited until then, so nobody completed it before
      obtain ⟨r, hr, rfl⟩ := List.mem_map.1 he
      refine ⟨fun hv => ?_, fun hv p hp => ?_⟩
      · rw [← finished hv hmore] at hr
        obtain ⟨q, hq, rfl⟩ := List.mem_map.1 hr
        exact ⟨q.2, List.mem_append_right _ hq⟩
      · rcases List.mem_append.1 hp with hp | hp
        · exact h.not_early p (hcompleted ▸ hp) r (hgone r hr)
        · rw [cancelled hv] at hp
          cases hp

end Ledger

namespace Session

open Ledger

variable {s : Session} {past : List (Request × Bool)}

/-- The requests that the turns of a run carried, and whether their scopes were valid then. -/
def history (s : Session) (events : List Event) : List (Request × Bool) :=
  (s.turns events).flatMap fun t => t.next.map fun r => (r, t.suspensions.isValid r.context.scope)

/-- A turn adds the requests that it takes, each with the validity of its scope. -/
theorem accounts_turn (h : s.ledger.Accounts past) (hs : s.ledger.Sound) :
    (s.after .turn).ledger.Accounts
      (past ++ s.next.map fun r => (r, s.suspensions.isValid r.context.scope)) := by
  have ht := turned s
  generalize (s.after .turn).ledger = l' at ht
  cases ht with
  | idle next_eq => simpa [next_eq] using h
  | command next_eq leads more =>
    have hl := steps_preserve (fun _ _ hstep hl => hl.step hstep) leads h
    rw [next_eq, List.map_nil, List.append_nil]
    refine ⟨hl.1, hl.2, hl.3, hl.4, hl.5, hl.6, hl.7, fun hnone => hl.8 ?_⟩
    exact (List.append_eq_nil_iff.1 hnone).1
  | @carried scope l takes done more first cancelled finished =>
    have hscope : (s.next.map fun r => (r, s.suspensions.isValid r.context.scope)) =
        s.next.map fun r => (r, s.suspensions.isValid scope) := by
      refine List.map_congr_left fun r hr => ?_
      rw [takes.scope_eq hs r hr]
    rw [hscope]
    exact h.take hs takes first cancelled finished

/-- Closing the queue loses only requests that still wait. -/
theorem accounts_closeQueue (h : s.ledger.Accounts past) : s.closeQueue.ledger.Accounts past := by
  have hsub : s.closeQueue.ledger.waiting.Sublist s.ledger.waiting :=
    List.Sublist.append_left (List.nil_sublist _) _
  refine ⟨h.1, h.2, h.3, h.4, ?_, fun ho => Bool.noConfusion ho, ?_, h.fates⟩
  · exact (hsub.append_left _).subperm.trans h.owed
  · exact fun p hp r hr => h.not_early p hp r (hsub.subset hr)

/-- Every event leaves the accounts right, with what it takes added to them. -/
theorem accounts_after (event : Event) (h : s.ledger.Accounts past) (hs : s.ledger.Sound) :
    (s.after event).ledger.Accounts (past ++ s.history [event]) := by
  cases event with
  | step step =>
    have hl := steps_preserve (fun _ _ hstep hl => Accounts.step hstep hl) (leads_perform step s) h
    simpa [history, turns, after] using hl
  | turn => simpa [history, turns] using accounts_turn h hs
  | dropSender => simpa [history, turns, after] using h
  | dropQueue => simpa [history, turns, after] using accounts_closeQueue h

/-- Every run keeps the books in order. -/
theorem accounts_play (events : List Event) (h : s.ledger.Accounts past) (hs : s.ledger.Sound) :
    (s.play events).ledger.Accounts (past ++ s.history events) := by
  induction events generalizing s past with
  | nil => simpa [history, turns] using h
  | cons event rest ih =>
    have hrest := ih (accounts_after event h hs) (sound_after event hs)
    have happ : s.history (event :: rest) = s.history [event] ++ (s.after event).history rest := by
      have ht := s.turns_append [event] rest
      unfold history
      rw [← List.flatMap_append, ← List.singleton_append, ht]
      rfl
    rwa [happ, ← List.append_assoc]

/-- At the start there is nothing to account for. -/
theorem accounts_start (debuggee : Debuggee) (settings : DebuggerSettings)
    (connection : Connection) : (start debuggee settings connection).ledger.Accounts [] where
  accepted_nodup := List.nodup_nil
  accepted_lt := fun _ hr => by cases hr
  completed_nodup := List.nodup_nil
  completed_lt := fun _ hp => by cases hp
  owed := List.Subperm.refl _
  owing := fun _ => List.Perm.refl _
  not_early := fun _ hp => by cases hp
  fates := fun _ _ he => by cases he

end Session

end BatchStringify
