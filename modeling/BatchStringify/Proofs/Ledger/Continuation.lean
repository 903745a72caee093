import BatchStringify.Proofs.Ledger.Accounts

/-!
# What can still happen to a request

A request that was made and no longer waits has come to its end: whatever is completed from then on either
waited or is newer (`Ledger.Continues`), and batches are only ever extended by newer requests.
-/

namespace BatchStringify

namespace Ledger

variable {l l' : Ledger}

/-- What is completed in one of the steps that take no task from the queue is new. -/
theorem Step.completes (step : Ledger.Step l l') : l.made ≤ l'.made ∧
    ∃ done, l'.completed = l.completed ++ done ∧
      ∀ p ∈ done, l.made ≤ p.1.serial ∧ p.1.serial < l'.made := by
  cases step with
  | suspend scope id_eq => exact ⟨Nat.le_refl _, [], by simp, by simp⟩
  | byHand n done serials =>
    refine ⟨Nat.le_add_right _ _, done, rfl, fun p hp => ?_⟩
    have hm := serials.subset (List.mem_map.2 ⟨p, hp, rfl⟩)
    rw [List.mem_range'_1] at hm
    exact hm
  | single request serial_eq scope_mem =>
    exact ⟨Nat.le_add_right _ _, [], by simp [make, accept, enqueue], by simp⟩
  | join request serial_eq scope_mem isObject =>
    exact ⟨by simp [make, accept], [], by simp [make, accept], by simp⟩

/-- Steps of the ledger complete only requests that are made in them. -/
theorem steps_complete (steps : Relation.ReflTransGen Ledger.Step l l') : l.made ≤ l'.made ∧
    ∃ done, l'.completed = l.completed ++ done ∧
      ∀ p ∈ done, l.made ≤ p.1.serial ∧ p.1.serial < l'.made := by
  induction steps with
  | refl => exact ⟨Nat.le_refl _, [], by simp, by simp⟩
  | tail _ step ih =>
    obtain ⟨hmade, done, hdone, hserials⟩ := ih
    obtain ⟨hmade', done', hdone', hserials'⟩ := step.completes
    refine ⟨Nat.le_trans hmade hmade', done ++ done', ?_, fun p hp => ?_⟩
    · rw [hdone', hdone, List.append_assoc]
    · rcases List.mem_append.1 hp with hp | hp
      · obtain ⟨hle, hlt⟩ := hserials p hp
        exact ⟨hle, Nat.lt_of_lt_of_le hlt hmade'⟩
      · obtain ⟨hle, hlt⟩ := hserials' p hp
        exact ⟨Nat.le_trans hmade hle, hlt⟩

/-- How a ledger goes on, whatever happens. -/
structure Continues (l l' : Ledger) : Prop where
  made_le : l.made ≤ l'.made
  /-- Only what waited and what is new can be completed. -/
  completed : ∃ done, l'.completed = l.completed ++ done ∧
    ∀ p ∈ done, l.made ≤ p.1.serial ∨ p.1 ∈ l.waiting
  /-- Nothing comes back to those that wait. -/
  waiting : ∀ r ∈ l'.waiting, l.made ≤ r.serial ∨ r ∈ l.waiting
  /-- Batches grow by new requests only. -/
  batches : ∀ id, ∀ r ∈ (l'.pending.find? id).getD [],
    l.made ≤ r.serial ∨ r ∈ (l.pending.find? id).getD []

theorem Continues.refl (l : Ledger) : l.Continues l :=
  ⟨Nat.le_refl _, ⟨[], by simp, by simp⟩, fun _ hr => .inr hr, fun _ _ hr => .inr hr⟩

/-- A ledger goes on from where it went on before. -/
theorem Continues.trans {l'' : Ledger} (h : l.Continues l') (h' : l'.Continues l'') :
    l.Continues l'' where
  made_le := Nat.le_trans h.made_le h'.made_le
  completed := by
    obtain ⟨done, hdone, hfrom⟩ := h.completed
    obtain ⟨done', hdone', hfrom'⟩ := h'.completed
    refine ⟨done ++ done', by rw [hdone', hdone, List.append_assoc], fun p hp => ?_⟩
    rcases List.mem_append.1 hp with hp | hp
    · exact hfrom p hp
    · rcases hfrom' p hp with hnew | hwaited
      · exact .inl (Nat.le_trans h.made_le hnew)
      · exact h.waiting _ hwaited
  waiting := by
    intro r hr
    rcases h'.waiting r hr with hnew | hwaited
    · exact .inl (Nat.le_trans h.made_le hnew)
    · exact h.waiting r hwaited
  batches := by
    intro id r hr
    rcases h'.batches id r hr with hnew | hwaited
    · exact .inl (Nat.le_trans h.made_le hnew)
    · exact h.batches id r hwaited

/-- Only the batch of the scope of a request is extended. -/
theorem mem_batch_join {request r : Request} {id : Nat}
    (h : r ∈ ((l.join request).pending.find? id).getD []) :
    r = request ∨ r ∈ (l.pending.find? id).getD [] := by
  rw [pending_join] at h
  by_cases hid : id = request.context.scope.id
  · subst hid
    rw [Table.find?_put_self, Option.getD_some, List.mem_append, List.mem_singleton] at h
    exact h.symm
  · rw [Table.find?_put_of_ne _ _ hid] at h
    exact .inr h

/-- Every step of a ledger goes on from it. -/
theorem Step.continues (step : Ledger.Step l l') : l.Continues l' := by
  obtain ⟨hmade, done, hdone, hserials⟩ := step.completes
  refine ⟨hmade, ⟨done, hdone, fun p hp => .inl (hserials p hp).1⟩, ?_, ?_⟩
  · intro r hr
    cases step with
    | suspend scope id_eq => exact .inr hr
    | byHand n done serials => exact .inr hr
    | single request serial_eq scope_mem =>
      rw [waiting_enqueue] at hr
      by_cases ho : l.isOpen
      · rw [if_pos (show ((l.make 1).accept request).isOpen = true from ho)] at hr
        rcases List.mem_append.1 hr with hr | hr
        · exact .inr hr
        · rw [List.mem_singleton.1 hr]
          exact .inl (Nat.le_of_eq serial_eq.symm)
      · rw [if_neg (show ¬((l.make 1).accept request).isOpen = true from ho)] at hr
        exact .inr hr
    | join request serial_eq scope_mem isObject =>
      rcases List.mem_append.1 ((waiting_join _ request).subset hr) with hr | hr
      · exact .inr hr
      · rw [List.mem_singleton.1 hr]
        exact .inl (Nat.le_of_eq serial_eq.symm)
  · intro id r hr
    cases step with
    | suspend scope id_eq => exact .inr hr
    | byHand n done serials => exact .inr hr
    | single request serial_eq scope_mem => exact .inr hr
    | join request serial_eq scope_mem isObject =>
      rcases mem_batch_join hr with rfl | hr
      · exact .inl (Nat.le_of_eq serial_eq.symm)
      · exact .inr hr

/-- So do several steps. -/
theorem Continues.of_steps (steps : Relation.ReflTransGen Ledger.Step l l') : l.Continues l' := by
  induction steps with
  | refl => exact .refl l
  | tail _ step ih => exact ih.trans step.continues

/-- Taking a task only takes requests away. -/
theorem Takes.continues {scope : Scope} {requests : List Request}
    (takes : l.Takes scope requests l') (h : l.Sound) {done : List (Request × Completion)}
    (first : done.map (·.1) <+: requests) (more : List Panic) :
    l.Continues ((l'.complete done).panic more) := by
  have hwaiting := takes.waiting_perm h
  obtain ⟨-, hcompleted, hmade, -, -⟩ := takes.keeps
  refine ⟨?_, ⟨done, ?_, fun p hp => .inr ?_⟩, fun r hr => .inr ?_, fun id r hr => .inr ?_⟩
  · exact Nat.le_of_eq hmade.symm
  · exact congrArg (· ++ done) hcompleted
  · exact hwaiting.symm.subset (List.mem_append_left _ (first.subset (List.mem_map_of_mem hp)))
  · exact hwaiting.symm.subset (List.mem_append_right _ hr)
  · cases takes with
    | single singles_eq => exact hr
    | @flush scope rest flushes_eq =>
      replace hr : r ∈ ((l.pending.erase scope.id).find? id).getD [] := hr
      by_cases hid : id = scope.id
      · rw [hid, Table.find?_erase_self] at hr
        cases hr
      · rwa [Table.find?_erase_of_ne _ hid] at hr

/-! ## The order of batches -/

/-- Whether each batch holds its requests in the order in which they were accepted. -/
def Gathered (l : Ledger) : Prop :=
  ∀ id, ((l.pending.find? id).getD []).Sublist l.accepted

/-- A request joins its batch behind the others when it is accepted. -/
theorem Gathered.step (step : Ledger.Step l l') (h : l.Gathered) : l'.Gathered := by
  cases step with
  | suspend scope id_eq => exact h
  | byHand n done serials => exact h
  | single request serial_eq scope_mem =>
    exact fun id => (h id).trans (List.sublist_append_left _ _)
  | join request serial_eq scope_mem isObject =>
    intro id
    rw [pending_join, accepted_join]
    by_cases hid : id = request.context.scope.id
    · subst hid
      rw [Table.find?_put_self, Option.getD_some]
      exact (h _).append (List.Sublist.refl [request])
    · rw [Table.find?_put_of_ne _ _ hid]
      exact (h id).trans (List.sublist_append_left _ _)

/-- Taking a batch leaves the others gathered by scope. -/
theorem Gathered.takes {scope : Scope} {requests : List Request}
    (takes : l.Takes scope requests l') (h : l.Gathered) : l'.Gathered := by
  cases takes with
  | single singles_eq => exact h
  | @flush scope rest flushes_eq =>
    intro id
    show (((l.pending.erase scope.id).find? id).getD []).Sublist l.accepted
    by_cases hid : id = scope.id
    · rw [hid, Table.find?_erase_self]
      exact List.nil_sublist _
    · rw [Table.find?_erase_of_ne _ hid]
      exact h id

end Ledger

namespace Session

open Ledger

variable {s : Session}

/-- Every event leaves the batches gathered by scope. -/
theorem gathered_after (event : Event) (h : s.ledger.Gathered) :
    (s.after event).ledger.Gathered := by
  cases event with
  | step step => exact steps_preserve (fun _ _ hstep hl => hl.step hstep) (leads_perform step s) h
  | turn =>
    have ht := turned s
    generalize (s.after .turn).ledger = l' at ht
    cases ht with
    | idle next_eq => exact h
    | @command l next_eq leads more =>
      have hl : l.Gathered := steps_preserve (fun _ _ hstep hl => hl.step hstep) leads h
      exact hl
    | @carried scope l takes done more first cancelled finished =>
      have hl : l.Gathered := h.takes takes
      exact hl
  | dropSender => rwa [after, ledger_dropOwnSender]
  | dropQueue => exact h


/-- Every event goes on from the ledger in front of it. -/
theorem continues_after (event : Event) (h : s.ledger.Sound) :
    s.ledger.Continues (s.after event).ledger := by
  cases event with
  | step step => exact .of_steps (leads_perform step s)
  | turn =>
    have ht := turned s
    generalize (s.after .turn).ledger = l' at ht
    cases ht with
    | idle next_eq => exact .refl _
    | @command l next_eq leads more =>
      have hl := Continues.of_steps leads
      exact ⟨hl.made_le, hl.completed, hl.waiting, hl.batches⟩
    | carried takes done more first cancelled finished => exact takes.continues h first more
  | dropSender =>
    rw [after, ledger_dropOwnSender]
    exact .refl _
  | dropQueue =>
    refine ⟨Nat.le_refl _, ⟨[], by simp [after, closeQueue, ledger, completions], by simp⟩, ?_,
      fun id r hr => .inr hr⟩
    intro r hr
    rcases mem_waiting.1 hr with hr | hr
    · exact .inr (mem_waiting.2 (.inl hr))
    · cases hr

/-- Whatever happens, the ledger goes on from where it is. -/
theorem continues_play (events : List Event) (h : s.ledger.Sound) :
    s.ledger.Continues (s.play events).ledger := by
  induction events generalizing s with
  | nil => exact .refl _
  | cons event rest ih => exact (continues_after event h).trans (ih (sound_after event h))

end Session

end BatchStringify
