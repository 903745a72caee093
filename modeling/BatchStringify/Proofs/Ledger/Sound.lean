import BatchStringify.Proofs.Ledger.Turns
import Mathlib.Data.List.Nodup

/-!
# The invariant of the ledger

As long as the queue is open, the flushes in it and the pending batches are in one-to-one
correspondence, in the order in which the batches were begun: a flush enters with the first request
of its batch, and leaves together with the whole batch. No batch is empty, and the requests of a
batch share its scope and refer to objects. All this is `Ledger.Sound`, which every step and every
turn keeps (`sound_play`).
-/

namespace BatchStringify

/-- The batches and flushes of a ledger fit together, and its requests come from its scopes. -/
structure Ledger.Sound (l : Ledger) : Prop where
  scope_ids : l.scopes.map (·.id) = List.range' 1 l.scopes.length
  keys_nodup : l.pending.keys.Nodup
  flushes_eq : l.isOpen = true → l.flushes.map (·.id) = l.pending.keys
  batches : ∀ e ∈ l.pending.entries, e.2 ≠ [] ∧
    ∀ request ∈ e.2, request.context.scope.id = e.1 ∧ request.value.objectId?.isSome
  waiting_mem : ∀ request ∈ l.waiting, request.context.scope ∈ l.scopes
  flushes_mem : ∀ scope ∈ l.flushes, scope ∈ l.scopes

namespace Ledger

variable {l l' : Ledger}

/-- A request waits in a batch or alone. -/
theorem mem_waiting {request : Request} :
    request ∈ l.waiting ↔
      (∃ e ∈ l.pending.entries, request ∈ e.2) ∨ request ∈ l.singles := by
  simp [waiting]

/-- The number of a scope tells which scope it is. -/
theorem Sound.scope_inj (h : l.Sound) {a b : Scope} (ha : a ∈ l.scopes) (hb : b ∈ l.scopes)
    (hab : a.id = b.id) : a = b := by
  have hn : (l.scopes.map (·.id)).Nodup := by
    rw [h.scope_ids]
    exact List.nodup_range'
  exact List.inj_on_of_nodup_map hn ha hb hab

/-- In a sound ledger a batch is not empty and has objects of its scope only. -/
theorem Sound.batch (h : l.Sound) {id : Nat} {batch : List Request}
    (hb : l.pending.find? id = some batch) : batch ≠ [] ∧
      ∀ request ∈ batch, request.context.scope.id = id ∧ request.value.objectId?.isSome :=
  h.batches _ (Table.mem_entries_of_find? hb)

/-- The invariant looks at nothing but the scopes, the batches and the queue. -/
theorem Sound.of_eq (h : l.Sound) (scopes : l'.scopes = l.scopes) (isOpen : l'.isOpen = l.isOpen)
    (pending : l'.pending = l.pending) (flushes : l'.flushes = l.flushes)
    (singles : l'.singles = l.singles) : l'.Sound := by
  have hwaiting : l'.waiting = l.waiting := by rw [waiting, waiting, pending, singles]
  constructor
  · rw [scopes]
    exact h.scope_ids
  · rw [pending]
    exact h.keys_nodup
  · rw [isOpen, pending, flushes]
    exact h.flushes_eq
  · rw [pending]
    exact h.batches
  · rw [hwaiting, scopes]
    exact h.waiting_mem
  · rw [flushes, scopes]
    exact h.flushes_mem

/-! ## Steps -/

/-- A request of a known scope may wait alone. -/
theorem Sound.enqueue (h : l.Sound) {request : Request}
    (hscope : request.context.scope ∈ l.scopes) : (l.enqueue request).Sound where
  scope_ids := h.scope_ids
  keys_nodup := h.keys_nodup
  flushes_eq := h.flushes_eq
  batches := h.batches
  flushes_mem := h.flushes_mem
  waiting_mem := by
    intro r hr
    rcases mem_waiting.1 hr with hr | hr
    · exact h.waiting_mem r (mem_waiting.2 (.inl hr))
    · by_cases ho : l.isOpen
      · simp only [Ledger.enqueue, ho, if_true, List.mem_append, List.mem_singleton] at hr
        rcases hr with hr | rfl
        · exact h.waiting_mem r (mem_waiting.2 (.inr hr))
        · exact hscope
      · simp only [Ledger.enqueue, if_neg ho] at hr
        exact h.waiting_mem r (mem_waiting.2 (.inr hr))

/-- The first request of a batch brings the flush with it. -/
theorem Sound.begin (h : l.Sound) {request : Request}
    (hscope : request.context.scope ∈ l.scopes) (hobject : request.value.objectId?.isSome)
    (hnone : l.pending.find? request.context.scope.id = none) :
    ({ l with pending := l.pending.put request.context.scope.id [request] }.sendFlush
      request.context.scope).Sound where
  scope_ids := h.scope_ids
  keys_nodup := by
    show (l.pending.put request.context.scope.id [request]).keys.Nodup
    rw [Table.keys_put_of_find?_eq_none _ hnone]
    rw [Table.find?_eq_none_iff] at hnone
    exact List.nodup_append.2 ⟨h.keys_nodup, List.nodup_singleton _, by
      intro a ha b hb hab
      rw [List.mem_singleton.1 hb] at hab
      exact hnone (hab ▸ ha)⟩
  flushes_eq := by
    intro ho
    -- the new key and the new flush both come last
    replace ho : l.isOpen = true := ho
    have hf := h.flushes_eq ho
    show (if l.isOpen then l.flushes ++ [request.context.scope] else l.flushes).map (·.id) =
      (l.pending.put request.context.scope.id [request]).keys
    rw [Table.keys_put_of_find?_eq_none _ hnone, if_pos ho, List.map_append, hf]
    rfl
  batches := by
    intro e he
    rcases Table.mem_entries_put he with rfl | he
    · refine ⟨by simp, fun r hr => ?_⟩
      rw [List.mem_singleton.1 hr]
      exact ⟨rfl, hobject⟩
    · exact h.batches e he
  waiting_mem := by
    intro r hr
    rcases mem_waiting.1 hr with ⟨e, he, hr⟩ | hr
    · rcases Table.mem_entries_put he with rfl | he
      · rw [List.mem_singleton.1 hr]
        exact hscope
      · exact h.waiting_mem r (mem_waiting.2 (.inl ⟨e, he, hr⟩))
    · exact h.waiting_mem r (mem_waiting.2 (.inr hr))
  flushes_mem := by
    intro scope hs
    by_cases ho : l.isOpen
    · simp only [sendFlush, ho, if_true, List.mem_append, List.mem_singleton] at hs
      rcases hs with hs | rfl
      · exact h.flushes_mem scope hs
      · exact hscope
    · simp only [sendFlush, if_neg ho] at hs
      exact h.flushes_mem scope hs

/-- A later request of a batch changes neither the keys nor the queue. -/
theorem Sound.extend (h : l.Sound) {request : Request} {batch : List Request}
    (hscope : request.context.scope ∈ l.scopes) (hobject : request.value.objectId?.isSome)
    (hsome : l.pending.find? request.context.scope.id = some batch) :
    ({ l with pending := l.pending.put request.context.scope.id (batch ++ [request]) } :
      Ledger).Sound where
  scope_ids := h.scope_ids
  keys_nodup := by
    show (l.pending.put request.context.scope.id (batch ++ [request])).keys.Nodup
    rw [Table.keys_put_of_find?_eq_some _ hsome]
    exact h.keys_nodup
  flushes_eq := by
    intro ho
    rw [h.flushes_eq ho]
    exact (Table.keys_put_of_find?_eq_some _ hsome).symm
  batches := by
    obtain ⟨-, hbatch⟩ := h.batch hsome
    intro e he
    rcases Table.mem_entries_put he with rfl | he
    · refine ⟨by simp, fun r hr => ?_⟩
      rcases List.mem_append.1 hr with hr | hr
      · exact hbatch r hr
      · rw [List.mem_singleton.1 hr]
        exact ⟨rfl, hobject⟩
    · exact h.batches e he
  waiting_mem := by
    intro r hr
    rcases mem_waiting.1 hr with ⟨e, he, hr⟩ | hr
    · rcases Table.mem_entries_put he with rfl | he
      · rcases List.mem_append.1 hr with hr | hr
        · exact h.waiting_mem r (mem_waiting.2 (.inl ⟨_, Table.mem_entries_of_find? hsome, hr⟩))
        · rw [List.mem_singleton.1 hr]
          exact hscope
      · exact h.waiting_mem r (mem_waiting.2 (.inl ⟨e, he, hr⟩))
    · exact h.waiting_mem r (mem_waiting.2 (.inr hr))
  flushes_mem := h.flushes_mem

/-- An object of a known scope may join the batch of its scope. -/
theorem Sound.join (h : l.Sound) {request : Request}
    (hscope : request.context.scope ∈ l.scopes) (hobject : request.value.objectId?.isSome) :
    (l.join request).Sound := by
  unfold Ledger.join
  cases hf : l.pending.find? request.context.scope.id with
  | none => simpa [hf] using h.begin hscope hobject hf
  | some batch => simpa [hf] using h.extend hscope hobject hf

/-- Making, accepting and completing requests leaves the batches and the queue alone. -/
theorem Sound.step (step : Ledger.Step l l') (h : l.Sound) : l'.Sound := by
  cases step with
  | suspend scope id_eq =>
    refine ⟨?_, h.keys_nodup, h.flushes_eq, h.batches, ?_, ?_⟩
    · rw [List.map_append, h.scope_ids, List.length_append, List.length_singleton,
        List.range'_1_concat, Nat.add_comm 1]
      simp [id_eq]
    · exact fun r hr => List.mem_append_left _ (h.waiting_mem r hr)
    · exact fun r hr => List.mem_append_left _ (h.flushes_mem r hr)
  | byHand n done serials => exact h.of_eq rfl rfl rfl rfl rfl
  | single request serial_eq scope_mem =>
    have hl : ((l.make 1).accept request).Sound := h.of_eq rfl rfl rfl rfl rfl
    exact hl.enqueue scope_mem
  | join request serial_eq scope_mem isObject =>
    have hl : ((l.make 1).accept request).Sound := h.of_eq rfl rfl rfl rfl rfl
    exact hl.join scope_mem isObject

/-! ## Turns -/

/-- The flush that leaves is the first one, and its batch is the one that was begun first. -/
theorem Takes.sound {scope : Scope} {requests : List Request} (takes : l.Takes scope requests l')
    (h : l.Sound) : l'.Sound := by
  cases takes with
  | single singles_eq =>
    refine ⟨h.scope_ids, h.keys_nodup, h.flushes_eq, h.batches, ?_, h.flushes_mem⟩
    intro r hr
    refine h.waiting_mem r (mem_waiting.2 ((mem_waiting.1 hr).imp_right fun hr => ?_))
    rw [singles_eq]
    exact List.mem_cons_of_mem _ hr
  | @flush _ rest flushes_eq =>
    refine ⟨h.scope_ids, ?_, ?_, ?_, ?_, ?_⟩
    · -- keys_nodup
      show (l.pending.erase scope.id).keys.Nodup
      rw [Table.keys_erase]
      exact h.keys_nodup.filter _
    · -- flushes_eq: the first key leaves together with the first flush, and it is nowhere else
      intro ho
      have hkeys := h.flushes_eq ho
      have hn := h.keys_nodup
      rw [flushes_eq, List.map_cons] at hkeys
      rw [← hkeys, List.nodup_cons] at hn
      show rest.map (·.id) = (l.pending.erase scope.id).keys
      rw [Table.keys_erase, ← hkeys, List.filter_cons_of_neg (by simp)]
      refine (List.filter_eq_self.2 fun id hid => ?_).symm
      simpa using fun heq : id = scope.id => hn.1 (heq ▸ hid)
    · -- batches
      exact fun e he => h.batches e (Table.mem_entries_erase.1 he).1
    · -- waiting_mem
      intro r hr
      refine h.waiting_mem r (mem_waiting.2 ((mem_waiting.1 hr).imp_left ?_))
      exact fun ⟨e, he, hr⟩ => ⟨e, (Table.mem_entries_erase.1 he).1, hr⟩
    · -- flushes_mem
      intro s hs
      refine h.flushes_mem s ?_
      rw [flushes_eq]
      exact List.mem_cons_of_mem _ hs

/-- All requests that are taken together share the scope that their task is bound to. -/
theorem Takes.scope_eq {scope : Scope} {requests : List Request}
    (takes : l.Takes scope requests l') (h : l.Sound) :
    ∀ request ∈ requests, request.context.scope = scope := by
  cases takes with
  | single singles_eq =>
    intro r hr
    rw [List.mem_singleton.1 hr]
  | flush flushes_eq =>
    have hs : scope ∈ l.scopes := h.flushes_mem scope (by rw [flushes_eq]; exact List.mem_cons_self)
    intro r hr
    cases hf : l.pending.find? scope.id with
    | none =>
      rw [hf] at hr
      cases hr
    | some batch =>
      rw [hf, Option.getD_some] at hr
      have hr' := h.waiting_mem r (mem_waiting.2 (.inl ⟨_, Table.mem_entries_of_find? hf, hr⟩))
      exact h.scope_inj hr' hs ((h.batch hf).2 r hr).1

end Ledger

namespace Session

open Ledger

variable {s : Session}

/-- A turn leaves the ledger sound. -/
theorem sound_turn (h : s.ledger.Sound) : (s.after .turn).ledger.Sound := by
  have ht := turned s
  generalize (s.after .turn).ledger = l' at ht
  cases ht with
  | idle next_eq => exact h
  | @command l next_eq leads more =>
    have hl := steps_preserve (fun _ _ hstep hl => hl.step hstep) leads h
    exact hl.of_eq rfl rfl rfl rfl rfl
  | carried takes done more first cancelled finished =>
    exact (takes.sound h).of_eq rfl rfl rfl rfl rfl

/-- Dropping the receiving end loses what waits in the queue, but not the batches. -/
theorem sound_closeQueue (h : s.ledger.Sound) : s.closeQueue.ledger.Sound where
  scope_ids := h.scope_ids
  keys_nodup := h.keys_nodup
  flushes_eq := fun ho => Bool.noConfusion ho
  batches := h.batches
  waiting_mem := by
    intro r hr
    rcases mem_waiting.1 hr with hr | hr
    · exact h.waiting_mem r (mem_waiting.2 (.inl hr))
    · cases hr
  flushes_mem := fun _ hs => by cases hs

/-- Every event keeps the invariant. -/
theorem sound_after (event : Event) (h : s.ledger.Sound) : (s.after event).ledger.Sound := by
  cases event with
  | step step => exact steps_preserve (fun _ _ hstep hl => hl.step hstep) (leads_perform step s) h
  | turn => exact sound_turn h
  | dropSender => rwa [after, ledger_dropOwnSender]
  | dropQueue => exact sound_closeQueue h

/-- Nothing waits once the queue is open and empty, since a batch has its flush in the queue. -/
theorem waiting_eq_nil {s : Session} (h : s.ledger.Sound) (isOpen : s.queue.isOpen = true)
    (empty : s.queue.waiting = []) : s.ledger.waiting = [] := by
  have hflushes : s.ledger.flushes = [] := by
    show s.queue.waiting.filterMap _ = []
    rw [empty]
    rfl
  have hsingles : s.ledger.singles = [] := by
    show s.queue.waiting.filterMap _ = []
    rw [empty]
    rfl
  have hkeys := h.flushes_eq isOpen
  rw [hflushes, List.map_nil] at hkeys
  have hentries : s.ledger.pending.entries = [] := List.map_eq_nil_iff.1 hkeys.symm
  rw [Ledger.waiting, hentries, hsingles]
  rfl

/-- So does a run. -/
theorem sound_play (events : List Event) (h : s.ledger.Sound) : (s.play events).ledger.Sound := by
  induction events generalizing s with
  | nil => exact h
  | cons event rest ih => exact ih (sound_after event h)

/-- At the start it is sound. -/
theorem sound_start (debuggee : Debuggee) (settings : DebuggerSettings) (connection : Connection) :
    (start debuggee settings connection).ledger.Sound where
  scope_ids := rfl
  keys_nodup := List.nodup_nil
  flushes_eq := fun _ => rfl
  batches := fun _ he => by cases he
  waiting_mem := fun _ hr => by cases hr
  flushes_mem := fun _ hs => by cases hs

end Session

end BatchStringify
