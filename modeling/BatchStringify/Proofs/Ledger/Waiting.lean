import BatchStringify.Proofs.Ledger.Sound

/-!
# The requests that wait

A request waits in a batch or in the queue. Where it waits makes no difference to what has to be
done, so the requests that wait are seen up to their order: one comes in with each submission, and
those that a task carries go out with it.
-/

namespace BatchStringify

/-- The lists in the values of a table, with a value at a key that had none or a longer one. -/
theorem Table.flatMap_put {α : Type} (t : Table Nat (List α)) (k : Nat) (a : α) :
    ((t.put k ((t.find? k).getD [] ++ [a])).entries.flatMap (·.2)).Perm
      (t.entries.flatMap (·.2) ++ [a]) := by
  obtain ⟨entries⟩ := t
  simp only [Table.find?, Table.put]
  induction entries with
  | nil => simp [Table.findEntry, Table.putEntry]
  | cons e rest ih =>
    by_cases he : e.1 = k
    · rw [Table.findEntry, if_pos he, Table.putEntry, if_pos he]
      simp only [List.flatMap_cons, Option.getD_some, List.append_assoc]
      exact List.perm_append_comm.append_left _
    · rw [Table.findEntry, if_neg he, Table.putEntry, if_neg he]
      simp only [List.flatMap_cons, List.append_assoc]
      exact ih.append_left _

theorem Table.flatMap_erase {α : Type} {t : Table Nat (List α)} (h : t.keys.Nodup) (k : Nat) :
    (t.entries.flatMap (·.2)).Perm
      ((t.find? k).getD [] ++ (t.erase k).entries.flatMap (·.2)) := by
  obtain ⟨entries⟩ := t
  simp only [Table.find?, Table.erase, Table.keys] at h ⊢
  induction entries with
  | nil => simp [Table.findEntry]
  | cons e rest ih =>
    rw [List.map_cons, List.nodup_cons] at h
    obtain ⟨hnot, hrest⟩ := h
    by_cases he : e.1 = k
    · rw [Table.findEntry, if_pos he, List.filter_cons_of_neg (by simpa using he)]
      rw [List.filter_eq_self.2 fun d hd => ?_]
      · simp
      · simpa using fun hdk => hnot (List.mem_map.2 ⟨d, hd, hdk.trans he.symm⟩)
    · rw [Table.findEntry, if_neg he, List.filter_cons_of_pos (by simpa using he)]
      simp only [List.flatMap_cons]
      refine ((ih hrest).append_left e.2).trans ?_
      rw [← List.append_assoc, ← List.append_assoc]
      exact List.perm_append_comm.append_right _

namespace Ledger

variable {l l' : Ledger}

theorem waiting_join (l : Ledger) (request : Request) :
    (l.join request).waiting.Perm (l.waiting ++ [request]) := by
  have hput := l.pending.flatMap_put request.context.scope.id request
  have hall : ∀ t : Table Nat (List Request),
      (t.entries.flatMap (·.2)).Perm (l.pending.entries.flatMap (·.2) ++ [request]) →
        (t.entries.flatMap (·.2) ++ l.singles).Perm (l.waiting ++ [request]) := by
    intro t ht
    refine (ht.append_right l.singles).trans ?_
    rw [waiting, List.append_assoc, List.append_assoc]
    exact List.perm_append_comm.append_left _
  unfold join
  dsimp only
  cases hf : l.pending.find? request.context.scope.id with
  | none =>
    rw [hf] at hput
    exact hall _ hput
  | some batch =>
    rw [hf] at hput
    exact hall _ hput

theorem waiting_enqueue (l : Ledger) (request : Request) :
    (l.enqueue request).waiting =
      if l.isOpen then l.waiting ++ [request] else l.waiting := by
  by_cases h : l.isOpen <;> simp [enqueue, waiting, h]

theorem Takes.keeps {scope : Scope} {requests : List Request} (takes : l.Takes scope requests l') :
    l'.accepted = l.accepted ∧ l'.completed = l.completed ∧ l'.made = l.made ∧
      l'.isOpen = l.isOpen ∧ l'.panics = l.panics := by
  cases takes <;> exact ⟨rfl, rfl, rfl, rfl, rfl⟩

theorem Takes.waiting_perm {scope : Scope} {requests : List Request}
    (takes : l.Takes scope requests l') (h : l.Sound) :
    l.waiting.Perm (requests ++ l'.waiting) := by
  cases takes with
  | single singles_eq =>
    rw [waiting, singles_eq]
    exact List.perm_middle
  | flush flushes_eq =>
    have hp := Table.flatMap_erase h.keys_nodup scope.id
    rw [waiting, waiting, ← List.append_assoc]
    exact hp.append_right _

end Ledger

end BatchStringify
