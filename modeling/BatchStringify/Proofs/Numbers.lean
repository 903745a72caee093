import BatchStringify.Proofs.Keeping

/-!
# The numbers of strings

A debuggee gives numbers out in one sequence, to strings as to all else that it creates. So no string has a number
beyond the last one, and none has one that a later string gets: what is read under the number of a new string is
that string, whatever else is left in the debuggee. This holds in every run of a debuggee that started so
(`counted_play`).
-/

namespace BatchStringify

namespace Debuggee

/-- Whether all strings, and all objects that were collected, have numbers that were given out. -/
structure Counted (d : Debuggee) : Prop where
  strings : ∀ id, d.lastId < id → d.strings.find? id = none
  collected : d.Numbered

variable {d d' : Debuggee}

theorem Counted.of_same (h : d.Counted) (same : d.SameObjects d') : d'.Counted where
  strings := by
    intro id hid
    rw [same.strings]
    exact h.strings id (Nat.lt_of_le_of_lt same.lastId hid)
  collected := h.collected.of_eq same.collected same.lastId

/-- A debuggee in which there are no strings yet and nothing was collected. -/
theorem counted_of_empty (strings : d.strings = .empty) (collected : d.collected = []) :
    d.Counted where
  strings := by
    intro id _
    rw [strings, Table.find?_empty]
  collected := by
    intro id hid
    rw [collected] at hid
    cases hid

/-- A string that the helper returns gets the next number, also if it is collected at once. -/
theorem Counted.settle (h : d.Counted) (reply : HandlerReply) : (d.settle reply).2.Counted where
  strings := by
    cases reply with
    | text content =>
      intro id hid
      have hne : id ≠ d.lastId + 1 := Nat.ne_of_gt hid
      exact (Table.find?_put_of_ne _ content hne).trans (h.strings id (Nat.lt_of_succ_lt hid))
    | collected => exact fun id hid => h.strings id (Nat.lt_of_succ_lt hid)
    | _ => exact h.strings
  collected := h.collected.settle reply

/-- Every call leaves the strings and the objects that were collected counted. -/
theorem Counted.afterCall (h : d.Counted) (call : Call) : (d.afterCall call).Counted := by
  cases call with
  | invokeStatic thread owner method args =>
    have hcounted : (d.invokeStatic thread owner method args).2.Counted := by
      obtain ⟨asked, hsame, hcall | ⟨reply, hcall⟩⟩ :=
        d.sameObjects_invokeStatic thread owner method args
      · rw [hcall]
        exact h.of_same hsame
      · rw [hcall]
        exact (h.of_same hsame).settle reply
    exact hcounted
  | disableCollection id =>
    have hcounted : (d.disableCollection id).2.Counted := by
      unfold disableCollection
      dsimp only
      split
      · exact ⟨h.strings, h.collected⟩
      · split <;> exact ⟨h.strings, h.collected⟩
    exact hcounted
  | enableCollection id => exact ⟨h.strings, h.collected⟩
  | _ => exact h.of_same (d.sameObjects_afterCall rfl)

end Debuggee

/-- No step of the embedder gives a string a number that was not given out. -/
theorem Step.spares_counted (step : Step) : step.Spares Debuggee.Counted := by
  cases step with
  | call asked => exact fun d h => h.afterCall asked
  | defineClass name => exact fun d h => h.of_same (d.sameObjects_defineClass name)
  | defineMethod owner name signature =>
    exact fun d h => h.of_same (d.sameObjects_defineMethod owner name signature)
  | setDisplay id outcome => exact fun d h => ⟨h.strings, h.collected⟩
  | fail operation error => exact fun d h => ⟨h.strings, h.collected⟩
  | setHandler handler => exact fun d h => ⟨h.strings, h.collected⟩
  | _ => trivial

namespace Session

/-- In every run strings have only numbers that were given out. -/
theorem counted_play {s : Session} (h : s.link.debuggee.Counted) (events : List Event) :
    (s.play events).link.debuggee.Counted :=
  keeps_play (.of_afterCall fun _ call hd => hd.afterCall call)
    (fun p _ => p.2.spares_counted) h

end Session

end BatchStringify
