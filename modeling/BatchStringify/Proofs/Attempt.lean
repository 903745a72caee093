import BatchStringify.Proofs.Exchanges

/-!
# When a batch attempt succeeds

`Attempt.Answered` spells out a successful attempt as a chain of calls: the array is created and
filled, the helper turns it into a string, the string is pinned and read, and its bytes decode to
one entry for each value. An attempt returns entries exactly if there is such a chain
(`evaluate_eq_entries_iff`), and it panics only if the helper was asked and panicked
(`evaluate_eq_panic`).
-/

namespace BatchStringify

namespace Attempt

variable {α β : Type}

/-- The calls of an attempt up to the one of the helper succeed: the array is there and holds the
values. -/
inductive Asked (settings : DebuggerSettings) (context : Context) (values : List Value)
    (link : Link) : ThreadId → ObjectId → Link → Prop where
  | intro {thread : ThreadId} {elements : ClassHandle} {array : ObjectId}
      {found created stored : Link}
      (thread_eq : context.scope.thread = some thread)
      (findClass_eq : link.findClass thread settings.arrayType context.loader = (.ok elements, found))
      (newArray_eq : found.newArray elements values.length = (.ok array, created))
      (setArrayValues_eq : created.setArrayValues array values = (.ok (), stored)) :
      Asked settings context values link thread array stored

/-- Whether the helper is asked in the course of an attempt. -/
def IsAsked (settings : DebuggerSettings) (context : Context) (values : List Value) (link : Link) :
    Prop :=
  ∃ thread array stored, Asked settings context values link thread array stored

/-- The calls of an attempt all succeed, and the reply has one entry for each value. -/
inductive Answered (settings : DebuggerSettings) (helper : Helper) (context : Context)
    (values : List Value) (link : Link) (entries : List Reply.Entry) : Link → Prop where
  | intro {thread : ThreadId} {array id : ObjectId} {text : String}
      {stored returned pinned read : Link}
      (asked : Asked settings context values link thread array stored)
      (invokeStatic_eq : stored.invokeStatic thread helper.owner helper.method
        [.object Value.arrayTag array] = (.ok (.ok (.object Value.stringTag id)), returned))
      (disableCollection_eq : returned.disableCollection id = (.ok (), pinned))
      (stringValue_eq : pinned.stringValue id = (.ok text, read))
      (decode_eq : Reply.decode (Latin1.encode text) = .ok entries)
      (length_eq : entries.length = values.length) :
      Answered settings helper context values link entries (release id read)

/-- An answer has an entry for each value. -/
theorem Answered.length_eq {settings : DebuggerSettings} {helper : Helper} {context : Context}
    {values : List Value} {link l : Link} {entries : List Reply.Entry}
    (h : Answered settings helper context values link entries l) :
    entries.length = values.length := by
  obtain ⟨-, -, -, -, -, hlen⟩ := h
  exact hlen

section

variable {settings : DebuggerSettings} {context : Context} {values : List Value} {link stored : Link}
  {thread : ThreadId} {array : ObjectId}

/-- Up to the question the link grows. -/
theorem Asked.grows (h : Asked settings context values link thread array stored) :
    link.Grows (!·.isDisplay) stored := by
  obtain ⟨-, hf, hn, hs⟩ := h
  rename_i elements found created
  have hfound : link.Grows (!·.isDisplay)
      (link.findClass thread settings.arrayType context.loader).2 := link.findClass_grows rfl
  have hcreated : found.Grows (!·.isDisplay) (found.newArray elements values.length).2 :=
    found.newArray_grows rfl
  have hstored : created.Grows (!·.isDisplay) (created.setArrayValues array values).2 :=
    created.setArrayValues_grows rfl
  rw [hf] at hfound
  rw [hn] at hcreated
  rw [hs] at hstored
  exact (hfound.trans hcreated).trans hstored

/-- The calls to the debuggee up to the question. -/
theorem Asked.calls (h : Asked settings context values link thread array stored) :
    ∃ elements found created,
      link.debuggee.findClass thread settings.arrayType context.loader = (.ok elements, found) ∧
      found.newArray elements values.length = (.ok array, created) ∧
      created.setArrayValues array values = (.ok (), stored.debuggee) := by
  obtain ⟨-, hf, hn, hs⟩ := h
  rename_i elements found created
  refine ⟨elements, found.debuggee, created.debuggee, ?_, ?_, ?_⟩
  · exact congrArg (fun r : Except RemoteError ClassHandle × Link => (r.1, r.2.debuggee)) hf
  · exact congrArg (fun r : Except RemoteError ObjectId × Link => (r.1, r.2.debuggee)) hn
  · exact congrArg (fun r : Except RemoteError Unit × Link => (r.1, r.2.debuggee)) hs

end

/-! ## Success of the pieces -/

/-- A chain of calls succeeds just if each of them does. -/
theorem bind_eq_ok_iff {a : Attempt α} {f : α → Attempt β} {link l' : Link} {y : β} :
    (a >>= f).run.run.run link = (.ok (.ok y), l') ↔
      ∃ x l, a.run.run.run link = (.ok (.ok x), l) ∧ (f x).run.run.run l = (.ok (.ok y), l') := by
  rw [run_bind]
  constructor
  · rcases a.run.run.run link with ⟨payload | fault | x, l⟩
    · intro h
      cases h
    · intro h
      cases h
    · intro h
      exact ⟨x, l, rfl, h⟩
  · rintro ⟨x, l, hx, h⟩
    rw [hx]
    exact h

/-- A call succeeds in an attempt as it does by itself. -/
theorem ask_eq_ok_iff {call : Link → Except RemoteError α × Link}
    {fault : RemoteError → BatchFault} {link l : Link} {x : α} :
    (ask call fault).run.run.run link = (.ok (.ok x), l) ↔ call link = (.ok x, l) := by
  show ask call fault link = _ ↔ _
  unfold ask
  constructor
  · rcases call link with ⟨error | y, l'⟩ <;> intro h <;> cases h
    rfl
  · intro h
    rw [h]

theorem invoke_eq_ok_iff {helper : Helper} {thread : ThreadId} {array : ObjectId} {link l : Link}
    {reply : Value} :
    (invoke helper thread array).run.run.run link = (.ok (.ok reply), l) ↔
      link.invokeStatic thread helper.owner helper.method [.object Value.arrayTag array] =
        (.ok (.ok reply), l) := by
  show invoke helper thread array link = _ ↔ _
  unfold invoke
  constructor
  · rcases link.invokeStatic thread helper.owner helper.method [.object Value.arrayTag array] with
      ⟨payload | error | v, l'⟩ <;> intro h <;> cases h
    rfl
  · intro h
    rw [h]

theorem stringId?_eq_some_iff {v : Value} {id : ObjectId} :
    stringId? v = some id ↔ v = .object Value.stringTag id := by
  cases v with
  | object tag n =>
    simp only [stringId?, Option.ite_none_right_eq_some, Option.some.injEq, Value.object.injEq]
  | _ => simp [stringId?]

/-- A reply is read if it is a string that can be pinned and read, and then it is let go. -/
theorem replyText_eq_ok_iff {reply : Value} {link l : Link} {text : String} :
    (replyText reply).run.run.run link = (.ok (.ok text), l) ↔
      ∃ id pinned read, reply = .object Value.stringTag id ∧
        link.disableCollection id = (.ok (), pinned) ∧
        pinned.stringValue id = (.ok text, read) ∧ l = release id read := by
  unfold replyText
  cases hid : stringId? reply with
  | none =>
    have hn : ∀ id, reply ≠ .object Value.stringTag id := fun id h => by
      rw [stringId?_eq_some_iff.2 h] at hid
      cases hid
    constructor
    · intro h
      cases h
    · rintro ⟨id, _, _, hr, _⟩
      exact absurd hr (hn id)
  | some id =>
    rw [stringId?_eq_some_iff] at hid
    subst hid
    simp only [bind_eq_ok_iff, ask_eq_ok_iff]
    constructor
    · rintro ⟨_, pinned, hd, hr⟩
      unfold readAndRelease at hr
      rcases hs : pinned.stringValue id with ⟨error | text', read⟩
      · rw [hs] at hr
        cases hr
      · rw [hs] at hr
        obtain ⟨ht, rfl⟩ := Prod.mk.inj hr
        obtain rfl := Except.ok.inj ht
        exact ⟨id, pinned, read, rfl, hd, hs, rfl⟩
    · rintro ⟨id', pinned, read, hv, hd, hs, rfl⟩
      obtain ⟨-, rfl⟩ := Value.object.inj hv
      exact ⟨(), pinned, hd, by rw [readAndRelease, hs]⟩

/-- A text is an answer if it decodes to as many entries as were asked for. -/
theorem entriesOf_eq_ok_iff {expected : Nat} {text : String} {entries : List Reply.Entry} :
    entriesOf expected text = .ok entries ↔
      Reply.decode (Latin1.encode text) = .ok entries ∧ entries.length = expected := by
  unfold entriesOf
  cases Reply.decode (Latin1.encode text) with
  | error fault => simp
  | ok found =>
    simp only [Except.ok.injEq]
    by_cases h : found.length = expected
    · rw [if_pos h, Except.ok.injEq]
      exact ⟨fun he => ⟨he, he ▸ h⟩, fun he => he.1⟩
    · rw [if_neg h]
      constructor
      · intro he
        cases he
      · rintro ⟨rfl, he⟩
        exact absurd he h

/-- An attempt returns entries exactly if all its calls succeed and the reply fits. -/
theorem evaluate_eq_entries_iff {settings : DebuggerSettings} {helper : Helper} {context : Context}
    {values : List Value} {link l : Link} {entries : List Reply.Entry} :
    (evaluate settings helper context values).run.run.run link = (.ok (.ok entries), l) ↔
      Answered settings helper context values link entries l := by
  unfold evaluate
  cases ht : context.scope.thread with
  | none =>
    constructor
    · intro h
      cases h
    · rintro ⟨⟨hthread⟩⟩
      rw [ht] at hthread
      cases hthread
  | some thread =>
    simp only [bind_eq_ok_iff, ask_eq_ok_iff, invoke_eq_ok_iff, replyText_eq_ok_iff]
    constructor
    · rintro ⟨elements, found, hf, array, created, hn, _, stored, hs, reply, returned, hi,
        text, l', ⟨id, pinned, read, rfl, hd, hv, rfl⟩, he⟩
      obtain ⟨hent, rfl⟩ := Prod.mk.inj he
      obtain ⟨hdec, hlen⟩ := entriesOf_eq_ok_iff.1 (Except.ok.inj hent)
      exact ⟨⟨ht, hf, hn, hs⟩, hi, hd, hv, hdec, hlen⟩
    · rintro ⟨⟨hthread, hf, hn, hs⟩, hi, hd, hv, hdec, hlen⟩
      rw [ht] at hthread
      obtain rfl := Option.some.inj hthread
      refine ⟨_, _, hf, _, _, hn, (), _, hs, _, _, hi, _, _, ⟨_, _, _, rfl, hd, hv, rfl⟩, ?_⟩
      rw [entriesOf_eq_ok_iff.2 ⟨hdec, hlen⟩]
      rfl

/-! ## Panics -/

/-- A chain of calls panics if one of them does and those in front succeeded. -/
theorem bind_eq_panic_iff {a : Attempt α} {f : α → Attempt β} {link l' : Link} {payload : Panic} :
    (a >>= f).run.run.run link = (.error payload, l') ↔
      a.run.run.run link = (.error payload, l') ∨
        ∃ x l, a.run.run.run link = (.ok (.ok x), l) ∧ (f x).run.run.run l = (.error payload, l') := by
  rw [run_bind]
  constructor
  · rcases a.run.run.run link with ⟨payload' | fault | x, l⟩
    · intro h
      cases h
      exact .inl rfl
    · intro h
      cases h
    · intro h
      exact .inr ⟨x, l, rfl, h⟩
  · rintro (h | ⟨x, l, hx, h⟩)
    · rw [h]
    · rw [hx]
      exact h

/-- No call panics but that of the helper. -/
theorem ask_ne_panic (call : Link → Except RemoteError α × Link)
    (fault : RemoteError → BatchFault) (link l : Link) (payload : Panic) :
    ¬(ask call fault).run.run.run link = (.error payload, l) := by
  show ¬ask call fault link = _
  unfold ask
  rcases call link with ⟨error | x, l'⟩ <;> exact fun h => by cases h

theorem invoke_eq_panic_iff {helper : Helper} {thread : ThreadId} {array : ObjectId}
    {link l : Link} {payload : Panic} :
    (invoke helper thread array).run.run.run link = (.error payload, l) ↔
      link.invokeStatic thread helper.owner helper.method [.object Value.arrayTag array] =
        (.error payload, l) := by
  show invoke helper thread array link = _ ↔ _
  unfold invoke
  constructor
  · rcases link.invokeStatic thread helper.owner helper.method [.object Value.arrayTag array] with
      ⟨payload' | error | v, l'⟩ <;> intro h <;> cases h
    rfl
  · intro h
    rw [h]

theorem replyText_ne_panic (reply : Value) (link l : Link) (payload : Panic) :
    ¬(replyText reply).run.run.run link = (.error payload, l) := by
  unfold replyText
  cases stringId? reply with
  | none => exact fun h => by cases h
  | some id =>
    intro h
    rcases bind_eq_panic_iff.1 h with h | ⟨_, pinned, -, h⟩
    · exact ask_ne_panic _ _ _ _ _ h
    · exact ask_ne_panic _ _ _ _ _ h

/-- Only the helper can make an attempt panic, and only once it was asked. -/
theorem evaluate_eq_panic {settings : DebuggerSettings} {helper : Helper} {context : Context}
    {values : List Value} {link l : Link} {payload : Panic}
    (h : (evaluate settings helper context values).run.run.run link = (.error payload, l)) :
    ∃ thread array stored, Asked settings context values link thread array stored ∧
      stored.invokeStatic thread helper.owner helper.method [.object Value.arrayTag array] =
        (.error payload, l) := by
  unfold evaluate at h
  cases ht : context.scope.thread with
  | none =>
    rw [ht] at h
    cases h
  | some thread =>
    rw [ht] at h
    simp only [bind_eq_panic_iff, ask_ne_panic, false_or, ask_eq_ok_iff, invoke_eq_panic_iff,
      replyText_ne_panic] at h
    obtain ⟨elements, found, hf, array, created, hn, _, stored, hs, hi | ⟨_, _, _, _, _, _, he⟩⟩ := h
    · exact ⟨thread, array, stored, ⟨ht, hf, hn, hs⟩, hi⟩
    · cases he

end Attempt

end BatchStringify
