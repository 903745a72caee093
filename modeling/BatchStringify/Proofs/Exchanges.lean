import BatchStringify.Session.Delivery

/-!
# What calls leave alone

A call to the debuggee can create arrays and strings and pin objects, but what the debuggee was set
up with stays: its classes and methods, the outcomes of `toString`, the operations that fail and the
batch helper. Numbers only go up, so a new object is none that was collected. On the side of the link
a call only adds to the journal, and nothing that it adds concerns a request. So a link grows
(`Link.Grows`) through probes, batch attempts and evaluations of single values alike, and the kinds of
calls that it grows by tell these apart: probes only look up, and only the evaluation of a single value
runs `toString`.
-/

namespace BatchStringify

/-! ## The setup of a debuggee -/

/-- Whether a debuggee is set up like another one. -/
structure Debuggee.SameSetup (d d' : Debuggee) : Prop where
  classes : d'.classes = d.classes
  methods : d'.methods = d.methods
  displays : d'.displays = d.displays
  failures : d'.failures = d.failures
  handler : d'.handler = d.handler

namespace Debuggee

variable (d : Debuggee)

theorem SameSetup.refl : d.SameSetup d := ⟨rfl, rfl, rfl, rfl, rfl⟩

theorem SameSetup.trans {d d' d'' : Debuggee} (h : d.SameSetup d') (h' : d'.SameSetup d'') :
    d.SameSetup d'' :=
  ⟨h'.classes.trans h.classes, h'.methods.trans h.methods, h'.displays.trans h.displays,
    h'.failures.trans h.failures, h'.handler.trans h.handler⟩

/-- No call changes the setup of the debuggee: this one looks a class up. -/
theorem findClass_sameSetup (thread : ThreadId) (name : String) (loader : Option ObjectId) :
    d.SameSetup (d.findClass thread name loader).2 := by
  unfold findClass
  dsimp only
  split <;> exact ⟨rfl, rfl, rfl, rfl, rfl⟩

theorem findMethod_sameSetup (owner : ClassHandle) (name signature : String) :
    d.SameSetup (d.findMethod owner name signature).2 := by
  unfold findMethod
  dsimp only
  split <;> exact ⟨rfl, rfl, rfl, rfl, rfl⟩

/-- A new array gets an id; nobody set it up. -/
theorem newArray_sameSetup (elements : ClassHandle) (length : Nat) :
    d.SameSetup (d.newArray elements length).2 := by
  unfold newArray
  dsimp only
  split <;> exact ⟨rfl, rfl, rfl, rfl, rfl⟩

/-- What an array holds is no part of the setup. -/
theorem setArrayValues_sameSetup (array : ObjectId) (values : List Value) :
    d.SameSetup (d.setArrayValues array values).2 := by
  unfold setArrayValues
  dsimp only
  split
  · exact ⟨rfl, rfl, rfl, rfl, rfl⟩
  · split
    · exact ⟨rfl, rfl, rfl, rfl, rfl⟩
    · split
      · exact ⟨rfl, rfl, rfl, rfl, rfl⟩
      · split <;> exact ⟨rfl, rfl, rfl, rfl, rfl⟩

/-- The reply of a handler is a new string, or a fault. -/
theorem settle_sameSetup (reply : HandlerReply) : d.SameSetup (d.settle reply).2 := by
  cases reply <;> exact ⟨rfl, rfl, rfl, rfl, rfl⟩

/-- The handler itself stays, whatever it replies. -/
theorem invokeStatic_sameSetup (thread : ThreadId) (owner : ClassHandle) (method : MethodId)
    (args : List Value) : d.SameSetup (d.invokeStatic thread owner method args).2 := by
  unfold invokeStatic
  dsimp only
  split
  · exact ⟨rfl, rfl, rfl, rfl, rfl⟩
  · split
    · exact ⟨rfl, rfl, rfl, rfl, rfl⟩
    · split
      · exact ⟨rfl, rfl, rfl, rfl, rfl⟩
      · exact ⟨rfl, rfl, rfl, rfl, rfl⟩
      · refine SameSetup.trans ?_ (settle_sameSetup _ _)
        exact ⟨rfl, rfl, rfl, rfl, rfl⟩

theorem stringValue_sameSetup (id : ObjectId) : d.SameSetup (d.stringValue id).2 := by
  unfold stringValue
  dsimp only
  split <;> exact ⟨rfl, rfl, rfl, rfl, rfl⟩

theorem disableCollection_sameSetup (id : ObjectId) :
    d.SameSetup (d.disableCollection id).2 := by
  unfold disableCollection
  dsimp only
  split
  · exact ⟨rfl, rfl, rfl, rfl, rfl⟩
  · split <;> exact ⟨rfl, rfl, rfl, rfl, rfl⟩

/-- Asking an object for its text is counted and changes nothing else. -/
theorem invokeToString_sameSetup (thread : ThreadId) (id : ObjectId) :
    d.SameSetup (d.invokeToString thread id).2 := by
  unfold invokeToString
  dsimp only
  split <;> exact ⟨rfl, rfl, rfl, rfl, rfl⟩

/-! ## The numbers of a debuggee -/

/-- Whether every object that was collected has a number that was given out. -/
def Numbered : Prop := ∀ id ∈ d.collected, id ≤ d.lastId

instance : Decidable d.Numbered := inferInstanceAs (Decidable (∀ id ∈ d.collected, id ≤ d.lastId))

variable {d}

/-- With the same collected objects and no fewer ids given out, the ids of collected objects stay known. -/
theorem Numbered.of_eq {d' : Debuggee} (h : d.Numbered) (collected : d'.collected = d.collected)
    (lastId : d.lastId ≤ d'.lastId) : d'.Numbered := by
  intro id hid
  rw [collected] at hid
  exact Nat.le_trans (h id hid) lastId

theorem Numbered.findClass (h : d.Numbered) (thread : ThreadId) (name : String)
    (loader : Option ObjectId) : (d.findClass thread name loader).2.Numbered := by
  unfold Debuggee.findClass
  dsimp only
  split <;> exact h.of_eq rfl (Nat.le_refl _)

theorem Numbered.findMethod (h : d.Numbered) (owner : ClassHandle) (name signature : String) :
    (d.findMethod owner name signature).2.Numbered := by
  unfold Debuggee.findMethod
  dsimp only
  split <;> exact h.of_eq rfl (Nat.le_refl _)

/-- A new array gets an id that no collected object has. -/
theorem Numbered.newArray (h : d.Numbered) (elements : ClassHandle) (length : Nat) :
    (d.newArray elements length).2.Numbered := by
  unfold Debuggee.newArray
  dsimp only
  split
  · exact h.of_eq rfl (Nat.le_refl _)
  · exact h.of_eq rfl (Nat.le_succ _)

theorem Numbered.setArrayValues (h : d.Numbered) (array : ObjectId) (values : List Value) :
    (d.setArrayValues array values).2.Numbered := by
  unfold Debuggee.setArrayValues
  dsimp only
  split
  · exact h.of_eq rfl (Nat.le_refl _)
  · split
    · exact h.of_eq rfl (Nat.le_refl _)
    · split
      · exact h.of_eq rfl (Nat.le_refl _)
      · split <;> exact h.of_eq rfl (Nat.le_refl _)

/-- A reply string gets an id that no collected object has. -/
theorem Numbered.settle (h : d.Numbered) (reply : HandlerReply) : (d.settle reply).2.Numbered := by
  cases reply with
  | text content => exact h.of_eq rfl (Nat.le_succ _)
  | collected =>
    -- the number that is collected is the one just given out
    intro id hid
    rcases List.mem_append.1 hid with hid | hid
    · exact Nat.le_succ_of_le (h id hid)
    · rw [List.mem_singleton.1 hid]
      exact Nat.le_refl _
  | _ => exact h

/-- So the ids stay apart over a call of the helper. -/
theorem Numbered.invokeStatic (h : d.Numbered) (thread : ThreadId) (owner : ClassHandle)
    (method : MethodId) (args : List Value) :
    (d.invokeStatic thread owner method args).2.Numbered := by
  unfold Debuggee.invokeStatic
  dsimp only
  split
  · exact h.of_eq rfl (Nat.le_refl _)
  · split
    · exact h.of_eq rfl (Nat.le_refl _)
    · split
      · exact h.of_eq rfl (Nat.le_refl _)
      · exact h.of_eq rfl (Nat.le_refl _)
      · refine Numbered.settle ?_ _
        exact h.of_eq rfl (Nat.le_refl _)

theorem Numbered.stringValue (h : d.Numbered) (id : ObjectId) : (d.stringValue id).2.Numbered := by
  unfold Debuggee.stringValue
  dsimp only
  split <;> exact h.of_eq rfl (Nat.le_refl _)

theorem Numbered.disableCollection (h : d.Numbered) (id : ObjectId) :
    (d.disableCollection id).2.Numbered := by
  unfold Debuggee.disableCollection
  dsimp only
  split
  · exact h.of_eq rfl (Nat.le_refl _)
  · split <;> exact h.of_eq rfl (Nat.le_refl _)

theorem Numbered.invokeToString (h : d.Numbered) (thread : ThreadId) (id : ObjectId) :
    (d.invokeToString thread id).2.Numbered := by
  unfold Debuggee.invokeToString
  dsimp only
  split <;> exact h.of_eq rfl (Nat.le_refl _)

end Debuggee

/-! ## The growth of a link -/

/-- The panic that an entry says a task ended with. -/
def Entry.panic? : Entry → Option Panic
  | .notice (.commandPanicked _ payload) => some payload
  | _ => none

/-- Whether a call looks for a class or a method. -/
def Call.isLookUp : Call → Bool
  | .findClass _ _ _ | .findMethod _ _ _ => true
  | _ => false

/-- Whether a call runs `toString`. -/
def Call.isDisplay : Call → Bool
  | .invokeToString _ _ => true
  | _ => false

/-- Whether a batch attempt with a helper makes a call: it looks up the type of the array, never a method,
and runs no method but the helper. -/
def Call.isAttempt (settings : DebuggerSettings) (helper : Helper) : Call → Prop
  | .findClass _ name _ => name = settings.arrayType
  | .findMethod _ _ _ | .invokeToString _ _ => False
  | .invokeStatic _ owner method _ => owner = helper.owner ∧ method = helper.method
  | _ => True

/-- An attempt never calls `toString`. -/
theorem Call.isDisplay_of_isAttempt {settings : DebuggerSettings} {helper : Helper} {call : Call}
    (h : call.isAttempt settings helper) : call.isDisplay = false := by
  cases call with
  | invokeToString thread id => exact h.elim
  | _ => rfl

/-- Whether an entry is an exchange of a kind, or a notice of anything but a panic. -/
def Entry.IsAside (kind : Call → Prop) : Entry → Prop
  | .exchange call _ => kind call
  | .notice content => (Entry.notice content).panic? = none
  | _ => False

/-- Whether a link came from another one by exchanges of a kind and by notices. -/
structure Link.Grows (kind : Call → Prop) (l l' : Link) : Prop where
  journal : ∃ more, l'.journal = l.journal ++ more ∧ ∀ entry ∈ more, entry.IsAside kind
  setup : l.debuggee.SameSetup l'.debuggee
  numbered : l.debuggee.Numbered → l'.debuggee.Numbered

namespace Link

variable {kind : Call → Prop} (link : Link)

theorem Grows.refl : link.Grows kind link := ⟨⟨[], by simp⟩, .refl _, id⟩

/-- Growth by calls of a kind goes on from where it stopped. -/
theorem Grows.trans {l l' l'' : Link} (h : l.Grows kind l') (h' : l'.Grows kind l'') :
    l.Grows kind l'' := by
  obtain ⟨more, hm, ha⟩ := h.journal
  obtain ⟨more', hm', ha'⟩ := h'.journal
  refine ⟨⟨more ++ more', by rw [hm', hm, List.append_assoc], ?_⟩, h.setup.trans h'.setup,
    h'.numbered ∘ h.numbered⟩
  intro entry he
  rcases List.mem_append.1 he with he | he
  · exact ha entry he
  · exact ha' entry he

/-- A notice that is no panic is no call. -/
theorem grows_note {notice : Logging.Notice} (h : (Entry.notice notice).panic? = none) :
    link.Grows kind (link.note notice) :=
  ⟨⟨[.notice notice], rfl, by simpa [Entry.IsAside] using h⟩, .refl _, id⟩

/-- A call of the kind is added with its outcome, if it keeps the setup and the ids apart. -/
theorem grows_exchanged {call : Call} (hkind : kind call) (outcome : Outcome) {d : Debuggee}
    (setup : link.debuggee.SameSetup d) (numbered : link.debuggee.Numbered → d.Numbered) :
    link.Grows kind (link.exchanged call outcome d) :=
  ⟨⟨[.exchange call outcome], rfl, by simpa [Entry.IsAside] using hkind⟩, setup, numbered⟩

theorem findClass_grows {thread : ThreadId} {name : String} {loader : Option ObjectId}
    (h : kind (.findClass thread name loader)) :
    link.Grows kind (link.findClass thread name loader).2 :=
  grows_exchanged _ h _ (Debuggee.findClass_sameSetup _ _ _ _) (·.findClass _ _ _)

theorem findMethod_grows {owner : ClassHandle} {name signature : String}
    (h : kind (.findMethod owner name signature)) :
    link.Grows kind (link.findMethod owner name signature).2 :=
  grows_exchanged _ h _ (Debuggee.findMethod_sameSetup _ _ _ _) (·.findMethod _ _ _)

theorem newArray_grows {elements : ClassHandle} {length : Nat} (h : kind (.newArray elements length)) :
    link.Grows kind (link.newArray elements length).2 :=
  grows_exchanged _ h _ (Debuggee.newArray_sameSetup _ _ _) (·.newArray _ _)

theorem setArrayValues_grows {array : ObjectId} {values : List Value}
    (h : kind (.setArrayValues array values)) :
    link.Grows kind (link.setArrayValues array values).2 :=
  grows_exchanged _ h _ (Debuggee.setArrayValues_sameSetup _ _ _) (·.setArrayValues _ _)

theorem invokeStatic_grows {thread : ThreadId} {owner : ClassHandle} {method : MethodId}
    {args : List Value} (h : kind (.invokeStatic thread owner method args)) :
    link.Grows kind (link.invokeStatic thread owner method args).2 :=
  grows_exchanged _ h _ (Debuggee.invokeStatic_sameSetup _ _ _ _ _) (·.invokeStatic _ _ _ _)

theorem stringValue_grows {id : ObjectId} (h : kind (.stringValue id)) :
    link.Grows kind (link.stringValue id).2 :=
  grows_exchanged _ h _ (Debuggee.stringValue_sameSetup _ _) (·.stringValue _)

theorem disableCollection_grows {id : ObjectId} (h : kind (.disableCollection id)) :
    link.Grows kind (link.disableCollection id).2 :=
  grows_exchanged _ h _ (Debuggee.disableCollection_sameSetup _ _) (·.disableCollection _)

theorem enableCollection_grows {id : ObjectId} (h : kind (.enableCollection id)) :
    link.Grows kind (link.enableCollection id).2 :=
  grows_exchanged _ h _ ⟨rfl, rfl, rfl, rfl, rfl⟩ (·.of_eq rfl (Nat.le_refl _))

theorem invokeToString_grows {thread : ThreadId} {id : ObjectId}
    (h : kind (.invokeToString thread id)) : link.Grows kind (link.invokeToString thread id).2 :=
  grows_exchanged _ h _ (Debuggee.invokeToString_sameSetup _ _ _) (·.invokeToString _ _)

/-- Whichever call is made, the link grows by it. -/
theorem perform_grows {call : Call} (h : kind call) : link.Grows kind (link.perform call).2 := by
  cases call with
  | findClass thread name loader => exact findClass_grows _ h
  | findMethod owner name signature => exact findMethod_grows _ h
  | newArray elements length => exact newArray_grows _ h
  | setArrayValues array values => exact setArrayValues_grows _ h
  | invokeStatic thread owner method args =>
    have hg := link.invokeStatic_grows h
    unfold perform
    dsimp only
    split <;> rename_i hr <;> rwa [hr] at hg
  | stringValue id => exact stringValue_grows _ h
  | disableCollection id => exact disableCollection_grows _ h
  | enableCollection id => exact enableCollection_grows _ h
  | invokeToString thread id => exact invokeToString_grows _ h

end Link

/-! ## Probing -/

namespace Probe

/-- Looking for the helper makes calls that look things up, and no others. -/
theorem lookUp_grows (settings : DebuggerSettings) (thread : ThreadId) (loader : Option ObjectId)
    (link : Link) : link.Grows (·.isLookUp) (lookUp settings thread loader link).2 := by
  have hc : link.Grows (·.isLookUp) (link.findClass thread settings.helperClass loader).2 :=
    link.findClass_grows rfl
  unfold lookUp
  rcases hf : link.findClass thread settings.helperClass loader with ⟨error | owner, l₁⟩
  · rw [hf] at hc
    exact hc.trans (l₁.grows_note rfl)
  · rw [hf] at hc
    have hm : l₁.Grows (·.isLookUp)
        (l₁.findMethod owner settings.helperMethod settings.helperSignature).2 :=
      l₁.findMethod_grows rfl
    dsimp only
    rcases hg : l₁.findMethod owner settings.helperMethod settings.helperSignature with
      ⟨error | method, l₂⟩
    · rw [hg] at hm
      exact (hc.trans hm).trans (l₂.grows_note rfl)
    · rw [hg] at hm
      cases method <;> exact hc.trans hm

/-- A probe makes no calls but look-ups. -/
theorem ask_grows (settings : DebuggerSettings) (context : Context) (probe : Probe) (link : Link) :
    link.Grows (·.isLookUp) (ask settings context probe link).2 := by
  unfold ask
  split
  · exact link.grows_note rfl
  · exact .refl link
  · exact (lookUp_grows _ _ _ link).trans (Link.grows_note _ rfl)
  · exact .refl link

end Probe

/-! ## Batch attempts -/

namespace Attempt

variable {α β : Type} {kind : Call → Prop}

/-- Whether an attempt only lets the link grow, by calls of a kind, however it ends. -/
def Grows (kind : Call → Prop) (a : Attempt α) : Prop :=
  ∀ link : Link, link.Grows kind (a.run.run.run link).2

/-- An attempt goes on only from a result: it ends with the first fault and with a panic. -/
theorem run_bind (a : Attempt α) (f : α → Attempt β) (link : Link) :
    (a >>= f).run.run.run link = match a.run.run.run link with
      | (.ok (.ok x), l) => (f x).run.run.run l
      | (.ok (.error fault), l) => (.ok (.error fault), l)
      | (.error payload, l) => (.error payload, l) := by
  rw [ExceptT.run_bind, ExceptT.run_bind, StateT.run_bind]
  rcases a.run.run.run link with ⟨_ | _ | _, _⟩ <;> rfl

/-- Attempts in a row make calls of a kind if each of them does. -/
theorem Grows.of_bind {a : Attempt α} {f : α → Attempt β} (ha : Grows kind a)
    (hf : ∀ x, Grows kind (f x)) : Grows kind (a >>= f) := by
  intro link
  have h := ha link
  rw [run_bind]
  rcases hr : a.run.run.run link with ⟨payload | fault | x, l⟩
  · rwa [hr] at h
  · rwa [hr] at h
  · rw [hr] at h
    exact h.trans (hf x l)

theorem Grows.of_throw (fault : BatchFault) : Grows kind (throw fault : Attempt α) :=
  fun link => .refl link

/-- A call whose error ends the attempt is one call of its kind. -/
theorem Grows.of_ask {call : Link → Except RemoteError α × Link} (fault : RemoteError → BatchFault)
    (h : ∀ link : Link, link.Grows kind (call link).2) : Grows kind (ask call fault) := by
  intro link
  have hc := h link
  show link.Grows _ (ask call fault link).2
  unfold ask
  rcases hr : call link with ⟨_ | _, l⟩ <;> rwa [hr] at hc

variable {settings : DebuggerSettings} {helper : Helper}

/-- The helper is asked with the values in the array, and this is a call of the attempt. -/
theorem invoke_grows (thread : ThreadId) (array : ObjectId) :
    Grows (·.isAttempt settings helper) (invoke helper thread array) := by
  intro link
  have hc : link.Grows (·.isAttempt settings helper) (link.invokeStatic thread helper.owner
    helper.method [.object Value.arrayTag array]).2 := link.invokeStatic_grows ⟨rfl, rfl⟩
  show link.Grows _ (invoke helper thread array link).2
  unfold invoke
  rcases hr : link.invokeStatic thread helper.owner helper.method [.object Value.arrayTag array] with
    ⟨_ | _ | _, l⟩ <;> rwa [hr] at hc

/-- Letting a reply be collected again is one call, also if it fails. -/
theorem release_grows {id : ObjectId} (releases : kind (.enableCollection id)) (link : Link) :
    link.Grows kind (release id link) := by
  have hc : link.Grows kind (link.enableCollection id).2 := link.enableCollection_grows releases
  unfold release
  rcases hr : link.enableCollection id with ⟨error | _, l⟩
  · rw [hr] at hc
    exact hc.trans (l.grows_note rfl)
  · rwa [hr] at hc

/-- Reading a reply makes the call that reads it and the one that lets it be collected again. -/
theorem readAndRelease_grows {id : ObjectId} (reads : kind (.stringValue id))
    (releases : kind (.enableCollection id)) (link : Link) :
    link.Grows kind (readAndRelease id link).2 := by
  have hr : link.Grows kind (link.stringValue id).2 := link.stringValue_grows reads
  exact hr.trans (release_grows releases _)

/-- Reading a reply takes three kinds of calls and no others. -/
theorem replyText_grows (pins : ∀ id, kind (.disableCollection id))
    (reads : ∀ id, kind (.stringValue id)) (releases : ∀ id, kind (.enableCollection id))
    (reply : Value) : Grows kind (replyText reply) := by
  unfold replyText
  cases stringId? reply with
  | none => exact .of_throw _
  | some id =>
    exact .of_bind (.of_ask _ fun link => link.disableCollection_grows (pins id)) fun _ =>
      .of_ask _ (readAndRelease_grows (reads id) (releases id))

variable (settings helper)

/-- A batch attempt only lets the link grow, by the calls of attempts. -/
theorem evaluate_grows (context : Context) (values : List Value) :
    Grows (·.isAttempt settings helper) (evaluate settings helper context values) := by
  unfold evaluate
  cases context.scope.thread with
  | none => exact .of_throw _
  | some thread =>
    refine .of_bind (.of_ask _ fun link => link.findClass_grows rfl) fun elements => ?_
    refine .of_bind (.of_ask _ fun link => link.newArray_grows trivial) fun array => ?_
    refine .of_bind (.of_ask _ fun link => link.setArrayValues_grows trivial) fun _ => ?_
    refine .of_bind (invoke_grows _ _) fun reply => ?_
    refine .of_bind (replyText_grows (fun _ => trivial) (fun _ => trivial) (fun _ => trivial) reply)
      fun text => ?_
    exact fun link => .refl link

end Attempt

/-- A value that is evaluated on its own makes a call of `toString` or none. -/
theorem individualText_grows (value : Value) (thread : Option ThreadId) (link : Link) :
    link.Grows (·.isDisplay) (Session.individualText value thread link).2 := by
  unfold Session.individualText
  split
  · exact .refl link
  · exact .refl link
  · exact .refl link
  · exact link.invokeToString_grows rfl

/-! ## The exchanges of a session -/

namespace Session

/-- The exchanges with the debuggee so far. -/
def exchanges (s : Session) : List (Call × Outcome) := s.link.journal.filterMap Entry.exchange?

theorem exchanges_note (s : Session) (notice : Logging.Notice) :
    (s.note notice).exchanges = s.exchanges := by
  simp [exchanges, note, withLink, Link.note, Link.record, Entry.exchange?]

/-- The exchanges by which a link grows are those of its kind. -/
theorem exchanges_withLink {kind : Call → Prop} {s : Session} {link : Link}
    (h : s.link.Grows kind link) : ∃ more, (s.withLink link).exchanges = s.exchanges ++ more ∧
      ∀ p ∈ more, kind p.1 := by
  obtain ⟨more, hmore, haside⟩ := h.journal
  refine ⟨more.filterMap Entry.exchange?, ?_, fun p hp => ?_⟩
  · show link.journal.filterMap Entry.exchange? = _
    rw [hmore, List.filterMap_append]
    rfl
  · obtain ⟨entry, he, hp⟩ := List.mem_filterMap.1 hp
    have ha := haside entry he
    cases entry with
    | exchange call outcome =>
      obtain rfl := Option.some.inj hp
      exact ha
    | _ => cases hp

end Session

end BatchStringify
