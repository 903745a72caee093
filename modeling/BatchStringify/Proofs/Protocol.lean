import BatchStringify.Proofs.Exchanges

/-!
# The protocol of an attempt

A batch attempt talks to the debuggee in stages. At each stage one call is next, and its outcome decides what the
next stage is (`Stage.next`): the type of the array is found, the array is created and filled, the helper is asked,
and a string that it returns is pinned, read and let go. A call that fails ends the talk, except that a string
that could not be read is still let go. `Leads` goes from stage to stage, and an attempt goes from the first
stage to the last one, however it ends (`evaluate_talks`). With the text that was read, the last stage tells
whether the attempt comes back with entries.
-/

namespace BatchStringify

/-- The exchanges that the journal of a link tells of. -/
def Link.exchanges (link : Link) : List (Call × Outcome) := link.journal.filterMap Entry.exchange?

namespace Link

@[simp] theorem exchanges_exchanged (link : Link) (call : Call) (outcome : Outcome)
    (debuggee : Debuggee) :
    (link.exchanged call outcome debuggee).exchanges = link.exchanges ++ [(call, outcome)] := by
  simp [exchanges, exchanged, record, Entry.exchange?]

@[simp] theorem exchanges_note (link : Link) (notice : Logging.Notice) :
    (link.note notice).exchanges = link.exchanges := by
  simp [exchanges, note, record, Entry.exchange?]

end Link

namespace Attempt

/-- How far the talk of an attempt with the debuggee has come, with what is needed to go on. -/
inductive Stage where
  /-- Nothing was called yet. -/
  | begun
  /-- The type of the array was found. -/
  | typed (elements : ClassHandle)
  | created (array : ObjectId)
  /-- The array holds the values. -/
  | filled (array : ObjectId)
  /-- The helper returned a string. -/
  | replied (id : ObjectId)
  | pinned (id : ObjectId)
  /-- The string was read, or could not be read. -/
  | read (id : ObjectId) (text : Option String)
  /-- There is nothing more to call. -/
  | over (text : Option String)

/-- What an attempt talks about. -/
structure Subject where
  settings : DebuggerSettings
  helper : Helper
  thread : ThreadId
  loader : Option ObjectId
  values : List Value

namespace Stage

/-- The call that is next. -/
def call? (subject : Subject) : Stage → Option Call
  | .begun => some (.findClass subject.thread subject.settings.arrayType subject.loader)
  | .typed elements => some (.newArray elements subject.values.length)
  | .created array => some (.setArrayValues array subject.values)
  | .filled array => some (.invokeStatic subject.thread subject.helper.owner subject.helper.method
      [.object Value.arrayTag array])
  | .replied id => some (.disableCollection id)
  | .pinned id => some (.stringValue id)
  | .read id _ => some (.enableCollection id)
  | .over _ => none

/-- The stage after the next call, by its outcome. -/
def next : Stage → Outcome → Stage
  | .begun, .owner elements => .typed elements
  | .typed _, .id array => .created array
  | .created array, .done => .filled array
  | .filled _, .value reply => (stringId? reply).elim (.over none) .replied
  | .replied id, .done => .pinned id
  | .pinned id, .text text => .read id (some text)
  | .pinned id, _ => .read id none
  | .read _ text, _ => .over text
  | _, _ => .over none

end Stage

/-- Whether a talk goes from one stage to another by these exchanges. -/
inductive Leads (subject : Subject) : Stage → List (Call × Outcome) → Stage → Prop where
  | refl (stage : Stage) : Leads subject stage [] stage
  | call {stage last : Stage} {call : Call} (outcome : Outcome) {later : List (Call × Outcome)}
      (next : stage.call? subject = some call)
      (leads : Leads subject (stage.next outcome) later last) :
      Leads subject stage ((call, outcome) :: later) last

variable {subject : Subject} {stage middle last : Stage} {α β : Type}

/-- An exchange leads on if its call is the next one. -/
theorem Leads.single {call : Call} (outcome : Outcome) (next : stage.call? subject = some call) :
    Leads subject stage [(call, outcome)] (stage.next outcome) := .call outcome next (.refl _)

/-- What leads to a stage and on from it leads all the way. -/
theorem Leads.trans {first second : List (Call × Outcome)} (h : Leads subject stage first middle)
    (h' : Leads subject middle second last) : Leads subject stage (first ++ second) last := by
  induction h with
  | refl stage => exact h'
  | call outcome next _ ih => exact .call outcome next (ih h')

/-- What work of an attempt returns, if it ends neither with a fault nor with a panic. -/
def returned? : Except Panic (Except BatchFault α) → Option α
  | .ok (.ok x) => some x
  | _ => none

/-- Whether what was done since some link, from a stage on, was said as the protocol says, and ended at a stage that
fits what was returned, if something was returned. -/
def Talked (subject : Subject) (stage : Stage) (link : Link)
    (run : Except Panic (Except BatchFault α) × Link) (fits : Option α → Stage → Prop) : Prop :=
  ∃ more last, run.2.exchanges = link.exchanges ++ more ∧ Leads subject stage more last ∧
    fits (returned? run.1) last

/-- Whether work of an attempt talks as the protocol says, from a stage on. -/
def Talks (subject : Subject) (stage : Stage) (a : Attempt α) (fits : Option α → Stage → Prop) :
    Prop :=
  ∀ link, Talked subject stage link (a.run.run.run link) fits

/-- An attempt keeps to the protocol if its first part does and the rest does from where that ends. -/
theorem Talks.of_bind {a : Attempt α} {f : α → Attempt β} {mid : Option α → Stage → Prop}
    {fits : Option β → Stage → Prop} (ha : Talks subject stage a mid)
    (hf : ∀ x middle, mid (some x) middle → Talks subject middle (f x) fits)
    (stopped : ∀ last, mid none last → fits none last) : Talks subject stage (a >>= f) fits := by
  intro link
  obtain ⟨more, middle, hmore, hleads, hmid⟩ := ha link
  rw [run_bind]
  rcases hr : a.run.run.run link with ⟨payload | fault | x, l⟩ <;> rw [hr] at hmore hmid
  · exact ⟨more, middle, hmore, hleads, stopped _ hmid⟩
  · exact ⟨more, middle, hmore, hleads, stopped _ hmid⟩
  · obtain ⟨more', last, hmore', hleads', hfits⟩ := hf x middle hmid l
    refine ⟨more ++ more', last, ?_, hleads.trans hleads', hfits⟩
    rw [hmore', hmore, List.append_assoc]

/-- The stage after work that returns something or does not. -/
def follows (after : α → Stage) (returned : Option α) (last : Stage) : Prop :=
  last = returned.elim (.over none) after

/-- Work after a call goes on at the stage that the call led to. -/
theorem Talks.of_follows {a : Attempt α} {f : α → Attempt β} {after : α → Stage}
    {fits : Option β → Stage → Prop} (ha : Talks subject stage a (follows after))
    (hf : ∀ x, Talks subject (after x) (f x) fits) (stopped : fits none (.over none)) :
    Talks subject stage (a >>= f) fits := by
  refine ha.of_bind (fun x middle h => ?_) fun last h => ?_
  · obtain rfl : middle = after x := h
    exact hf x
  · obtain rfl : last = .over none := h
    exact stopped

/-! ## The pieces of an attempt -/

/-- One call is made, and what it returns decides the next stage. -/
theorem Talks.of_ask {call : Link → Except RemoteError α × Link} {asked : Call}
    {after : α → Stage} (fault : RemoteError → BatchFault) (outcome : α → Outcome)
    (made : ∀ link, (call link).2.exchanges =
      link.exchanges ++ [(asked, .of outcome (call link).1)])
    (next : stage.call? subject = some asked) (goes : ∀ x, stage.next (outcome x) = after x)
    (fails : ∀ error, stage.next (.error error) = .over none) :
    Talks subject stage (ask call fault) (follows after) := by
  intro link
  have hmade := made link
  show Talked subject stage link (ask call fault link) (follows after)
  unfold ask
  rcases hr : call link with ⟨error | x, l⟩ <;> rw [hr] at hmade
  · exact ⟨_, _, hmade, .single _ next, fails error⟩
  · exact ⟨_, _, hmade, .single _ next, goes x⟩

/-- The helper is asked. A panic of it ends the talk. -/
theorem invoke_talks (array : ObjectId) :
    Talks subject (.filled array) (invoke subject.helper subject.thread array) fun reply last =>
      last = (reply.bind stringId?).elim (.over none) .replied := by
  intro link
  have hmade : (link.invokeStatic subject.thread subject.helper.owner subject.helper.method
      [.object Value.arrayTag array]).2.exchanges = link.exchanges ++
        [(.invokeStatic subject.thread subject.helper.owner subject.helper.method
          [.object Value.arrayTag array], .ofPanicking (link.invokeStatic subject.thread
            subject.helper.owner subject.helper.method [.object Value.arrayTag array]).1)] :=
    link.exchanges_exchanged _ _ _
  show Talked subject (.filled array) link (invoke subject.helper subject.thread array link) _
  unfold invoke
  rcases hr : link.invokeStatic subject.thread subject.helper.owner subject.helper.method
    [.object Value.arrayTag array] with ⟨payload | error | reply, l⟩ <;> rw [hr] at hmade <;>
    exact ⟨_, _, hmade, .single _ rfl, rfl⟩

/-- Letting an object go is one call, whatever comes of it. -/
theorem exchanges_release (id : ObjectId) (link : Link) :
    ∃ outcome, (release id link).exchanges =
      link.exchanges ++ [(.enableCollection id, outcome)] := by
  have hmade : (link.enableCollection id).2.exchanges = link.exchanges ++
      [(.enableCollection id, .of (fun _ => .done) (link.enableCollection id).1)] :=
    link.exchanges_exchanged _ _ _
  unfold release
  rcases hr : link.enableCollection id with ⟨error | _, l⟩ <;> rw [hr] at hmade
  · exact ⟨_, (l.exchanges_note _).trans hmade⟩
  · exact ⟨_, hmade⟩

/-- A string is read and then let go, also if it could not be read. -/
theorem readAndRelease_talks (id : ObjectId) :
    Talks subject (.pinned id) (ask (readAndRelease id)) fun text last => last = .over text := by
  intro link
  have hread : (link.stringValue id).2.exchanges =
      link.exchanges ++ [(.stringValue id, .of .text (link.stringValue id).1)] :=
    link.exchanges_exchanged _ _ _
  obtain ⟨outcome, hreleased⟩ := exchanges_release id (link.stringValue id).2
  rw [hread, List.append_assoc] at hreleased
  show Talked subject (.pinned id) link (ask (readAndRelease id) .remote link) _
  unfold ask readAndRelease
  rcases hr : link.stringValue id with ⟨error | text, l⟩ <;> rw [hr] at hreleased
  · exact ⟨_, _, hreleased, .call _ rfl (.single outcome rfl), rfl⟩
  · exact ⟨_, _, hreleased, .call _ rfl (.single outcome rfl), rfl⟩

/-- Reading a reply keeps to the protocol: it is pinned, read and let go, if it is a string. -/
theorem replyText_talks {reply : Value} :
    Talks subject ((stringId? reply).elim (.over none) .replied) (replyText reply) fun text last =>
      last = .over text := by
  unfold replyText
  cases stringId? reply with
  | none => exact fun link => ⟨[], _, (List.append_nil _).symm, .refl _, rfl⟩
  | some id =>
    have hpin : Talks subject (.replied id) (ask (·.disableCollection id))
        (follows fun _ => .pinned id) :=
      .of_ask _ (fun _ => .done) (fun link => link.exchanges_exchanged _ _ _) rfl
        (fun _ => rfl) fun _ => rfl
    exact hpin.of_follows (fun _ => readAndRelease_talks id) rfl

/-! ## Attempts -/

/-- An attempt from a thread goes through the stages from the first to the last one, and with the text that was read
the last one tells whether it comes back with entries. -/
theorem evaluate_talks (subject : Subject) {context : Context}
    (thread_eq : context.scope.thread = some subject.thread)
    (loader_eq : context.loader = subject.loader) :
    Talks subject .begun (evaluate subject.settings subject.helper context subject.values)
      fun entries last => ∃ text : Option String, last = .over text ∧
        entries = text.bind fun text => (entriesOf subject.values.length text).toOption := by
  have hfind : Talks subject .begun (ask (·.findClass subject.thread subject.settings.arrayType
      context.loader) .arrayTypeUnavailable) (follows .typed) :=
    .of_ask _ .owner (fun link => link.exchanges_exchanged _ _ _) (by rw [loader_eq]; rfl)
      (fun _ => rfl) fun _ => rfl
  have hcreate : ∀ elements, Talks subject (.typed elements)
      (ask (·.newArray elements subject.values.length)) (follows .created) := fun elements =>
    .of_ask _ .id (fun link => link.exchanges_exchanged _ _ _) rfl (fun _ => rfl) fun _ => rfl
  have hfill : ∀ array, Talks subject (.created array) (ask (·.setArrayValues array subject.values))
      (follows fun _ => .filled array) := fun array =>
    .of_ask _ (fun _ => .done) (fun link => link.exchanges_exchanged _ _ _) rfl
      (fun _ => rfl) fun _ => rfl
  have hstopped : ∃ text : Option String, Stage.over none = .over text ∧
      (none : Option (List Reply.Entry)) = text.bind fun text =>
        (entriesOf subject.values.length text).toOption := ⟨none, rfl, rfl⟩
  unfold evaluate
  rw [thread_eq]
  refine hfind.of_follows (fun elements => ?_) hstopped
  refine (hcreate elements).of_follows (fun array => ?_) hstopped
  refine (hfill array).of_follows (fun _ => ?_) hstopped
  refine (invoke_talks array).of_bind (fun reply middle h => ?_) fun last h => ⟨none, h, rfl⟩
  obtain rfl : middle = (stringId? reply).elim (.over none) .replied := h
  refine replyText_talks.of_bind (fun text middle h => ?_) fun last h => ⟨none, h, rfl⟩
  obtain rfl : middle = .over (some text) := h
  intro link
  refine ⟨[], _, (List.append_nil _).symm, .refl _, some text, rfl, ?_⟩
  show returned? (.ok (entriesOf subject.values.length text)) = Option.bind (some text) _
  rw [Option.bind_some]
  cases entriesOf subject.values.length text <;> rfl

end Attempt

end BatchStringify
