import BatchStringify.Proofs.Answering
import BatchStringify.Proofs.Calm.Turns
import BatchStringify.Proofs.Probing
import BatchStringify.Proofs.RoundTrip

/-!
# Helpers that answer element by element

A helper that writes an entry for each element, which depends on nothing but the element, makes what is
due to a request depend on nothing but the request (`Session.due`). An attempt with such a helper is
either answered with the entries of its values or not answered at all, and which of the two is settled
before the first batch (`Elementwise.exists_answered_iff`).
-/

namespace BatchStringify

namespace Debuggee

variable {d d' : Debuggee} {entry : Value → Reply.Entry}

/-- Whether the batch helper, if there is one, answers each element by itself. -/
def Elementwise (d : Debuggee) (entry : Value → Reply.Entry) : Prop :=
  ∀ handler, d.handler = some handler → ∀ n elements,
    handler n elements = CannedReply.carry (elements.map entry)

/-- Whether what the batch helper replies comes through. -/
def serves (d : Debuggee) (settings : DebuggerSettings) : Bool :=
  d.handler.isSome && (d.canAsk settings && d.canRead)

theorem SameSetup.serves (h : d.SameSetup d') (settings : DebuggerSettings) :
    d'.serves settings = d.serves settings := by
  rw [Debuggee.serves, Debuggee.serves, h.handler, h.canAsk, h.canRead]

theorem SameSetup.elementwise (h : d.SameSetup d') (elementwise : d.Elementwise entry) :
    d'.Elementwise entry :=
  fun handler hh => elementwise handler (h.handler ▸ hh)

theorem Elementwise.reply?_eq (h : d.Elementwise entry) (elements : List Value) :
    d.reply? elements = if d.handler.isSome then
      some (.text (Latin1.decode (Reply.encode (elements.map entry)))) else none := by
  unfold reply?
  cases hh : d.handler with
  | none => rfl
  | some handler => exact congrArg some (h handler hh _ elements)

end Debuggee

namespace Attempt

variable {settings : DebuggerSettings} {helper : Helper} {context : Context} {values : List Value}
  {link : Link} {entries : List Reply.Entry} {entry : Value → Reply.Entry}

/-- An attempt on objects is answered exactly if there is a thread and the helper's replies come through,
and then with the entries of the values as the trip through bytes leaves them. -/
theorem exists_answered_iff_of_elementwise (elementwise : link.debuggee.Elementwise entry)
    (numbered : link.debuggee.Numbered) (objects : ∀ v ∈ values, v.objectId?.isSome) :
    (∃ l, Answered settings helper context values link entries l) ↔
      (context.scope.thread.isSome ∧ link.debuggee.serves settings = true) ∧
        entries = values.map fun v => (entry v).received := by
  have hreply := elementwise.reply?_eq values
  have hdecode : Reply.decode (Latin1.encode (Latin1.decode (Reply.encode (values.map entry)))) =
      .ok (values.map fun v => (entry v).received) := by
    rw [Latin1.encode_decode, Reply.decode_encode, List.map_map]
    rfl
  rw [exists_answered_iff objects numbered fun v hv => by
    rw [hreply] at hv
    split at hv <;> cases hv]
  simp only [Debuggee.serves, Bool.and_eq_true]
  constructor
  · rintro ⟨⟨ht, hask⟩, hread, text, htext, hentries, -⟩
    rw [hreply] at htext
    split at htext
    · rename_i hhandler
      obtain rfl := HandlerReply.text.inj (Option.some.inj htext)
      rw [hdecode] at hentries
      exact ⟨⟨ht, hhandler, hask, hread⟩, (Except.ok.inj hentries).symm⟩
    · cases htext
  · rintro ⟨⟨ht, hhandler, hask, hread⟩, rfl⟩
    rw [if_pos hhandler] at hreply
    exact ⟨⟨ht, hask⟩, hread, _, hreply, hdecode, List.length_map _⟩

end Attempt

namespace Session

/-! ## What is due to a request -/

variable (o : Session) (entry : Value → Reply.Entry)

/-- What the probe of a session comes to know once it is asked. -/
def found : Probe :=
  match o.connection with
  | .localProcess => .ofHelper (o.link.debuggee.helper? o.settings)
  | .remote => .unavailable

/-- Whether a session gathers objects into batches once it knows its helper. -/
def gathers : Bool := o.settings.batchEvaluation && o.found.allows

/-- What is due to a request: the helper's entry for its value if the session asks the helper about it
and the answer comes through, else what the request comes to alone. -/
def due (request : Request) : Request × Completion :=
  if (request.value.objectId?.isSome ∧ request.context.scope.thread.isSome) ∧ o.gathers = true ∧
      o.link.debuggee.serves o.settings = true then
    request.answered (entry request.value).received
  else request.alone o.link.debuggee.displays

end Session

end BatchStringify
