import Mathlib.Data.List.Basic
import BatchStringify.Proofs.Attempt
import BatchStringify.Proofs.Ledger.Delivery

/-!
# The helper behind a batch

What the helper replies depends on the elements of an array and on how often it was asked before. An
attempt hands it exactly the values of the batch, in their order (`Asked.elements_eq`), and the text
that is read in the end is the text of its reply (`Answered.replyText?_eq`). So a helper that is
faithful to these values makes a batch come to what its requests come to alone
(`answered_eq_alone`).
-/

namespace BatchStringify

/-- What an entry says about the outcome of `toString`. -/
def Reply.Entry.outcome (entry : Reply.Entry) : Except RemoteError String :=
  if entry.isError then .error (.invocationException entry.message) else .ok entry.message

/-- Whether a reply is a panic. -/
def HandlerReply.isPanic : HandlerReply → Bool
  | .panic _ => true
  | _ => false

namespace Debuggee

/-- The helper's reply if it is asked about these elements now. -/
def reply? (d : Debuggee) (elements : List Value) : Option HandlerReply :=
  d.handler.map fun handler => handler d.invocations elements

/-- The text of the helper's reply if it is asked about these elements now. -/
def replyText? (d : Debuggee) (elements : List Value) : Option String :=
  match d.reply? elements with
  | some (.text content) => some content
  | some (.value (.object tag id)) => if tag = Value.stringTag then d.strings.find? id else none
  | _ => none

/-- The helper does not panic over these elements, and if its reply decodes to one entry for each of
them, every entry tells what `toString` gives for the object at its place. -/
structure FaithfulTo (d : Debuggee) (elements : List Value) : Prop where
  returns : ∀ payload, d.reply? elements ≠ some (.panic payload)
  truthful : ∀ text entries, d.replyText? elements = some text →
    Reply.decode (Latin1.encode text) = .ok entries → entries.length = elements.length →
      ∀ p ∈ elements.zip entries, ∀ id, p.1.objectId? = some id →
        d.displays.find? id = some p.2.outcome

/-- For a given debuggee and given elements, faithfulness can be checked by computing the reply. -/
instance (d : Debuggee) (elements : List Value) : Decidable (d.FaithfulTo elements) :=
  decidable_of_iff
    ((∀ reply ∈ d.reply? elements, reply.isPanic = false) ∧
      ∀ text ∈ d.replyText? elements,
        ∀ entries ∈ (Reply.decode (Latin1.encode text)).toOption,
          entries.length = elements.length → ∀ p ∈ elements.zip entries, ∀ id ∈ p.1.objectId?,
            d.displays.find? id = some p.2.outcome) <| by
    constructor
    · rintro ⟨hreturns, htruthful⟩
      refine ⟨fun payload hp => ?_, fun text entries htext hdecode => ?_⟩
      · cases hreturns _ hp
      · exact htruthful text htext entries (by rw [hdecode]; rfl)
    · rintro ⟨hreturns, htruthful⟩
      refine ⟨fun reply hr => ?_, fun text htext entries hentries => ?_⟩
      · cases reply with
        | panic payload => exact absurd hr (hreturns payload)
        | _ => rfl
      · refine htruthful text entries htext ?_
        cases hd : Reply.decode (Latin1.encode text) with
        | error fault =>
          rw [hd] at hentries
          cases hentries
        | ok found =>
          rw [hd] at hentries
          exact congrArg Except.ok (Option.some.inj hentries)

/-- Whether the helper replies in two states alike, and the same strings can be read. -/
structure SameReplies (d d' : Debuggee) : Prop where
  handler : d'.handler = d.handler
  invocations : d'.invocations = d.invocations
  strings : d'.strings = d.strings
  displays : d'.displays = d.displays

theorem SameReplies.trans {d d' d'' : Debuggee} (h : d.SameReplies d') (h' : d'.SameReplies d'') :
    d.SameReplies d'' :=
  ⟨h'.handler.trans h.handler, h'.invocations.trans h.invocations, h'.strings.trans h.strings,
    h'.displays.trans h.displays⟩

variable {d d' : Debuggee}

theorem findClass_sameReplies (d : Debuggee) (thread : ThreadId) (name : String)
    (loader : Option ObjectId) : d.SameReplies (d.findClass thread name loader).2 := by
  unfold findClass
  dsimp only
  split <;> exact ⟨rfl, rfl, rfl, rfl⟩

/-- A new array holds nulls. -/
theorem newArray_ok {elements : ClassHandle} {length : Nat} {array : ObjectId}
    (h : d.newArray elements length = (.ok array, d')) :
    d.SameReplies d' ∧ d'.arrays.find? array = some (List.replicate length .null) := by
  unfold newArray at h
  dsimp only at h
  split at h
  · cases h
  · obtain ⟨harray, rfl⟩ := Prod.mk.inj h
    obtain rfl := Except.ok.inj harray
    exact ⟨⟨rfl, rfl, rfl, rfl⟩, Table.find?_put_self _ _ _⟩

/-- Values that fill an array are its elements. -/
theorem setArrayValues_ok {array : ObjectId} {values : List Value}
    (h : d.setArrayValues array values = (.ok (), d'))
    (hnew : d.arrays.find? array = some (List.replicate values.length .null)) :
    d.SameReplies d' ∧ d'.arrays.find? array = some values := by
  unfold setArrayValues at h
  dsimp only at h
  split at h
  · cases h
  · rw [show (d.noted (.setArrayValues array values)).arrays = d.arrays from rfl, hnew] at h
    dsimp only at h
    split at h
    · cases h
    · split at h
      · cases h
      · obtain ⟨-, rfl⟩ := Prod.mk.inj h
        refine ⟨⟨rfl, rfl, rfl, rfl⟩, ?_⟩
        rw [Table.find?_put_self]
        simp

/-- A static call with one array fails, or it comes to what the helper replies to the elements. -/
theorem invokeStatic_settles (thread : ThreadId) (owner : ClassHandle) (method : MethodId)
    {array : ObjectId} {elements : List Value} (harray : d.arrays.find? array = some elements) :
    (∃ error, (d.invokeStatic thread owner method [.object Value.arrayTag array]).1 =
      .ok (.error error)) ∨
    ∃ reply, d.reply? elements = some reply ∧ ∃ asked : Debuggee, asked.strings = d.strings ∧
      d.invokeStatic thread owner method [.object Value.arrayTag array] = asked.settle reply := by
  have harg : arrayArgument? [.object Value.arrayTag array] = some array := by
    simp [arrayArgument?]
  unfold invokeStatic
  dsimp only
  split
  · exact .inl ⟨_, rfl⟩
  · rw [harg]
    dsimp only [noted]
    rw [harray]
    cases hh : d.handler with
    | none => exact .inl ⟨_, rfl⟩
    | some handler =>
      refine .inr ⟨handler d.invocations elements, ?_, _, ?_, rfl⟩
      · rw [reply?, hh]
        rfl
      · rfl

/-- An object that was pinned had not been collected, and the strings stay. -/
theorem disableCollection_ok {id : ObjectId} (h : d.disableCollection id = (.ok (), d')) :
    d.collected.contains id = false ∧ d'.strings = d.strings := by
  unfold disableCollection at h
  dsimp only at h
  split at h
  · cases h
  · split at h
    · cases h
    · rename_i hc
      obtain ⟨-, rfl⟩ := Prod.mk.inj h
      exact ⟨by simpa [noted] using hc, rfl⟩

/-- A string that was read is known. -/
theorem stringValue_ok {id : ObjectId} {text : String} (h : d.stringValue id = (.ok text, d')) :
    d.strings.find? id = some text := by
  unfold stringValue at h
  dsimp only at h
  split at h
  · cases h
  · rename_i hs
    obtain ⟨htext, -⟩ := Prod.mk.inj h
    obtain rfl := Except.ok.inj htext
    exact hs
  · cases h

/-- The text that is read from the string that the helper returned is that of its reply. -/
theorem replyText?_of_read {elements : List Value} {reply : HandlerReply}
    {asked settled pinned : Debuggee} {id : ObjectId} {text : String}
    (hreply : d.reply? elements = some reply) (hstrings : asked.strings = d.strings)
    (hsettle : asked.settle reply = (.ok (.ok (.object Value.stringTag id)), settled))
    (hpin : settled.disableCollection id = (.ok (), pinned))
    (hread : (pinned.stringValue id).1 = .ok text) : d.replyText? elements = some text := by
  obtain ⟨hcollected, hpinned⟩ := disableCollection_ok hpin
  have hread' : pinned.stringValue id = (.ok text, (pinned.stringValue id).2) := by rw [← hread]
  have hfind := stringValue_ok hread'
  rw [hpinned] at hfind
  rw [replyText?, hreply]
  cases reply with
  | text content =>
    obtain ⟨hid, rfl⟩ := Prod.mk.inj hsettle
    obtain ⟨-, rfl⟩ := Value.object.inj (Except.ok.inj (Except.ok.inj hid))
    rw [← hfind]
    exact (Table.find?_put_self _ _ _).symm
  | value v =>
    -- a string that the debuggee had before
    obtain ⟨hv, rfl⟩ := Prod.mk.inj hsettle
    obtain rfl := Except.ok.inj (Except.ok.inj hv)
    rw [← hfind, hstrings]
    rfl
  | collected =>
    -- a string that is gone already cannot be pinned
    obtain ⟨hid, rfl⟩ := Prod.mk.inj hsettle
    obtain ⟨-, rfl⟩ := Value.object.inj (Except.ok.inj (Except.ok.inj hid))
    simp at hcollected
  | fault error => cases (Prod.mk.inj hsettle).1
  | panic payload => cases (Prod.mk.inj hsettle).1

end Debuggee

namespace Attempt

variable {settings : DebuggerSettings} {helper : Helper} {context : Context} {values : List Value}
  {link l stored : Link} {thread : ThreadId} {array : ObjectId}

/-- When the helper is asked, the array holds the values of the batch, and nothing that decides its
reply has changed. -/
theorem Asked.sameReplies (h : Asked settings context values link thread array stored) :
    link.debuggee.SameReplies stored.debuggee ∧
      stored.debuggee.arrays.find? array = some values := by
  obtain ⟨elements, found, created, hf, hn, hs⟩ := h.calls
  have hfound := link.debuggee.findClass_sameReplies thread settings.arrayType context.loader
  rw [hf] at hfound
  obtain ⟨hcreated, hnew⟩ := Debuggee.newArray_ok hn
  obtain ⟨hstored, harray⟩ := Debuggee.setArrayValues_ok hs hnew
  exact ⟨(hfound.trans hcreated).trans hstored, harray⟩

/-- The calls in front of the helper do not change what it replies. -/
theorem Asked.reply?_eq (h : Asked settings context values link thread array stored) :
    stored.debuggee.reply? values = link.debuggee.reply? values := by
  obtain ⟨hsame, -⟩ := h.sameReplies
  rw [Debuggee.reply?, Debuggee.reply?, hsame.handler, hsame.invocations]

/-- An attempt panics only with the panic of the helper over the values. -/
theorem reply?_of_panic {payload : Panic}
    (h : (evaluate settings helper context values).run.run.run link = (.error payload, l)) :
    link.debuggee.reply? values = some (.panic payload) := by
  obtain ⟨thread, array, stored, hasked, hpanic⟩ := evaluate_eq_panic h
  obtain ⟨-, harray⟩ := hasked.sameReplies
  replace hpanic : (stored.debuggee.invokeStatic thread helper.owner helper.method
    [.object Value.arrayTag array]).1 = .error payload := congrArg Prod.fst hpanic
  rcases Debuggee.invokeStatic_settles thread helper.owner helper.method harray with
    ⟨error, he⟩ | ⟨reply, hreply, asked, -, hsettle⟩
  · rw [he] at hpanic
    cases hpanic
  · rw [hsettle] at hpanic
    rw [hasked.reply?_eq] at hreply
    cases reply with
    | panic payload' =>
      obtain rfl := Except.error.inj hpanic
      exact hreply
    | _ => cases hpanic

/-- An attempt ends with entries or a fault unless the helper is asked and panics over the values. -/
theorem evaluate_returns (helper : Helper) (h : IsAsked settings context values link →
      ∀ payload, link.debuggee.reply? values ≠ some (.panic payload)) :
    ∃ result l, (evaluate settings helper context values).run.run.run link = (.ok result, l) := by
  rcases hr : (evaluate settings helper context values).run.run.run link with ⟨payload | result, l⟩
  · obtain ⟨thread, array, stored, hasked, -⟩ := evaluate_eq_panic hr
    exact absurd (reply?_of_panic hr) (h ⟨thread, array, stored, hasked⟩ payload)
  · exact ⟨result, l, rfl⟩

/-- An attempt that is answered came to ask the helper. -/
theorem Answered.isAsked {entries : List Reply.Entry}
    (h : Answered settings helper context values link entries l) :
    IsAsked settings context values link := by
  obtain ⟨hasked, -⟩ := h
  exact ⟨_, _, _, hasked⟩

/-- The text that an attempt reads is that of the helper's reply to the values. -/
theorem Answered.replyText?_eq {entries : List Reply.Entry}
    (h : Answered settings helper context values link entries l) :
    context.scope.thread.isSome ∧ ∃ text, link.debuggee.replyText? values = some text ∧
      Reply.decode (Latin1.encode text) = .ok entries := by
  obtain ⟨hasked, hi, hd, hv, hdecode, -⟩ := h
  rename_i thread array id text stored returned pinned read
  obtain ⟨hsame, harray⟩ := hasked.sameReplies
  have hthread : context.scope.thread.isSome := by
    obtain ⟨ht, -⟩ := hasked
    rw [ht]
    rfl
  refine ⟨hthread, text, ?_, hdecode⟩
  have hinvoke : stored.debuggee.invokeStatic thread helper.owner helper.method
      [.object Value.arrayTag array] =
        (.ok (.ok (.object Value.stringTag id)), returned.debuggee) :=
    congrArg (fun r : Except Panic (Except RemoteError Value) × Link => (r.1, r.2.debuggee)) hi
  rcases Debuggee.invokeStatic_settles thread helper.owner helper.method harray with
    ⟨error, he⟩ | ⟨reply, hreply, asked, hstrings, hsettle⟩
  · rw [hinvoke] at he
    cases he
  · rw [hsettle] at hinvoke
    have htext := Debuggee.replyText?_of_read hreply hstrings hinvoke
      (congrArg (fun r : Except RemoteError Unit × Link => (r.1, r.2.debuggee)) hd)
      (congrArg (fun r : Except RemoteError String × Link => r.1) hv)
    rw [Debuggee.replyText?, hasked.reply?_eq, hsame.strings] at htext
    exact htext

end Attempt

/-! ## Faithful helpers -/

theorem Completion.ofEntry_eq (entry : Reply.Entry) :
    Completion.ofEntry entry = .ofOutcome entry.outcome := by
  unfold ofEntry Reply.Entry.outcome
  cases entry.isError <;> rfl

/-- An object whose `toString` gives what an entry says is completed by the entry as it is alone. -/
theorem Request.answered_eq_alone {displays : Table ObjectId (Except RemoteError String)}
    {request : Request} {entry : Reply.Entry} {id : ObjectId}
    (hid : request.value.objectId? = some id) (hthread : request.context.scope.thread.isSome)
    (hentry : displays.find? id = some entry.outcome) :
    request.answered entry = request.alone displays := by
  unfold answered alone Value.outcomeAlone
  obtain ⟨thread, ht⟩ := Option.isSome_iff_exists.1 hthread
  rw [hid, ht]
  dsimp only
  rw [hentry, Completion.ofEntry_eq]
  rfl

/-- A batch of objects of one scope that a faithful helper answers comes to what its requests come to
alone. -/
theorem answered_eq_alone {settings : DebuggerSettings} {helper : Helper} {context : Context}
    {requests : List Request} {link l : Link} {entries : List Reply.Entry}
    (answered : Attempt.Answered settings helper context (requests.map (·.value)) link entries l)
    (faithful : link.debuggee.FaithfulTo (requests.map (·.value)))
    (objects : ∀ request ∈ requests,
      request.context.scope = context.scope ∧ request.value.objectId?.isSome) :
    List.zipWith Request.answered requests entries =
      requests.map (Request.alone link.debuggee.displays) := by
  obtain ⟨hthread, text, htext, hdecode⟩ := answered.replyText?_eq
  have hlen := answered.length_eq
  have htrue := faithful.truthful text entries htext hdecode hlen
  rw [List.length_map] at hlen
  refine List.ext_getElem ?_ fun i hi hi' => ?_
  · rw [List.length_zipWith, List.length_map, hlen, Nat.min_self]
  · rw [List.length_map] at hi'
    rw [List.getElem_zipWith, List.getElem_map]
    obtain ⟨hscope, hobject⟩ := objects requests[i] (List.getElem_mem hi')
    obtain ⟨id, hid⟩ := Option.isSome_iff_exists.1 hobject
    refine Request.answered_eq_alone hid (hscope ▸ hthread) ?_
    refine htrue (requests[i].value, entries[i]) ?_ id hid
    refine List.mem_iff_getElem.2 ⟨i, ?_, ?_⟩
    · rw [List.length_zip, List.length_map, hlen, Nat.min_self]
      exact hi'
    · rw [List.getElem_zip, List.getElem_map]

end BatchStringify
