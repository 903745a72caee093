import BatchStringify.Proofs.Answering
import BatchStringify.Proofs.CutReplies
import BatchStringify.Proofs.FlushCalls
import BatchStringify.Proofs.Numbers
import BatchStringify.Proofs.RoundTrip

/-!
# From the values of a batch to its texts

The values of a batch go through an array to the helper, and what the helper says about them comes back in a
string. The pieces of this way are put together here: the helper is asked once, about exactly the values of the
batch in their order, and each request gets what the entry at its place says, as far as bytes can tell it. If the
entries are too few or too many, no request gets one of them (`delivers_end_to_end`). The string is the one that was
made for this batch, whatever batches before it left in the debuggee.
-/

namespace BatchStringify

namespace Attempt

variable {settings : DebuggerSettings} {helper : Helper} {context : Context} {values : List Value}
  {link l stored : Link} {thread : ThreadId} {array id : ObjectId} {text : String}

/-- The exchanges of an attempt whose calls all succeed, with what is left open: the class of the elements, and what
comes of letting the string go. -/
def talk (settings : DebuggerSettings) (helper : Helper) (context : Context) (values : List Value)
    (thread : ThreadId) (array id : ObjectId) (text : String) (elements : ClassHandle)
    (released : Outcome) : List (Call × Outcome) :=
  [(.findClass thread settings.arrayType context.loader, .owner elements),
    (.newArray elements values.length, .id array),
    (.setArrayValues array values, .done),
    (.invokeStatic thread helper.owner helper.method [.object Value.arrayTag array],
      .value (.object Value.stringTag id)),
    (.disableCollection id, .done),
    (.stringValue id, .text text),
    (.enableCollection id, released)]

/-- An attempt that fetched a text comes back with the entries of the text. -/
theorem Fetched.evaluate_eq
    (h : Fetched settings helper context values link thread array id text l) :
    (evaluate settings helper context values).run.run.run link =
      (.ok (entriesOf values.length text), l) := by
  obtain ⟨⟨ht, hf, hn, hs⟩, hi, hd, hv⟩ := h
  rename_i stored returned pinned read elements found created
  have hfound : (ask (·.findClass thread settings.arrayType context.loader)
      .arrayTypeUnavailable).run.run.run link = (.ok (.ok elements), found) := ask_eq_ok_iff.2 hf
  have hcreated : (ask (·.newArray elements values.length)).run.run.run found =
      (.ok (.ok array), created) := ask_eq_ok_iff.2 hn
  have hstored : (ask (·.setArrayValues array values)).run.run.run created =
      (.ok (.ok ()), stored) := ask_eq_ok_iff.2 hs
  have hread : (replyText (.object Value.stringTag id)).run.run.run returned =
      (.ok (.ok text), release id read) := replyText_eq_ok_iff.2 ⟨id, _, _, rfl, hd, hv, rfl⟩
  unfold evaluate
  rw [ht]
  dsimp only
  rw [run_bind, hfound]
  dsimp only
  rw [run_bind, hcreated]
  dsimp only
  rw [run_bind, hstored]
  dsimp only
  rw [run_bind, invoke_eq_ok_iff.2 hi]
  dsimp only
  rw [run_bind, hread]
  rfl

/-- An attempt that fetched a text made its calls in their order, and all succeeded. -/
theorem Fetched.exchanges (h : Fetched settings helper context values link thread array id text l) :
    ∃ elements released, l.exchanges = link.exchanges ++
      talk settings helper context values thread array id text elements released := by
  obtain ⟨⟨-, hf, hn, hs⟩, hi, hd, hv⟩ := h
  rename_i stored returned pinned read elements found created
  have hfound : (link.findClass thread settings.arrayType context.loader).2.exchanges =
      link.exchanges ++
        [(_, .of .owner (link.findClass thread settings.arrayType context.loader).1)] :=
    link.exchanges_exchanged _ _ _
  have hcreated : (found.newArray elements values.length).2.exchanges =
      found.exchanges ++ [(_, .of .id (found.newArray elements values.length).1)] :=
    found.exchanges_exchanged _ _ _
  have hstored : (created.setArrayValues array values).2.exchanges =
      created.exchanges ++ [(_, .of (fun _ => .done) (created.setArrayValues array values).1)] :=
    created.exchanges_exchanged _ _ _
  have hreturned : (stored.invokeStatic thread helper.owner helper.method
      [.object Value.arrayTag array]).2.exchanges = stored.exchanges ++
        [(_, .ofPanicking (stored.invokeStatic thread helper.owner helper.method
          [.object Value.arrayTag array]).1)] := stored.exchanges_exchanged _ _ _
  have hpinned : (returned.disableCollection id).2.exchanges =
      returned.exchanges ++ [(_, .of (fun _ => .done) (returned.disableCollection id).1)] :=
    returned.exchanges_exchanged _ _ _
  have hread : (pinned.stringValue id).2.exchanges =
      pinned.exchanges ++ [(_, .of .text (pinned.stringValue id).1)] :=
    pinned.exchanges_exchanged _ _ _
  obtain ⟨released, hreleased⟩ := exchanges_release id read
  rw [hf] at hfound
  rw [hn] at hcreated
  rw [hs] at hstored
  rw [hi] at hreturned
  rw [hd] at hpinned
  rw [hv] at hread
  refine ⟨elements, released, ?_⟩
  rw [hreleased, hread, hpinned, hreturned, hstored, hcreated, hfound]
  simp only [List.append_assoc]
  rfl

/-- The debuggee stays counted up to the question. -/
theorem Asked.counted (h : Asked settings context values link thread array stored)
    (counted : link.debuggee.Counted) : stored.debuggee.Counted := by
  obtain ⟨elements, found, created, hf, hn, hs⟩ := h.calls
  have hfound := counted.afterCall (.findClass thread settings.arrayType context.loader)
  rw [Debuggee.afterCall, hf] at hfound
  have hcreated := hfound.afterCall (.newArray elements values.length)
  rw [Debuggee.afterCall, hn] at hcreated
  have hstored := hcreated.afterCall (.setArrayValues array values)
  rwa [Debuggee.afterCall, hs] at hstored

/-- A helper that replies with a text about objects is asked about exactly these, and its text is fetched from a
string that was not there before. -/
theorem fetched_of_text (objects : ∀ v ∈ values, v.objectId?.isSome)
    (counted : link.debuggee.Counted) (thread_eq : context.scope.thread = some thread)
    (canAsk : link.debuggee.canAsk settings = true) (canRead : link.debuggee.canRead = true)
    (reply : link.debuggee.reply? values = some (.text text)) (helper : Helper) :
    ∃ array asked id l, Asked settings context values link thread array asked ∧
      asked.debuggee.arrays.find? array = some values ∧
      link.debuggee.strings.find? id = none ∧
      Fetched settings helper context values link thread array id text l := by
  obtain ⟨other, array, asked, hasked⟩ : IsAsked settings context values link :=
    (isAsked_iff objects).2 ⟨by rw [thread_eq]; rfl, canAsk⟩
  obtain rfl : thread = other := by
    obtain ⟨hother, -⟩ := hasked
    exact Option.some.inj (thread_eq.symm.trans hother)
  obtain ⟨id, l, hfetched, hnew⟩ : ∃ id l, Fetched settings helper context values link thread array
      id text l ∧ asked.debuggee.lastId < id := hasked.fetched counted.collected canRead reply
  obtain ⟨hsame, harray⟩ := hasked.sameReplies
  refine ⟨array, asked, id, l, hasked, harray, ?_, hfetched⟩
  rw [← hsame.strings]
  exact (hasked.counted counted).strings id hnew

end Attempt

/-- What a request comes to if the helper says this about it: the text, or the exception if it has a name, with
question marks for characters that have no byte. -/
def Request.told (request : Request) (entry : Reply.Entry) : Request × Completion :=
  (request, if entry.isError && !entry.message.isEmpty then
      .failure ("Method threw '" ++ Latin1.legible entry.message ++ "' exception.")
    else .success (Latin1.legible entry.message))

namespace Session

variable {s : Session} {context : Context} {requests : List Request}

/-- After an attempt that came back with an entry for each request, requests are completed from these and nothing more
is called. -/
theorem evaluateAll_of_entries {helper : Helper} {entries : List Reply.Entry} {link : Link}
    (known : s.probe.helper? = some helper)
    (h : (Attempt.evaluate s.settings helper context (requests.map (·.value))).run.run.run s.link =
      (.ok (.ok entries), link)) (length : entries.length = requests.length) :
    ((evaluateAll context requests).run.run s).2.completions =
        s.completions ++ List.zipWith Request.answered (reached requests) entries ∧
      ((evaluateAll context requests).run.run s).2.exchanges = link.exchanges := by
  have hgrows := Attempt.evaluate_grows s.settings helper context (requests.map (·.value)) s.link
  rw [h] at hgrows
  have hcompleted : (s.withLink link).completions = s.completions :=
    congrArg Ledger.completed (ledger_withLink s hgrows)
  obtain ⟨-, hdone⟩ := run_deliver_reached length (s.withLink link)
  rw [hcompleted] at hdone
  have hexchanges : ((deliver requests entries).run.run (s.withLink link)).2.exchanges =
      link.exchanges := exchanges_deliver requests entries (s.withLink link)
  rw [run_evaluateAll, run_evaluateTogether, known]
  dsimp only
  rw [run_evaluateBatch, run_attemptBatch h]
  dsimp only
  rcases hd : (deliver requests entries).run.run (s.withLink link) with ⟨payload | _, s'⟩ <;>
    rw [hd] at hdone hexchanges <;> exact ⟨hdone, hexchanges⟩

/-- After an attempt that came back with a fault each request is completed on its own. -/
theorem evaluateAll_of_fault {helper : Helper} {fault : BatchFault} {link : Link}
    (known : s.probe.helper? = some helper)
    (h : (Attempt.evaluate s.settings helper context (requests.map (·.value))).run.run.run s.link =
      (.ok (.error fault), link)) :
    ((evaluateAll context requests).run.run s).2.completions =
        s.completions ++ (reached requests).map (Request.alone s.link.debuggee.displays) ∧
      ∃ later, ((evaluateAll context requests).run.run s).2.exchanges = link.exchanges ++ later := by
  have hgrows := Attempt.evaluate_grows s.settings helper context (requests.map (·.value)) s.link
  rw [h] at hgrows
  rw [run_evaluateAll, run_evaluateTogether, known]
  dsimp only
  rw [run_evaluateBatch, run_attemptBatch h]
  dsimp only
  generalize hnoted : (s.withLink link).note (.batchFailed context.scope.id requests.length fault) =
    t
  have hledger : t.ledger = s.ledger := by
    rw [← hnoted, ledger_note _ rfl]
    exact ledger_withLink s hgrows
  have hcompleted : t.completions = s.completions := congrArg Ledger.completed hledger
  have hexchanges : t.exchanges = link.exchanges := by
    rw [← hnoted, exchanges_note]
    rfl
  have hdisplays : t.link.debuggee.displays = s.link.debuggee.displays := by
    rw [← hnoted]
    exact hgrows.setup.displays
  obtain ⟨-, hdone⟩ := run_individually_reached requests t
  obtain ⟨alone, halone, -⟩ := makes_individually requests t
  rw [hcompleted, hdisplays] at hdone
  rw [hexchanges] at halone
  exact ⟨hdone, alone, halone⟩

/-- What requests are completed with if the helper said these entries about them. -/
def completedFrom (displays : Table ObjectId (Except RemoteError String)) (requests : List Request)
    (entries : List Reply.Entry) : List (Request × Completion) :=
  if entries.length = requests.length then
    List.zipWith Request.answered (reached requests) entries
  else (reached requests).map (Request.alone displays)

/-- Requests that are evaluated together after a text was fetched are completed from the entries of the text, or each
on its own if there is not one entry for each. -/
theorem evaluateAll_of_fetched {helper : Helper} {thread : ThreadId} {array id : ObjectId}
    {text : String} {link : Link} {entries : List Reply.Entry}
    (known : s.probe.helper? = some helper)
    (fetched : Attempt.Fetched s.settings helper context (requests.map (·.value)) s.link thread array
      id text link)
    (decode : Reply.decode (Latin1.encode text) = .ok entries) :
    ((evaluateAll context requests).run.run s).2.completions =
        s.completions ++ completedFrom s.link.debuggee.displays requests entries ∧
      ∃ later, ((evaluateAll context requests).run.run s).2.exchanges = link.exchanges ++ later ∧
        (entries.length = requests.length → later = []) := by
  have hr := fetched.evaluate_eq
  rw [List.length_map] at hr
  unfold completedFrom
  by_cases hlength : entries.length = requests.length
  · rw [Attempt.entriesOf_eq_ok_iff.2 ⟨decode, hlength⟩] at hr
    obtain ⟨hdone, hexchanges⟩ := evaluateAll_of_entries known hr hlength
    rw [if_pos hlength]
    exact ⟨hdone, [], hexchanges.trans (List.append_nil _).symm, fun _ => rfl⟩
  · have hmismatch : Attempt.entriesOf requests.length text =
        .error (.entryCountMismatch requests.length entries.length) := by
      rw [Attempt.entriesOf, decode]
      exact if_neg hlength
    rw [hmismatch] at hr
    obtain ⟨hdone, later, hlater⟩ := evaluateAll_of_fault known hr
    rw [if_neg hlength]
    exact ⟨hdone, later, hlater, fun h => absurd h hlength⟩

/-- Completions from normal entries spell out what the helper said. -/
theorem completedFrom_normal (displays : Table ObjectId (Except RemoteError String))
    (requests : List Request) (entries : List Reply.Entry) :
    completedFrom displays requests (entries.map Reply.Entry.normal) =
      if entries.length = requests.length then List.zipWith Request.told (reached requests) entries
      else (reached requests).map (Request.alone displays) := by
  rw [completedFrom, List.length_map, List.zipWith_map_right]
  rfl

variable {debuggee : Debuggee}

/-- From the values to the texts: the turn of a flush of a valid scope with a thread, in any run of a debuggee with
counted strings, if the helper is known, the type of the array is loaded, and the calls for the array and for the
string are not set to fail. When the helper is asked, its array holds exactly the values of the batch, in the order
in which the requests were accepted. If the helper replies with the text of some entries, that text is read from a
string that was not there before. The requests are then completed, up to the first one whose sink panics: if there
are as many entries as requests, each with what the entry at its place says, and otherwise each with what it comes
to alone. -/
theorem delivers_end_to_end (counted : debuggee.Counted) (settings : DebuggerSettings)
    (connection : Connection) (events : List Event) :
    let s := (start debuggee settings connection).play events
    ∀ context rest requests thread helper entries,
      s.queue.waiting = .flush context :: rest →
      s.pending.find? context.scope.id = some requests →
      s.suspensions.isValid context.scope = true → context.scope.thread = some thread →
      s.probe = .available helper →
      s.link.debuggee.canAsk s.settings = true → s.link.debuggee.canRead = true →
      (∀ entry ∈ entries, entry.message.length < 0x80000000) →
      s.link.debuggee.reply? (requests.map (·.value)) =
        some (.text (Latin1.decode (Reply.encode entries))) →
      (requests ≠ [] ∧ requests.Sublist s.accepted) ∧
      (∃ array asked id elements released later,
        Attempt.Asked s.settings context (requests.map (·.value)) s.link thread array asked ∧
        asked.debuggee.arrays.find? array = some (requests.map (·.value)) ∧
        s.link.debuggee.strings.find? id = none ∧
        s.exchangesSince (s.after .turn) = Attempt.talk s.settings helper context
          (requests.map (·.value)) thread array id (Latin1.decode (Reply.encode entries)) elements
            released ++ later ∧
        (entries.length = requests.length → later = [])) ∧
      (s.after .turn).completions = s.completions ++
        (if entries.length = requests.length then
          List.zipWith Request.told (reached requests) entries
        else (reached requests).map (Request.alone s.link.debuggee.displays)) ∧
      ((∀ request ∈ requests, request.sink.panic = none) → reached requests = requests) := by
  intro s context rest requests thread helper entries waiting pending valid thread_eq known canAsk
    canRead short reply
  have hsound : s.ledger.Sound := sound_play events (sound_start debuggee settings connection)
  have hgathered : s.ledger.Gathered := by
    have hunder := gathered_playUnder (s := start debuggee settings connection)
      (events.map (id, ·)) fun _ => List.nil_sublist _
    rwa [(playUnder_id _ events).1] at hunder
  have hcounted : s.link.debuggee.Counted := counted_play counted events
  obtain ⟨nonempty, hsublist, hobjects⟩ := accepted_of_flush hsound hgathered waiting pending
  have hvalues : ∀ v ∈ requests.map (·.value), v.objectId?.isSome := by
    intro v hv
    obtain ⟨request, hr, rfl⟩ := List.mem_map.1 hv
    obtain ⟨id, hid, -⟩ := hobjects request hr
    rw [hid]
    rfl
  obtain ⟨array, asked, id, link, hasked, harray, hnew, hfetched⟩ :=
    Attempt.fetched_of_text hvalues hcounted thread_eq canAsk canRead reply helper
  obtain ⟨elements, released, htalk⟩ := hfetched.exchanges
  have hdecode := (Reply.decode_encode_normal entries short).2.2.1
  have hknown : s.probe.helper? = some helper := by
    rw [known]
    rfl
  obtain ⟨hdone, later, hlater, hnone⟩ := evaluateAll_of_fetched
    (s := ((s.taken rest).takePending context.scope.id).2) hknown hfetched hdecode
  rw [List.length_map] at hnone
  rw [completedFrom_normal] at hdone
  have hafter := after_flush waiting pending nonempty valid
  refine ⟨⟨nonempty, hsublist⟩, ⟨array, asked, id, elements, released, later, hasked, harray, hnew,
    exchangesSince_eq ?_, hnone⟩, ?_, reached_of_calm⟩
  · rw [hafter, exchanges_contain, hlater, htalk, List.append_assoc]
    rfl
  · rw [hafter, completions_contain, hdone]
    rfl

/-- Two objects, the first of which has a sink that panics, or does not, and a helper that names an exception for the
first and gives the second a text with a character that has no byte. -/
def twoTold (panic : Option Panic) : List Event :=
  [.step (.suspend 0 (some 1)),
    .step (.setHandler (.ofReplies [.fixed [.failure "NPE", .success "caf\u00e9 \u20ac"]])),
    .step (.submit ⟨"a", .object 76 2, ⟨0, none, none⟩, ⟨[], [], [], panic⟩⟩),
    .step (.submit ⟨"b", .object 76 3, ⟨0, none, none⟩, ⟨[], [], [], none⟩⟩)]

/-- That a sink panics matters: behind the object whose sink does, the other one is not completed. -/
theorem not_reached_twoTold :
    let s := (start .withHelper {} .localProcess).play (twoTold (some (.text "sink")))
    s.next.map (·.label) = ["a", "b"] ∧ s.next.all (·.context.scope.thread.isSome) = true ∧
    s.next.all (fun request => s.suspensions.isValid request.context.scope) = true ∧
    s.probe.availability = .available ∧ s.link.debuggee.failures.keys = [] ∧
    (s.link.debuggee.classes.find? s.settings.arrayType).isSome = true ∧
    s.link.debuggee.reply? (s.next.map (·.value)) = some (.text (Latin1.decode
      (Reply.encode [.failure "NPE", .success "caf\u00e9 \u20ac"]))) ∧
    (s.after .turn).completions.map (·.1.label) = ["a"] := by
  decide +kernel

/-- Without the panic each of the two comes to what was said about it. -/
theorem delivers_end_to_end_twoTold :
    (((start .withHelper {} .localProcess).play (twoTold none)).after .turn).completions.map
      (fun p => (p.1.label, p.2)) =
        [("a", .failure "Method threw 'NPE' exception."), ("b", .success "caf\u00e9 ?")] := by
  have hcounted : Debuggee.withHelper.Counted := Debuggee.counted_of_empty rfl rfl
  obtain ⟨-, -, hdone, -⟩ := delivers_end_to_end hcounted {} .localProcess (twoTold none)
    ⟨⟨1, some 1, 0⟩, none, .localProcess⟩ [] _ 1
    ⟨⟨10002, "com.intellij.rt.debugger.BatchEvaluatorServer"⟩, 10003⟩
    [.failure "NPE", .success "caf\u00e9 \u20ac"] rfl rfl (by decide +kernel) rfl (by decide +kernel)
    (by decide +kernel) (by decide +kernel) (by decide) (by decide +kernel)
  rw [hdone]
  decide +kernel

end Session

end BatchStringify
