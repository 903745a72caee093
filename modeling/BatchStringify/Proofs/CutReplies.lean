import BatchStringify.Proofs.BatchDelivery
import BatchStringify.Proofs.Reached
import BatchStringify.Proofs.ReplyGrammar

/-!
# Replies that were cut or padded

A reply has no mark at its end, so a part of it can be a reply as well, and so can a reply with more bytes behind
it. But then it has fewer entries, or more: among the replies with the same number of entries none begins with
another one (`eq_of_begins`). Since a batch counts the entries, it is not completed from a reply that lost
bytes at its end or got further ones, wherever it was cut and whatever the further ones are
(`cut_reply_undelivered`).
-/

namespace BatchStringify

namespace Reply

/-- Entries without any bytes are none. -/
theorem Spells.eq_nil_iff {bytes : List UInt8} {entries : List Entry} (h : Spells bytes entries) :
    entries = [] ↔ bytes = [] := by
  cases h <;> simp

/-- Accepted replies with the same number of entries are the same if one begins with the other. -/
theorem eq_of_begins {bytes longer : List UInt8} {entries others : List Entry}
    (accepted : decode bytes = .ok entries) (accepted' : decode longer = .ok others)
    (length : entries.length = others.length) (begins : bytes <+: longer) : bytes = longer := by
  obtain ⟨more, rfl⟩ := begins
  rw [decode_append accepted] at accepted'
  cases hmore : decode more with
  | error fault =>
    rw [hmore] at accepted'
    cases accepted'
  | ok added =>
    rw [hmore] at accepted'
    obtain rfl : entries ++ added = others := Except.ok.inj accepted'
    have hnone : added = [] := by
      rw [List.length_append] at length
      exact List.eq_nil_of_length_eq_zero (by omega)
    have hspells : Spells more added := decodeFrom_eq_ok_iff.mp hmore
    rw [hspells.eq_nil_iff.mp hnone, List.append_nil]

/-- Whether bytes are what is left of a whole reply, or the whole one with more behind it. -/
structure Misfits (bytes whole : List UInt8) : Prop where
  related : bytes <+: whole ∨ whole <+: bytes
  proper : bytes ≠ whole

/-- A reply that was cut or padded does not have as many entries as the whole one. -/
theorem Misfits.length_ne {bytes whole : List UInt8} {entries found : List Entry}
    (h : Misfits bytes whole) (accepted : decode whole = .ok entries)
    (accepted' : decode bytes = .ok found) : found.length ≠ entries.length := by
  intro length
  rcases h.related with hcut | hpadded
  · exact h.proper (eq_of_begins accepted' accepted length hcut)
  · exact h.proper (eq_of_begins accepted accepted' length.symm hpadded).symm

end Reply

namespace Session

variable {requests : List Request} {context : Context} {s : Session} {whole bytes : List UInt8}
  {entries : List Reply.Entry}

/-- A reply that was cut or padded answers no attempt. -/
theorem not_answered_of_misfits (accepted : Reply.decode whole = .ok entries)
    (length : entries.length = requests.length) (misfits : Reply.Misfits bytes whole)
    (reply : s.link.debuggee.replyText? (requests.map (·.value)) = some (Latin1.decode bytes))
    (helper : Helper) (context : Context) :
    ¬∃ found link, Attempt.Answered s.settings helper context (requests.map (·.value)) s.link
      found link := by
  rintro ⟨found, link, answered⟩
  obtain ⟨-, text, htext, hdecode⟩ := answered.replyText?_eq
  obtain rfl := Option.some.inj (reply.symm.trans htext)
  rw [Latin1.encode_decode] at hdecode
  have hfound := answered.length_eq
  rw [List.length_map, ← length] at hfound
  exact misfits.length_ne accepted hdecode hfound

/-- A helper whose reply has a text does not panic. -/
theorem returns_of_replyText {d : Debuggee} {elements : List Value} {text : String}
    (h : d.replyText? elements = some text) (payload : Panic) :
    d.reply? elements ≠ some (.panic payload) := by
  intro hpanic
  rw [Debuggee.replyText?, hpanic] at h
  cases h

/-- Where an attempt is not answered, a flush evaluates each request on its own. -/
theorem flush_of_not_answered {before : Session}
    (taken : before.takePending context.scope.id = (requests, s)) (nonempty : requests ≠ [])
    (answered : ∀ helper, ¬∃ found link, Attempt.Answered s.settings helper context
      (requests.map (·.value)) s.link found link)
    (returns : ∀ payload, s.link.debuggee.reply? (requests.map (·.value)) ≠ some (.panic payload)) :
    ∃ s', (flush context).run.run before = (requests.forM evaluateIndividually).run.run s' ∧
      s'.completions = s.completions ∧ s.link.debuggee.SameSetup s'.link.debuggee := by
  have hflush := run_flush_of_taken taken nonempty
  cases hp : before.probe.helper? with
  | none =>
    rw [hp] at hflush
    exact ⟨s, hflush, rfl, .refl _⟩
  | some helper =>
    obtain ⟨s', hrun, hledger, hsetup⟩ :=
      evaluateBatch_of_not_answered (answered helper) fun _ => returns
    rw [hp] at hflush
    dsimp only at hflush
    rw [hrun] at hflush
    exact ⟨s', hflush, congrArg Ledger.completed hledger, hsetup⟩

/-- Among the replies with the same number of entries none begins with another one. So if the reply to a batch is a
whole reply with an entry for each request from which bytes were cut at the end, or to which bytes were added, the
evaluation with one call completes no request and leaves all. The flush then evaluates each request on its own, in
their order, up to the first one whose sink panics, that one included; if no sink panics, these are all
requests. -/
theorem cut_reply_undelivered :
    (∀ bytes longer entries others, Reply.decode bytes = .ok entries →
      Reply.decode longer = .ok others → entries.length = others.length → bytes <+: longer →
        bytes = longer) ∧
    ∀ (context : Context) (requests : List Request) (s : Session) (whole bytes : List UInt8)
      (entries : List Reply.Entry), Reply.decode whole = .ok entries →
      entries.length = requests.length → (bytes <+: whole ∨ whole <+: bytes) → bytes ≠ whole →
      s.link.debuggee.replyText? (requests.map (·.value)) = some (Latin1.decode bytes) →
      (∀ helper, ∃ s', (evaluateBatch helper context requests).run.run s =
          (.ok (false, requests), s') ∧ s'.completions = s.completions) ∧
      ∀ before : Session, before.takePending context.scope.id = (requests, s) → requests ≠ [] →
        (∃ s', (flush context).run.run before =
            (requests.forM evaluateIndividually).run.run s' ∧ s'.completions = s.completions) ∧
        ((flush context).run.run before).2.completions = s.completions ++
          (reached requests).map (Request.alone s.link.debuggee.displays) ∧
        ((∀ request ∈ requests, request.sink.panic = none) →
          reached requests = requests ∧ ((flush context).run.run before).1 = .ok ()) := by
  refine ⟨fun _ _ _ _ => Reply.eq_of_begins, ?_⟩
  intro context requests s whole bytes entries accepted length related proper reply
  have hunanswered := not_answered_of_misfits accepted length ⟨related, proper⟩ reply
  have hreturns := returns_of_replyText reply
  constructor
  · intro helper
    obtain ⟨s', hrun, hledger, -⟩ :=
      evaluateBatch_of_not_answered (hunanswered helper context) fun _ => hreturns
    exact ⟨s', hrun, congrArg Ledger.completed hledger⟩
  · intro before taken nonempty
    obtain ⟨s', hflush, hcompletions, hsetup⟩ :=
      flush_of_not_answered taken nonempty (fun helper => hunanswered helper context) hreturns
    obtain ⟨hend, hdone⟩ := run_individually_reached requests s'
    refine ⟨⟨s', hflush, hcompletions⟩, ?_, fun sinks => ⟨reached_of_calm sinks, ?_⟩⟩
    · rw [hflush, hdone, hcompletions, hsetup.displays]
    · rw [hflush, hend, outcomeOfSinks_of_calm sinks]

/-- Two objects, the first of which has a sink that panics, or does not, and a helper whose reply lost its last
byte. -/
def shortReply (panic : Option Panic) : List Event :=
  [.step (.suspend 0 (some 1)),
    .step (.setHandler (.ofReplies [.bytes [0, 0, 0, 1, 0x78, 0, 0, 0, 1]])),
    .step (.submit ⟨"a", .object 76 2, ⟨0, none, none⟩, ⟨[], [], [], panic⟩⟩),
    .step (.submit ⟨"b", .object 76 3, ⟨0, none, none⟩, ⟨[], [], [], none⟩⟩)]

/-- That no sink panics cannot be left out: behind the object whose sink does, the other one is not completed. -/
theorem not_reached_shortReply :
    let s := (start .withHelper {} .localProcess).play (shortReply (some (.text "sink")))
    s.next.map (·.label) = ["a", "b"] ∧ s.next.all (·.context.scope.thread.isSome) = true ∧
    Reply.decode [0, 0, 0, 1, 0x78, 0, 0, 0, 1, 0x79] = .ok [.success "x", .success "y"] ∧
    [0, 0, 0, 1, 0x78, 0, 0, 0, 1] <+: [0, 0, 0, 1, 0x78, 0, 0, 0, 1, 0x79] ∧
    s.link.debuggee.replyText? (s.next.map (·.value)) =
      some (Latin1.decode [0, 0, 0, 1, 0x78, 0, 0, 0, 1]) ∧
    (s.after .turn).completions.map (·.1.label) = ["a"] := by
  decide +kernel

/-- The context in which the two objects were submitted. -/
def shortReplyContext : Context := ⟨⟨1, some 1, 0⟩, none, .localProcess⟩

/-- Without the panic both objects are completed, each with its own text. -/
theorem cut_reply_undelivered_shortReply :
    let s := (start .withHelper {} .localProcess).play (shortReply none)
    ((flush shortReplyContext).run.run s).1 = .ok () ∧
    ((flush shortReplyContext).run.run s).2.completions.map (fun p => (p.1.label, p.2)) =
      [("a", .success "str#2"), ("b", .success "str#3")] := by
  intro s
  obtain ⟨-, hundelivered⟩ := cut_reply_undelivered
  have hreply : (s.takePending 1).2.link.debuggee.replyText? ((s.takePending 1).1.map (·.value)) =
      some (Latin1.decode [0, 0, 0, 1, 0x78, 0, 0, 0, 1]) := by decide +kernel
  have hlength : [Reply.Entry.success "x", .success "y"].length = (s.takePending 1).1.length := by
    decide +kernel
  obtain ⟨-, hflush⟩ := hundelivered shortReplyContext (s.takePending 1).1 (s.takePending 1).2
    [0, 0, 0, 1, 0x78, 0, 0, 0, 1, 0x79] [0, 0, 0, 1, 0x78, 0, 0, 0, 1]
    [.success "x", .success "y"] (by decide +kernel) hlength (.inl (by decide)) (by decide) hreply
  have hnonempty : (s.takePending 1).1 ≠ [] := by
    intro hnil
    rw [hnil] at hlength
    cases hlength
  obtain ⟨-, hdone, hall⟩ := hflush s rfl hnonempty
  obtain ⟨hreached, hend⟩ := hall (by decide +kernel)
  refine ⟨hend, ?_⟩
  rw [hdone, hreached]
  decide +kernel

end Session

end BatchStringify
