import BatchStringify.Session.Delivery

/-!
# Steps

What each step does to a session and what it answers. A step that names a scope that does not
exist does nothing.
-/

namespace BatchStringify.Session

/-- Does something that cannot panic and answers. -/
def answering (work : Session → Result × Session) : Action Result := modifyGet work

/-- Changes the session and has nothing to answer. -/
def changing (work : Session → Session) : Action Result := modifyGet fun s => (.done, work s)

/-- Answers from the session as it is. -/
def telling (answer : Session → Result) : Action Result := modifyGet fun s => (answer s, s)

/-- Changes the debuggee and has nothing to answer. -/
def preparing (work : Debuggee → Debuggee) : Action Result :=
  changing fun s => s.withLink { s.link with debuggee := work s.link.debuggee }

/-- Changes the debuggee and answers the number that it gave out. -/
def defining (work : Debuggee → Nat × Debuggee) : Action Result :=
  answering fun s =>
    let (id, debuggee) := work s.link.debuggee
    (.number id, s.withLink { s.link with debuggee := debuggee })

/-- Does something with the request for a submission. -/
def withRequest (submission : Submission) (work : Request → Action Result) : Action Result := do
  match ← modifyGet (·.makeRequest submission) with
  | some request => work request
  | none => return .done

/-- Does something with the context at a place. -/
def withContext (place : Place) (work : Context → Action Result) : Action Result := do
  match (← get).contextAt? place with
  | some context => work context
  | none => return .done

/-- Brings a request to its end by hand. -/
def finish (request : Request) : Ending → Action Result
  | .individual => do evaluateIndividually request; return .done
  | .succeed text => do complete request (.success text); return .done
  | .fail message => do complete request (.failure message); return .done
  | .drop => return .done
  | .describe => return .request request

/-- Evaluates a batch by hand. -/
def batchByHand (context : Context) (helper : Helper) (values : List (String × Value)) :
    Action Result := do
  let requests ← modifyGet (·.makePlain context values)
  let (evaluated, left) ← evaluateBatch helper context requests
  return .batch evaluated (left.map (·.value))

/-- Calls the debuggee directly. -/
def callDirectly (call : Call) : Action Result := fun s =>
  match s.link.perform call with
  | (.ok outcome, link) => (.ok (.outcome outcome), s.withLink link)
  | (.error payload, link) => (.error payload, s.withLink link)

/-- Performs a step. -/
def perform : Step → Action Result
  | .attach => answering fun s =>
    (.number s.suspensions.detached.length, { s with suspensions := s.suspensions.attach })
  | .suspend attachment thread => answering fun s =>
    (.suspended s.suspensions.scopes.length (s.suspensions.nextScope attachment thread).id,
      { s with suspensions := s.suspensions.suspend attachment thread })
  | .invalidate scope => changing (·.invalidateAt scope)
  | .detach attachment => changing (·.detach attachment)
  | .scopes => telling fun s => .suspensions s.suspensions
  | .compareScopes a b => telling fun s =>
    match s.scopeAt? a, s.scopeAt? b with
    | some a, some b => .compared (compare a.id b.id)
    | _, _ => .done
  | .submit submission => withRequest submission fun request => changing (·.submit request)
  | .submitRequest submission => withRequest submission fun request => changing (·.submit request)
  | .available place => withContext place fun context => answering fun s =>
    let (answer, s) := s.askProbe context
    (.flag answer, s)
  | .processDetached => changing (·.processDetached)
  | .pendingLength scope => telling fun s =>
    .number ((s.scopeAt? scope).elim 0 fun scope => s.pendingLength scope.id)
  | .isOpen => telling fun s => .flag s.queue.hasSender
  | .settings => telling fun s => .settings s.settings
  | .invoke command => answering fun s => (.accepted s.queue.hasSender, s.offer command)
  | .panic payload => throw payload
  | .request submission ending => withRequest submission (finish · ending)
  | .evaluateBatch place helper values => withContext place (batchByHand · helper values)
  | .probe place => withContext place fun context => answering fun s =>
    let (probe, link) := s.spareProbe.ask s.settings context s.link
    (.flag probe.allows, { s with spareProbe := probe, link := link })
  | .probeState => telling fun s => .probe s.spareProbe
  | .probeDetach => changing fun s => { s with spareProbe := .unknown }
  | .defineClass name => defining (·.defineClass name)
  | .defineMethod owner name signature => defining (·.defineMethod owner name signature)
  | .setDisplay id outcome => preparing (·.setDisplay id outcome)
  | .fail operation error => preparing (·.setFailure operation error)
  | .failRelease error =>
    changing fun s => s.withLink { s.link with releaseFault := some error }
  | .setHandler handler => preparing (·.setHandler handler)
  | .isPinned id => telling fun s => .flag (s.link.debuggee.isPinned id)
  | .displayCalls id => telling fun s => .number (s.link.debuggee.displayCalls id)
  | .call call => callDirectly call

/-- Performs the steps of a command and reports each. -/
def performAll (command : String) (steps : List Step) : Action Unit :=
  steps.forM fun step => do
    let result ← perform step
    modify (·.emit (.performed command step result))

end BatchStringify.Session
