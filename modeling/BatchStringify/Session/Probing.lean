import BatchStringify.Session.Link

/-!
# Probing

Whether batches can be evaluated is found out once for each time the debuggee is attached: the
first question from a suspended thread looks for the batch helper, and its answer holds until the
debuggee detaches. Over a remote connection the helper is never looked for, and a question without
a thread leaves everything as it was.
-/

namespace BatchStringify.Probe

/-- Looks for the helper class and then for its method. -/
def lookUp (settings : DebuggerSettings) (thread : ThreadId) (loader : Option ObjectId)
    (link : Link) : Option Helper × Link :=
  match link.findClass thread settings.helperClass loader with
  | (.error error, link) => (none, link.note (.helperClassMissing error))
  | (.ok owner, link) =>
    match link.findMethod owner settings.helperMethod settings.helperSignature with
    | (.error error, link) => (none, link.note (.helperLookupFailed error))
    | (.ok none, link) => (none, link)
    | (.ok (some method), link) => (some ⟨owner, method⟩, link)

/-- Asks whether batches can be evaluated in a context. The result is the new state, whose
availability is the answer. -/
def ask (settings : DebuggerSettings) (context : Context) (probe : Probe) (link : Link) :
    Probe × Link :=
  match probe, context.connection, context.scope.thread with
  | .unknown, .remote, _ => (.unavailable, link.note .remoteDebuggee)
  | .unknown, .localProcess, none => (.unknown, link)
  | .unknown, .localProcess, some thread =>
    let (helper, link) := lookUp settings thread context.loader link
    let probe := ofHelper helper
    (probe, link.note (.helperProbed settings.helperClass probe.availability))
  | known, _, _ => (known, link)

end BatchStringify.Probe
