import BatchStringify.Session.Link

/-!
# Batch attempts

One call evaluates all values of a batch: they go into an array, the batch helper turns the array
into a reply, and the reply is read as one entry for each value. Anything that goes wrong on the
way ends the attempt with a fault, except that a panic of the helper goes further up. The string
that carries the reply is kept from being collected exactly while it is read.
-/

namespace BatchStringify

/-- Work on a link that can end with a fault or with a panic. -/
abbrev Attempt (α : Type) : Type := ExceptT BatchFault (ExceptT Panic (StateM Link)) α

namespace Attempt

/-- Makes a call whose error is a fault of the batch. -/
def ask {α : Type} (call : Link → Except RemoteError α × Link)
    (fault : RemoteError → BatchFault := .remote) : Attempt α := fun link =>
  match call link with
  | (.ok a, link) => (.ok (.ok a), link)
  | (.error error, link) => (.ok (.error (fault error)), link)

/-- Runs the helper on an array. -/
def invoke (helper : Helper) (thread : ThreadId) (array : ObjectId) : Attempt Value := fun link =>
  match link.invokeStatic thread helper.owner helper.method [.object Value.arrayTag array] with
  | (.ok (.ok v), link) => (.ok (.ok v), link)
  | (.ok (.error error), link) => (.ok (.error (.remote error)), link)
  | (.error payload, link) => (.error payload, link)

/-- Lets an object be collected again; if that fails, nothing but a notice comes of it. -/
def release (id : ObjectId) (link : Link) : Link :=
  match link.enableCollection id with
  | (.ok (), link) => link
  | (.error error, link) => link.note (.releaseFailed id error)

/-- Reads a string and lets it go, whether or not it could be read. -/
def readAndRelease (id : ObjectId) (link : Link) : Except RemoteError String × Link :=
  let (text, link) := link.stringValue id
  (text, release id link)

/-- The string that a value refers to. -/
def stringId? : Value → Option ObjectId
  | .object tag id => if tag = Value.stringTag then some id else none
  | _ => none

/-- The text of the helper's reply. -/
def replyText (reply : Value) : Attempt String := do
  let some id := stringId? reply | throw .notAString
  ask (·.disableCollection id)
  ask (readAndRelease id)

/-- The entries of a reply to `expected` values. -/
def entriesOf (expected : Nat) (text : String) : Except BatchFault (List Reply.Entry) :=
  match Reply.decode (Latin1.encode text) with
  | .error fault => .error (.malformed fault)
  | .ok entries =>
    if entries.length = expected then .ok entries
    else .error (.entryCountMismatch expected entries.length)

/-- Evaluates a batch of values with one call: the entry of each value, in order. -/
def evaluate (settings : DebuggerSettings) (helper : Helper) (context : Context)
    (values : List Value) : Attempt (List Reply.Entry) := do
  let some thread := context.scope.thread | throw .noThread
  let elements ← ask (·.findClass thread settings.arrayType context.loader) .arrayTypeUnavailable
  let array ← ask (·.newArray elements values.length)
  ask (·.setArrayValues array values)
  let reply ← invoke helper thread array
  let text ← replyText reply
  ExceptT.mk (pure (entriesOf values.length text))

end Attempt

end BatchStringify
