import BatchStringify.Session.Script

/-!
# Requests

A request is a value on its way to becoming text, with the scope it was seen in and the sink that
takes the result.
-/

namespace BatchStringify

/-- A value to be turned into text. -/
structure Request where
  /-- How many requests the session had made before it: no two requests have the same number. -/
  serial : Nat
  /-- The name that its completion is reported under. -/
  label : String
  value : Value
  context : Context
  sink : Sink

/-- What a request comes to: the use of one of its two sinks. -/
inductive Completion where
  /-- The first sink took the text of the value. -/
  | success (text : String)
  /-- The second sink took a message in place of a text. -/
  | failure (message : String)
  deriving DecidableEq, Repr

/-- The completion of a request that was evaluated on its own. -/
def Completion.ofOutcome : Except RemoteError String → Completion
  | .ok text => .success text
  | .error error => .failure error.userMessage

/-- The completion of a request whose batch was evaluated. -/
def Completion.ofEntry (entry : Reply.Entry) : Completion :=
  if entry.isError then .failure (RemoteError.thrownMessage entry.message)
  else .success entry.message

namespace Request

/-- A request as messages about it show it. -/
def describe (request : Request) : String :=
  "StringifyRequest \x7b value: " ++ request.value.describe ++ ", scope: SuspendScopeId(" ++
    toString request.context.scope.id ++ "), .. \x7d"

/-- How many commands a request can still give rise to, its own not counted. -/
def weight (request : Request) : Nat := request.sink.weight

end Request

end BatchStringify
