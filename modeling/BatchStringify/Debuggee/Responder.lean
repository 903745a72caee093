import BatchStringify.Debuggee.Basic
import BatchStringify.Reply.Codec

/-!
# Canned helpers

Batch helpers for a debuggee, given by a list of replies: the first call gets the first reply, and
the last reply serves all later calls.
-/

namespace BatchStringify

/-- One prepared reply of a batch helper. -/
inductive CannedReply where
  /-- One entry for each element, found by the decimal number of its object: an error, a text, or
  the name of the object if neither table has it. -/
  | perElement (errors texts : Table String String)
  /-- These entries, whatever the elements. -/
  | fixed (entries : List Reply.Entry)
  /-- This text. -/
  | text (content : String)
  /-- The text of these bytes. -/
  | bytes (content : List UInt8)
  | value (v : Value)
  | collected
  | fault (error : RemoteError)
  | panic (payload : Panic)

namespace CannedReply

/-- The entry for one element; an element that is no object has the text `null`. -/
def entryFor (errors texts : Table String String) (v : Value) : Reply.Entry :=
  match v.objectId? with
  | none => .success "null"
  | some id =>
    match errors.find? (toString id) with
    | some exception => .failure exception
    | none => .success ((texts.find? (toString id)).getD ("obj#" ++ toString id))

/-- The text that carries entries. -/
def carry (entries : List Reply.Entry) : HandlerReply :=
  .text (Latin1.decode (Reply.encode entries))

/-- The reply to the elements of an array. -/
def answer (elements : List Value) : CannedReply → HandlerReply
  | .perElement errors texts => carry (elements.map (entryFor errors texts))
  | .fixed entries => carry entries
  | .text content => .text content
  | .bytes content => .text (Latin1.decode content)
  | .value v => .value v
  | .collected => .collected
  | .fault error => .fault error
  | .panic payload => .panic payload

end CannedReply

/-- The helper that goes through prepared replies; without any it panics. -/
def Handler.ofReplies (replies : List CannedReply) : Handler := fun n elements =>
  match replies[n]? <|> replies.getLast? with
  | some reply => reply.answer elements
  | none => .panic .unreadable

namespace Debuggee

/-- A debuggee that knows nothing. -/
def blank : Debuggee := {}

/-- A debuggee with the type of object arrays and twenty objects, one of which cannot be turned
into text. -/
def plain : Debuggee :=
  let (_, d) := blank.defineClass "java.lang.Object[]"
  (List.range' 1 20).foldl (fun d id =>
    d.setDisplay id (if id = 13 then .error (.invocationException "java.lang.IllegalStateException")
      else .ok ("str#" ++ toString id))) d

/-- A plain debuggee with the default batch helper. -/
def withHelper : Debuggee :=
  let (_, d) := plain.defineMethod "com.intellij.rt.debugger.BatchEvaluatorServer" "evaluate"
    "([Ljava/lang/Object;)Ljava/lang/String;"
  d.setHandler (.ofReplies
    [.perElement (Table.empty.put "13" "java.lang.IllegalStateException") .empty])

end Debuggee

end BatchStringify
