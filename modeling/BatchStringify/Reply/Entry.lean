/-!
# Reply entries

A batch reply is a list of entries, one for each value of the batch and in the same order. An entry
is the text of its value, or the name of the exception that making the text threw.
-/

namespace BatchStringify.Reply

/-- What the batch helper has to say about one value. -/
structure Entry where
  /-- Whether the message names an exception. -/
  isError : Bool
  /-- The text of the value or the name of the exception. -/
  message : String
  deriving DecidableEq, Repr, Inhabited

/-- An entry that carries the text of its value. -/
def Entry.success (message : String) : Entry := ⟨false, message⟩

/-- An entry that names an exception. -/
def Entry.failure (message : String) : Entry := ⟨true, message⟩

end BatchStringify.Reply
