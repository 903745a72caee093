/-!
# Readers

A reader takes what it reads from the front of the text and hands on the rest, or fails. Which
failure it was is not kept.
-/

namespace BatchStringify.Text

/-- Reads a part of a text. -/
abbrev Reader (α : Type) : Type := StateT (List Char) Option α

namespace Reader

variable {α β : Type}

/-- Reads nothing and fails. -/
def fail : Reader α := fun _ => none

/-- Goes on only if the condition holds. -/
def check (condition : Bool) : Reader Unit := if condition then pure () else fail

/-- The next character, left where it is. -/
def peek : Reader (Option Char) := fun text => some (text.head?, text)

/-- Whether the text is at its end. -/
def atEnd : Reader Bool := fun text => some (text.isEmpty, text)

/-- Takes any character. -/
def next : Reader Char
  | [] => none
  | c :: rest => some (c, rest)

/-- Takes a character that satisfies the condition. -/
def charWhere (p : Char → Bool) : Reader Char := do
  let c ← next
  check (p c)
  return c

/-- Takes one given character. -/
def char (c : Char) : Reader Unit := do
  let _ ← charWhere (· = c)

/-- Takes characters as long as they satisfy the condition. -/
def takeWhile (p : Char → Bool) : Reader (List Char) := fun text => some (text.span p)

/-- Takes given characters. -/
def literal (expected : String) : Reader Unit := fun text =>
  (expected.toList.isPrefixOf? text).map fun rest => ((), rest)

/-- Reads if that is possible, else takes nothing. -/
def maybe (r : Reader α) : Reader (Option α) := fun text =>
  match r text with
  | some (a, rest) => some (some a, rest)
  | none => some (none, text)

/-- Reads whether or not it is possible. -/
def skip (r : Reader α) : Reader Unit := do
  let _ ← maybe r

/-- Gives a reader as many steps as it can need: two for each character that is left, and two. -/
def bounded (r : Nat → Reader α) : Reader α := fun text => r (2 * text.length + 2) text

end Reader

end BatchStringify.Text
